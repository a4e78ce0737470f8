import Mathlib
import Lineage.Listing

/-! Lines that are about no checkpoint. A checkpoint's line opens with its abbreviated hash and two
spaces. A text whose first eight bytes end where a character does, and go on without two spaces in a
row, does not open in this way. Main statement: the note at the end of a history is never taken for a
checkpoint. -/

namespace Lineage

namespace Hash

variable {n : Nat} {cs taken rest lead : List Char}

/-- Whatever follows. -/
theorem takeBytes?_append (h : takeBytes? n cs = some taken) :
    takeBytes? n (cs ++ rest) = some taken := by
  fun_induction takeBytes? n cs generalizing taken with
  | case1 => rw [takeBytes?]; exact h
  | case2 => cases h
  | case3 n c cs fits ih =>
      obtain ⟨more, hmore, rfl⟩ := Option.map_eq_some_iff.1 h
      rw [List.cons_append, takeBytes?, if_pos fits, ih hmore]
      rfl
  | case4 => cases h

/-- No character is without a byte. -/
theorem length_le_of_takeBytes? (h : takeBytes? n cs = some taken) : taken.length ≤ n := by
  fun_induction takeBytes? n cs generalizing taken with
  | case1 => cases h; exact Nat.le_refl 0
  | case2 => cases h
  | case3 n c cs fits ih =>
      obtain ⟨more, hmore, rfl⟩ := Option.map_eq_some_iff.1 h
      have hrest := ih hmore
      have hbyte := c.utf8Size_pos
      rw [List.length_cons]
      omega
  | case4 => cases h

/-- A text that could be cut after eight bytes is cut there. -/
theorem not_prefix_abbreviated (cs : List Char) (long : shownBytes < lead.length)
    (cut : (takeBytes? shownBytes lead).isSome = true) : ¬lead <+: abbreviated cs := by
  rintro ⟨rest, happend⟩
  obtain ⟨taken, htaken⟩ := Option.isSome_iff_exists.1 cut
  cases hshort : takeBytes? shownBytes (digest cs) with
  | some short =>
      have hlength := length_le_of_takeBytes? hshort
      rw [abbreviated, hshort, Option.getD_some] at happend
      rw [← happend, List.length_append] at hlength
      omega
  | none =>
      rw [abbreviated, hshort, Option.getD_none] at happend
      rw [← happend, takeBytes?_append htaken] at hshort
      cases hshort

end Hash

namespace Listing

/-- A text that does not open as the line of a checkpoint does. -/
def Apart (text : String) : Prop :=
  ∃ lead, lead <+: text.toList ∧ Hash.shownBytes < lead.length ∧
    (Hash.takeBytes? Hash.shownBytes lead).isSome = true ∧ ¬[' ', ' '] <:+: lead ++ [' ']

variable {now : Instant} {c : Checkpoint} {h : History} {text : String}

theorem Apart.append (apart : Apart text) (more : String) : Apart (text ++ more) := by
  obtain ⟨lead, opens, rest⟩ := apart
  rw [Apart, String.toList_append]
  exact ⟨lead, opens.trans (List.prefix_append _ _), rest⟩

/-- At least two spaces stand behind the hash, however long it is. -/
theorem exists_padEnd_toList (width : Nat) (text more : String) :
    ∃ rest, (padEnd width text ++ "  " ++ more).toList = text.toList ++ ' ' :: ' ' :: rest := by
  let pad := List.replicate (width - text.length) ' '
  have hspaces : pad ++ [' ', ' '] = ' ' :: ' ' :: pad := by
    change _ ++ List.replicate 2 ' ' = _
    rw [List.replicate_append_replicate]
    rfl
  have hgap : "  ".toList = [' ', ' '] := rfl
  refine ⟨pad ++ more.toList, ?_⟩
  rw [padEnd, String.toList_append, String.toList_append, String.toList_append, String.toList_ofList,
    hgap, List.append_assoc text.toList, hspaces, List.append_assoc]
  rfl

theorem exists_checkpointLine_toList (now : Instant) (c : Checkpoint) :
    ∃ rest, (checkpointLine now c).toList =
      Hash.abbreviated c.hash.toList ++ ' ' :: ' ' :: rest := by
  have hshort : c.shortHash.toList = Hash.abbreviated c.hash.toList := String.toList_ofList
  obtain ⟨more, hline⟩ : ∃ more, checkpointLine now c = padEnd 8 c.shortHash ++ "  " ++ more := by
    simp only [checkpointLine, String.append_assoc]
    exact ⟨_, rfl⟩
  rw [hline, ← hshort]
  exact exists_padEnd_toList 8 c.shortHash more

theorem Apart.ne_checkpointLine (apart : Apart text) : text ≠ checkpointLine now c := by
  obtain ⟨lead, opens, long, cut, single⟩ := apart
  have hnot := Hash.not_prefix_abbreviated c.hash.toList long cut
  obtain ⟨rest, hline⟩ := exists_checkpointLine_toList now c
  rintro rfl
  obtain ⟨tail, htail⟩ := opens
  rw [hline] at htail
  rcases List.append_eq_append_iff.1 htail with ⟨more, hshort, -⟩ | ⟨more, hlead, hmore⟩
  · exact hnot ⟨more, hshort.symm⟩
  · match more with
    | [] =>
        rw [List.append_nil] at hlead
        exact hnot (hlead ▸ List.prefix_rfl)
    | [blank] =>
        obtain rfl : ' ' = blank := (List.cons.inj hmore).1
        exact single ⟨Hash.abbreviated c.hash.toList, [], by rw [hlead]; simp⟩
    | first :: second :: more =>
        obtain ⟨hfirst, hmore⟩ := List.cons.inj hmore
        obtain rfl : ' ' = second := (List.cons.inj hmore).1
        exact single ⟨Hash.abbreviated c.hash.toList, more ++ [' '], by rw [hlead, ← hfirst]; simp⟩

theorem apart_endNote (note : endNote h = some text) : Apart text := by
  have early : Apart "History ends early: " := ⟨"History ends early:".toList, by decide +kernel⟩
  rw [endNote] at note
  cases hending : h.ending with
  | root => rw [hending] at note; cases note
  | missing hash =>
      rw [hending] at note
      cases hempty : hash.isEmpty with
      | true =>
          obtain rfl : "No checkpoint selected." = text := by simpa [hempty] using note
          exact ⟨"No checkpoint selected.".toList, by decide +kernel⟩
      | false =>
          obtain rfl : "History ends early: " ++ Hash.abbreviate hash ++ " came back empty." = text := by
            simpa [hempty] using note
          exact (early.append _).append _
  | fetchFailed hash error =>
      rw [hending] at note
      obtain rfl := Option.some.inj note
      have fault : Apart "History ends early: could not fetch " :=
        ⟨"History ends early:".toList, by decide +kernel⟩
      exact ((fault.append _).append _).append _
  | cycle hash =>
      rw [hending] at note
      obtain rfl := Option.some.inj note
      exact (early.append _).append _
  | depthLimit limit =>
      have first : Apart "Showing the first " := ⟨"Showing the first".toList, by decide +kernel⟩
      rw [hending] at note
      obtain rfl := Option.some.inj note
      exact (first.append _).append _

end Listing

end Lineage
