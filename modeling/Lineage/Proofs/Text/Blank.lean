import Mathlib
import Lineage.Text.Blank

/-! Blanks around a text and between its words. Trimming takes off blanks at the ends and nothing else, and
no blank but those within matters for the words. Main statement: the words, joined by single spaces, are
the text with each run of blanks as one space and its ends trimmed; they are the text itself if its only
blanks are single spaces within. -/

namespace Lineage.Text

variable {c : Char} {cs before after word : List Char}

/-! The ends. -/

/-- Nothing is trimmed exactly if there is no blank at either end. -/
theorem trimmed_eq_self_iff :
    trimmed cs = cs ↔ cs.dropWhile isBlank = cs ∧ cs.rdropWhile isBlank = cs := by
  have hopen : trimmed cs = (cs.dropWhile isBlank).rdropWhile isBlank := rfl
  constructor
  · intro h
    have hfront : (cs.dropWhile isBlank).length ≤ cs.length := (List.dropWhile_suffix _).length_le
    have hback : (trimmed cs).length ≤ (cs.dropWhile isBlank).length :=
      (List.rdropWhile_prefix isBlank (cs.dropWhile isBlank)).length_le
    rw [h] at hback
    have hdrop : cs.dropWhile isBlank = cs :=
      (List.dropWhile_suffix _).eq_of_length (hfront.antisymm hback)
    rw [hopen, hdrop] at h
    exact ⟨hdrop, h⟩
  · rintro ⟨hfront, hback⟩
    rw [hopen, hfront, hback]

theorem dropWhile_isBlank_eq_self_iff :
    cs.dropWhile isBlank = cs ↔ ∀ c ∈ cs.head?, isBlank c = false := by
  rw [List.dropWhile_eq_self_iff]
  cases cs <;> simp

theorem trimmed_eq_self_iff_ends :
    trimmed cs = cs ↔
      (∀ c ∈ cs.head?, isBlank c = false) ∧ ∀ c ∈ cs.getLast?, isBlank c = false := by
  rw [trimmed_eq_self_iff, List.rdropWhile, List.reverse_eq_iff, dropWhile_isBlank_eq_self_iff,
    dropWhile_isBlank_eq_self_iff, List.head?_reverse]

theorem trimmed_of_not_isBlank (h : ∀ c ∈ cs, isBlank c = false) : trimmed cs = cs :=
  trimmed_eq_self_iff_ends.2
    ⟨fun c hc => h c (List.mem_of_mem_head? hc), fun c hc => h c (List.mem_of_mem_getLast? hc)⟩

theorem trimmed_append_append {gap rest : List Char} (hword : trimmed word = word) (hne : word ≠ [])
    (hrest : trimmed rest = rest) (hne' : rest ≠ []) : trimmed (word ++ gap ++ rest) = word ++ gap ++ rest := by
  refine trimmed_eq_self_iff_ends.2 ⟨?_, ?_⟩
  · intro c hc
    rw [List.append_assoc, List.head?_append_of_ne_nil _ hne] at hc
    exact (trimmed_eq_self_iff_ends.1 hword).1 c hc
  · intro c hc
    rw [List.getLast?_append_of_ne_nil _ hne'] at hc
    exact (trimmed_eq_self_iff_ends.1 hrest).2 c hc

/-- What was trimmed has no blank left at either end. -/
theorem trimmed_trimmed (cs : List Char) : trimmed (trimmed cs) = trimmed cs := by
  have hopen : trimmed cs = (cs.dropWhile isBlank).rdropWhile isBlank := rfl
  refine trimmed_eq_self_iff.2 ⟨?_, ?_⟩
  · rw [List.dropWhile_eq_self_iff]
    intro hlength
    rw [hopen] at hlength
    have hprefix := List.rdropWhile_prefix isBlank (cs.dropWhile isBlank)
    have hfirst := List.dropWhile_get_zero_not isBlank cs (hlength.trans_le hprefix.length_le)
    rwa [List.get_eq_getElem, ← hprefix.getElem hlength] at hfirst
  · rw [hopen, List.rdropWhile_idempotent]

theorem trimmed_append_left (h : ∀ c ∈ before, isBlank c = true) (cs : List Char) :
    trimmed (before ++ cs) = trimmed cs := by
  rw [trimmed, List.dropWhile_append_of_pos h, trimmed]

theorem trimmed_append_right (h : ∀ c ∈ after, isBlank c = true) (cs : List Char) :
    trimmed (cs ++ after) = trimmed cs := by
  have hback : ∀ c ∈ after.reverse, isBlank c = true := fun c hc => h c (List.mem_reverse.1 hc)
  rw [trimmed, trimmed, List.dropWhile_append]
  split
  · rename_i hblank
    rw [List.isEmpty_iff.1 hblank, List.dropWhile_eq_nil_iff.2 h]
  · rw [List.reverse_append, List.dropWhile_append_of_pos hback]

theorem trim_trim (s : String) : trim (trim s) = trim s := by
  rw [trim, trim, String.toList_ofList, trimmed_trimmed]

theorem trimmed_of_trim {s : String} (h : trim s = s) : trimmed s.toList = s.toList := by
  have := congrArg String.toList h
  rwa [trim, String.toList_ofList] at this

theorem trim_around {before after : String} (hbefore : isAllBlank before = true)
    (hafter : isAllBlank after = true) (s : String) : trim (before ++ s ++ after) = trim s := by
  rw [trim, String.toList_append, String.toList_append, trimmed_append_right (List.all_eq_true.1 hafter),
    trimmed_append_left (List.all_eq_true.1 hbefore), trim]

/-- Nothing but blanks is taken off. -/
theorem exists_trimmed (cs : List Char) :
    ∃ before after, (∀ c ∈ before, isBlank c = true) ∧ (∀ c ∈ after, isBlank c = true) ∧
      cs = before ++ trimmed cs ++ after := by
  have hopen : trimmed cs = (cs.dropWhile isBlank).rdropWhile isBlank := rfl
  refine ⟨cs.takeWhile isBlank, (cs.dropWhile isBlank).rtakeWhile isBlank, ?_, ?_, ?_⟩
  · exact fun c hc => List.mem_takeWhile_imp hc
  · exact fun c hc => List.mem_rtakeWhile_imp hc
  · rw [hopen, List.append_assoc, List.rdropWhile_append_rtakeWhile, List.takeWhile_append_dropWhile]

theorem cutAtBlank_append {rest : List Char} {blank : Char} (hword : ∀ c ∈ word, isBlank c = false)
    (hblank : isBlank blank = true) : cutAtBlank (word ++ blank :: rest) = (word, trimmed rest) := by
  have hall : ∀ c ∈ word, (!isBlank c) = true := by
    intro c hc
    rw [hword c hc]
    rfl
  rw [cutAtBlank, List.takeWhile_append_of_pos hall, List.dropWhile_append_of_pos hall]
  simp [hblank]

theorem trimmed_eq_nil_iff : trimmed cs = [] ↔ ∀ c ∈ cs, isBlank c = true := by
  constructor
  · intro h
    obtain ⟨before, after, hbefore, hafter, hcs⟩ := exists_trimmed cs
    rw [hcs, h, List.append_nil]
    intro c hc
    exact (List.mem_append.1 hc).elim (hbefore c) (hafter c)
  · intro h
    rw [trimmed, List.dropWhile_eq_nil_iff.2 h]
    rfl

theorem trim_eq_empty_iff {s : String} : trim s = "" ↔ isAllBlank s = true := by
  rw [trim, String.ofList_eq_empty_iff, trimmed_eq_nil_iff, isAllBlank, List.all_eq_true]

theorem cutAtBlank_of_not_isBlank (h : ∀ c ∈ word, isBlank c = false) : cutAtBlank word = (word, []) := by
  have hall : ∀ c ∈ word, (!isBlank c) = true := by
    intro c hc
    rw [h c hc]
    rfl
  rw [cutAtBlank, List.takeWhile_eq_self_iff.2 hall, List.dropWhile_eq_nil_iff.2 hall]
  rfl

theorem eq_nil_of_trimmed_append (h : trimmed (before ++ after) = before ++ after)
    (hafter : ∀ c ∈ after, isBlank c = true) : after = [] := by
  by_contra hne
  have hlast := (trimmed_eq_self_iff_ends.1 h).2 (after.getLast hne) (by
    rw [List.getLast?_append_of_ne_nil _ hne, List.getLast?_eq_some_getLast hne]
    rfl)
  rw [hafter _ (List.getLast_mem hne)] at hlast
  cases hlast

/-- A text with blanks in it, but none at its ends, is a word and a rest with blanks between them. -/
theorem exists_cutAtBlank (h : trimmed cs = cs) (hblank : ∃ c ∈ cs, isBlank c = true) :
    ∃ word gap rest, cutAtBlank cs = (word, rest) ∧ cs = word ++ gap ++ rest ∧ word ≠ [] ∧
      (∀ c ∈ gap, isBlank c = true) ∧ gap ≠ [] ∧ trimmed rest = rest ∧ rest ≠ [] := by
  have hcs : cs.takeWhile (!isBlank ·) ++ cs.dropWhile (!isBlank ·) = cs := List.takeWhile_append_dropWhile
  cases hdrop : cs.dropWhile (!isBlank ·) with
  | nil =>
      obtain ⟨c, hc, hblank⟩ := hblank
      have hvisible := List.dropWhile_eq_nil_iff.1 hdrop c hc
      rw [hblank] at hvisible
      cases hvisible
  | cons blank more =>
      have hisBlank : isBlank blank = true := by
        have hhead := List.head?_dropWhile_not (!isBlank ·) cs
        simpa [hdrop] using hhead
      obtain ⟨front, back, hfront, hback, hmore⟩ := exists_trimmed more
      rw [hdrop] at hcs
      have hword : cs.takeWhile (!isBlank ·) ≠ [] := by
        intro hnil
        rw [hnil, List.nil_append] at hcs
        have hfirst := (trimmed_eq_self_iff_ends.1 h).1 blank (by rw [← hcs]; rfl)
        rw [hisBlank] at hfirst
        cases hfirst
      have hrest : trimmed more ≠ [] := by
        intro hnil
        have hall : ∀ c ∈ blank :: more, isBlank c = true :=
          List.forall_mem_cons.2 ⟨hisBlank, trimmed_eq_nil_iff.1 hnil⟩
        cases eq_nil_of_trimmed_append (by rw [hcs]; exact h) hall
      have hline : cs = cs.takeWhile (!isBlank ·) ++ blank :: (front ++ trimmed more) ++ back := by
        rw [List.append_assoc, List.cons_append, ← hmore, hcs]
      have hends : back = [] := by
        rw [hline] at h
        exact eq_nil_of_trimmed_append h hback
      refine ⟨_, blank :: front, trimmed more, ?_, ?_, hword, List.forall_mem_cons.2 ⟨hisBlank, hfront⟩,
        List.cons_ne_nil _ _, trimmed_trimmed more, hrest⟩
      · rw [cutAtBlank, hdrop]
        rfl
      · rw [hends, List.append_nil] at hmore
        rw [List.append_assoc, List.cons_append, ← hmore, hcs]

/-! Words. -/

theorem words_cons_of_isBlank (h : isBlank c = true) (cs : List Char) : words (c :: cs) = words cs := by
  rw [words.eq_def]
  exact if_pos h

theorem words_ne_nil (h : isBlank c = false) (cs : List Char) : words (c :: cs) ≠ [] := by
  rw [words.eq_def]
  simp only [h, Bool.false_eq_true, if_false]
  split
  · simp
  · split
    · simp
    · split <;> simp

/-- A word goes on as long as visible characters follow. -/
theorem words_cons (h : isBlank c = false) (cs : List Char) :
    words (c :: cs) = if cs.head?.map isBlank = some false then (words cs).modifyHead (c :: ·)
      else [c] :: words cs := by
  rw [words.eq_def]
  simp only [h, Bool.false_eq_true, if_false]
  cases cs with
  | nil => rfl
  | cons d cs =>
      cases hd : isBlank d with
      | true => simp [hd]
      | false =>
          obtain ⟨word, more, hwords⟩ := List.exists_cons_of_ne_nil (words_ne_nil hd cs)
          simp [hd, hwords]

theorem words_append_left (h : ∀ c ∈ before, isBlank c = true) (cs : List Char) :
    words (before ++ cs) = words cs := by
  induction before with
  | nil => rfl
  | cons c before ih =>
      obtain ⟨hc, hbefore⟩ := List.forall_mem_cons.1 h
      rw [List.cons_append, words_cons_of_isBlank hc, ih hbefore]

theorem words_append_right (h : ∀ c ∈ after, isBlank c = true) (cs : List Char) :
    words (cs ++ after) = words cs := by
  induction cs with
  | nil => rw [List.nil_append, ← List.append_nil after, words_append_left h]
  | cons c cs ih =>
      cases hc : isBlank c with
      | true => rw [List.cons_append, words_cons_of_isBlank hc, words_cons_of_isBlank hc, ih]
      | false =>
          have hnext : (cs ++ after).head?.map isBlank = some false ↔
              cs.head?.map isBlank = some false := by
            cases cs with
            | nil =>
                cases after with
                | nil => rfl
                | cons d after => simpa using h d List.mem_cons_self
            | cons d cs => rfl
          rw [List.cons_append, words_cons hc, words_cons hc, ih]
          simp only [hnext]

theorem words_trimmed (cs : List Char) : words (trimmed cs) = words cs := by
  obtain ⟨before, after, hbefore, hafter, hcs⟩ := exists_trimmed cs
  conv_rhs => rw [hcs, words_append_right hafter, words_append_left hbefore]

/-! Runs of blanks. -/

/-- Every run of blanks becomes one space: the last blank of a run does, and the others are dropped. -/
def squeezed : List Char → List Char
  | [] => []
  | c :: cs =>
    if !isBlank c then c :: squeezed cs
    else if cs.head?.any isBlank then squeezed cs
    else ' ' :: squeezed cs

theorem squeezed_cons_of_visible (h : isBlank c = false) (cs : List Char) :
    squeezed (c :: cs) = c :: squeezed cs := by
  rw [squeezed, if_pos (by rw [h]; rfl)]

theorem squeezed_cons_of_isBlank (h : isBlank c = true) (cs : List Char) :
    squeezed (c :: cs) = if cs.head?.any isBlank then squeezed cs else ' ' :: squeezed cs := by
  rw [squeezed, if_neg (by simp [h])]

theorem isBlank_space : isBlank ' ' = true := rfl

theorem head?_squeezed (cs : List Char) :
    (squeezed cs).head?.map isBlank = cs.head?.map isBlank := by
  induction cs with
  | nil => rfl
  | cons c cs ih =>
      cases hc : isBlank c with
      | false => rw [squeezed_cons_of_visible hc]; rfl
      | true =>
          rw [squeezed_cons_of_isBlank hc]
          split
          · rename_i hnext
            cases cs with
            | nil => cases hnext
            | cons d cs =>
                have hd : isBlank d = true := hnext
                rw [ih, List.head?_cons, List.head?_cons, Option.map_some, Option.map_some, hc, hd]
          · rw [List.head?_cons, List.head?_cons, Option.map_some, Option.map_some, hc, isBlank_space]

theorem words_squeezed (cs : List Char) : words (squeezed cs) = words cs := by
  induction cs with
  | nil => rfl
  | cons c cs ih =>
      cases hc : isBlank c with
      | false => rw [squeezed_cons_of_visible hc, words_cons hc, words_cons hc, ih, head?_squeezed]
      | true =>
          rw [squeezed_cons_of_isBlank hc, words_cons_of_isBlank hc]
          split
          · exact ih
          · rw [words_cons_of_isBlank isBlank_space, ih]

/-- Spaces are the only blanks, and they stand alone. -/
structure IsSpaced (cs : List Char) : Prop where
  spaces : ∀ c ∈ cs, isBlank c = true → c = ' '
  single : cs.IsChain fun c d => isBlank c = false ∨ isBlank d = false

theorem IsSpaced.tail (h : IsSpaced (c :: cs)) : IsSpaced cs :=
  ⟨fun d hd => h.spaces d (List.mem_cons_of_mem c hd), (List.isChain_cons.1 h.single).2⟩

theorem isSpaced_squeezed (cs : List Char) : IsSpaced (squeezed cs) := by
  induction cs with
  | nil => exact ⟨by simp [squeezed], by simp [squeezed]⟩
  | cons c cs ih =>
      cases hc : isBlank c with
      | false =>
          rw [squeezed_cons_of_visible hc]
          refine ⟨List.forall_mem_cons.2 ⟨?_, ih.spaces⟩, ?_⟩
          · intro h
            rw [hc] at h
            cases h
          · exact List.isChain_cons.2 ⟨fun _ _ => .inl hc, ih.single⟩
      | true =>
          rw [squeezed_cons_of_isBlank hc]
          split
          · exact ih
          · rename_i hnext
            refine ⟨List.forall_mem_cons.2 ⟨fun _ => rfl, ih.spaces⟩, ?_⟩
            refine List.isChain_cons.2 ⟨fun d hd => .inr ?_, ih.single⟩
            have hhead := head?_squeezed cs
            rw [hd] at hhead
            obtain ⟨e, he, hsame⟩ := Option.map_eq_some_iff.1 hhead.symm
            rw [he] at hnext
            rw [← hsame]
            exact Bool.eq_false_of_not_eq_true hnext

theorem intercalate_modifyHead {ws : List (List Char)} (h : ws ≠ []) (c : Char) :
    [' '].intercalate (ws.modifyHead (c :: ·)) = c :: [' '].intercalate ws := by
  match ws with
  | [w] => simp
  | w :: v :: ws => simp [List.intercalate_cons_cons]

/-- The blank in front is all that joining the words takes off, where none is at the end. -/
theorem collapsed_of_isSpaced (h : IsSpaced cs) (hend : ∀ c ∈ cs.getLast?, isBlank c = false) :
    collapsed cs = cs.dropWhile isBlank := by
  induction cs with
  | nil => rfl
  | cons c cs ih =>
      have htail : collapsed cs = cs.dropWhile isBlank := by
        refine ih h.tail fun d hd => hend d ?_
        cases cs with
        | nil => cases hd
        | cons e cs => exact hd
      rw [collapsed] at htail ⊢
      cases hc : isBlank c with
      | true => rw [words_cons_of_isBlank hc, htail, List.dropWhile_cons_of_pos hc]
      | false =>
          rw [words_cons hc, List.dropWhile_cons_of_neg (by simp [hc])]
          cases cs with
          | nil => rfl
          | cons d cs =>
              cases hd : isBlank d with
              | false =>
                  rw [List.dropWhile_cons_of_neg (by simp [hd])] at htail
                  rw [if_pos (by simp [hd]), intercalate_modifyHead (words_ne_nil hd cs), htail]
              | true =>
                  -- The blank is a space, and behind it a word begins.
                  obtain rfl := h.spaces d (List.mem_cons_of_mem c List.mem_cons_self) hd
                  cases cs with
                  | nil => exact absurd (hend ' ' rfl) (by decide)
                  | cons e cs =>
                      have he : isBlank e = false :=
                        ((List.isChain_cons.1 h.tail.single).1 e rfl).resolve_left (by decide)
                      obtain ⟨w, ws, hwords⟩ := List.exists_cons_of_ne_nil (words_ne_nil he cs)
                      rw [words_cons_of_isBlank hd, hwords] at htail ⊢
                      rw [List.dropWhile_cons_of_pos hd, List.dropWhile_cons_of_neg (by simp [he])] at htail
                      rw [if_neg (by simp [hd]), List.intercalate_cons_cons, htail]
                      rfl

/-- Single spaces are the only blanks, and neither end is blank. -/
structure IsNormal (cs : List Char) : Prop extends IsSpaced cs where
  first : ∀ c ∈ cs.head?, isBlank c = false
  last : ∀ c ∈ cs.getLast?, isBlank c = false

theorem IsNormal.collapsed_eq (h : IsNormal cs) : collapsed cs = cs := by
  rw [collapsed_of_isSpaced h.toIsSpaced h.last, dropWhile_isBlank_eq_self_iff.2 h.first]

theorem isNormal_trimmed_squeezed (cs : List Char) : IsNormal (trimmed (squeezed cs)) := by
  obtain ⟨before, after, -, -, hcs⟩ := exists_trimmed (squeezed cs)
  have hspaced := isSpaced_squeezed cs
  have hwithin : trimmed (squeezed cs) <:+: squeezed cs := ⟨before, after, hcs.symm⟩
  obtain ⟨hfirst, hlast⟩ := trimmed_eq_self_iff_ends.1 (trimmed_trimmed (squeezed cs))
  exact
    { spaces := fun c hc => hspaced.spaces c (hwithin.subset hc)
      single := hspaced.single.infix hwithin
      first := hfirst
      last := hlast }

/-- Joining words is squeezing and trimming, as both leave the words as they are. -/
theorem trimmed_squeezed (cs : List Char) : trimmed (squeezed cs) = collapsed cs := by
  rw [← (isNormal_trimmed_squeezed cs).collapsed_eq, collapsed, words_trimmed, words_squeezed, collapsed]

theorem isNormal_collapsed (cs : List Char) : IsNormal (collapsed cs) :=
  trimmed_squeezed cs ▸ isNormal_trimmed_squeezed cs

end Lineage.Text
