import Mathlib
import Lineage.Proofs.Listing.Remark
import Lineage.Text.Utf8

/-! Abbreviations counted in bytes, and the same counted in characters. An abbreviation ends after eight
bytes of the digest; where no character ends there, the whole digest is shown. Main statement: this is
the digest's first eight characters exactly if each of these takes one byte, or the digest has no more
than eight and they are not cut short; lines in which all hashes are of this kind show those characters. -/

namespace Lineage

namespace Hash

/-- How many bytes the characters take up. -/
def bytes (cs : List Char) : Nat := (Text.Utf8.encode cs).length

/-- What follows the first colon, or all of a text without one. -/
inductive HasDigest : List Char → List Char → Prop
  | prefixed {algorithm : List Char} (digest : List Char) (h : ':' ∉ algorithm) :
      HasDigest (algorithm ++ ':' :: digest) digest
  | whole {cs : List Char} (h : ':' ∉ cs) : HasDigest cs cs

/-- The most characters that are to be shown. -/
def shownChars : Nat := 8

/-- The first characters of the digest. -/
def leading (hash : String) : String :=
  String.ofList ((digest hash.toList).take shownChars)

/-- What is shown, if a character ends where it has to be cut. -/
def CutAfter (cs short : List Char) : Prop :=
  short <+: cs ∧ bytes short = shownBytes

/-- Bytes and characters come to the same: the first characters take one byte each, or there are no more
than are to be shown and nothing is cut off. -/
def CountsAlike (hash : String) : Prop :=
  (∀ c ∈ (digest hash.toList).take shownChars, c.utf8Size = 1) ∨
    (digest hash.toList).length ≤ shownChars ∧
      ∀ short, CutAfter (digest hash.toList) short → short = digest hash.toList

variable {cs short d : List Char} {n : Nat} {hash : String}

@[simp] theorem bytes_nil : bytes [] = 0 := rfl

@[simp] theorem bytes_cons (c : Char) (cs : List Char) : bytes (c :: cs) = c.utf8Size + bytes cs := by
  rw [bytes, Text.Utf8.encode, List.flatMap_cons, List.length_append, String.length_utf8EncodeChar]
  rfl

theorem length_le_bytes (cs : List Char) : cs.length ≤ bytes cs := by
  induction cs with
  | nil => exact Nat.le_refl 0
  | cons c cs ih =>
      have hbyte := c.utf8Size_pos
      rw [List.length_cons, bytes_cons]
      omega

/-- As many bytes as characters. -/
theorem bytes_eq_length_iff : bytes cs = cs.length ↔ ∀ c ∈ cs, c.utf8Size = 1 := by
  induction cs with
  | nil => exact iff_of_true rfl (List.forall_mem_nil _)
  | cons c cs ih =>
      have hbyte := c.utf8Size_pos
      have hrest := length_le_bytes cs
      rw [List.forall_mem_cons, ← ih, bytes_cons, List.length_cons]
      omega

theorem hasDigest_digest (cs : List Char) : HasDigest cs (digest cs) := by
  have hsplit : cs.takeWhile (· != ':') ++ cs.dropWhile (· != ':') = cs :=
    List.takeWhile_append_dropWhile
  have halgorithm : ':' ∉ cs.takeWhile (· != ':') := fun h => by simpa using List.mem_takeWhile_imp h
  rw [digest]
  cases hdrop : cs.dropWhile (· != ':') with
  | nil =>
      rw [hdrop, List.append_nil] at hsplit
      exact .whole (hsplit ▸ halgorithm)
  | cons c rest =>
      have hc : c = ':' := by
        have hhead := List.head?_dropWhile_not (· != ':') cs
        simpa [hdrop] using hhead
      rw [hdrop, hc] at hsplit
      have hdigest := HasDigest.prefixed rest halgorithm
      rwa [hsplit] at hdigest

theorem digest_of_hasDigest (h : HasDigest cs d) : digest cs = d := by
  have hkept {cs : List Char} (h : ':' ∉ cs) : ∀ c ∈ cs, (c != ':') = true := fun c hc =>
    bne_iff_ne.2 fun hcolon => h (hcolon ▸ hc)
  cases h with
  | prefixed _ h =>
      rw [digest, List.dropWhile_append_of_pos (hkept h)]
      rfl
  | whole h => rw [digest, List.dropWhile_eq_nil_iff.2 (hkept h)]

/-- There is one digest. -/
theorem digest_eq_iff : digest cs = d ↔ HasDigest cs d :=
  ⟨fun h => h ▸ hasDigest_digest cs, digest_of_hasDigest⟩

theorem takeBytes?_eq_some_iff : takeBytes? n cs = some short ↔ short <+: cs ∧ bytes short = n := by
  fun_induction takeBytes? n cs generalizing short with
  | case1 cs =>
      constructor
      · rintro ⟨⟩
        exact ⟨List.nil_prefix, rfl⟩
      · rintro ⟨-, hbytes⟩
        have hlength := length_le_bytes short
        rw [hbytes] at hlength
        rw [List.length_eq_zero_iff.1 (Nat.le_zero.1 hlength)]
  | case2 n =>
      constructor
      · intro hnone
        cases hnone
      · rintro ⟨hfront, hbytes⟩
        rw [List.prefix_nil.1 hfront] at hbytes
        cases hbytes
  | case3 n c cs fits ih =>
      rw [Option.map_eq_some_iff]
      constructor
      · rintro ⟨more, hmore, rfl⟩
        obtain ⟨hfront, hbytes⟩ := ih.1 hmore
        refine ⟨List.cons_prefix_cons.2 ⟨rfl, hfront⟩, ?_⟩
        rw [bytes_cons, hbytes]
        omega
      · rintro ⟨hfront, hbytes⟩
        rcases List.prefix_cons_iff.1 hfront with rfl | ⟨more, rfl, hmore⟩
        · cases hbytes
        · rw [bytes_cons] at hbytes
          exact ⟨more, ih.2 ⟨hmore, by omega⟩, rfl⟩
  | case4 n c cs wide =>
      constructor
      · intro hnone
        cases hnone
      · rintro ⟨hfront, hbytes⟩
        rcases List.prefix_cons_iff.1 hfront with rfl | ⟨more, rfl, -⟩
        · cases hbytes
        · rw [bytes_cons] at hbytes
          omega

/-- The two ways to abbreviate. -/
theorem abbreviated_cases (cs : List Char) :
    CutAfter (digest cs) (abbreviated cs) ∨
      abbreviated cs = digest cs ∧ ∀ short, ¬CutAfter (digest cs) short := by
  rw [abbreviated]
  cases htake : takeBytes? shownBytes (digest cs) with
  | some short => exact .inl (takeBytes?_eq_some_iff.1 htake)
  | none =>
      refine .inr ⟨rfl, fun short hcut => ?_⟩
      rw [takeBytes?_eq_some_iff.2 hcut] at htake
      cases htake

theorem CutAfter.length_le (h : CutAfter cs short) : short.length ≤ shownChars :=
  (length_le_bytes short).trans h.2.le

theorem CutAfter.unique {other : List Char} (h : CutAfter cs short) (hother : CutAfter cs other) :
    short = other := by
  have htake := takeBytes?_eq_some_iff.2 h
  rw [takeBytes?_eq_some_iff.2 hother] at htake
  exact (Option.some.inj htake).symm

/-- A text that is cut with one byte for each character is cut after its eighth. -/
theorem CutAfter.eq_take (h : CutAfter cs short) (single : ∀ c ∈ cs.take shownChars, c.utf8Size = 1) :
    short = cs.take shownChars := by
  have hfront : short <+: cs.take shownChars := List.prefix_take_iff.2 ⟨h.1, h.length_le⟩
  have hlength : bytes short = short.length :=
    bytes_eq_length_iff.2 fun c hc => single c (hfront.subset hc)
  have hshown : short.length = shownChars := hlength.symm.trans h.2
  rw [List.prefix_iff_eq_take.1 h.1, hshown]

theorem CutAfter.eq_take_iff (h : CutAfter cs short) : short = cs.take shownChars ↔
    (∀ c ∈ cs.take shownChars, c.utf8Size = 1) ∨ cs.length ≤ shownChars ∧ short = cs := by
  constructor
  · intro heq
    by_cases few : cs.length ≤ shownChars
    · exact .inr ⟨few, heq.trans (List.take_of_length_le few)⟩
    · refine .inl (bytes_eq_length_iff.1 ?_)
      rw [← heq, h.2, heq, List.length_take_of_le (Nat.le_of_not_le few)]
      rfl
  · rintro (single | ⟨few, rfl⟩)
    · exact h.eq_take single
    · exact (List.take_of_length_le few).symm

/-- With eight characters of one byte there is a cut. -/
theorem cutAfter_take (many : shownChars ≤ cs.length) (single : ∀ c ∈ cs.take shownChars, c.utf8Size = 1) :
    CutAfter cs (cs.take shownChars) :=
  ⟨List.take_prefix _ _, (bytes_eq_length_iff.2 single).trans (List.length_take_of_le many)⟩

theorem abbreviate_eq_leading_iff : abbreviate hash = leading hash ↔ CountsAlike hash := by
  rw [abbreviate, leading, String.ofList_inj, CountsAlike]
  rcases abbreviated_cases hash.toList with hcut | ⟨hwhole, uncut⟩
  · have hall : (∀ short, CutAfter (digest hash.toList) short → short = digest hash.toList) ↔
        abbreviated hash.toList = digest hash.toList :=
      ⟨fun h => h _ hcut, fun h short hshort => (hshort.unique hcut).trans h⟩
    rw [hall]
    exact hcut.eq_take_iff
  · rw [hwhole, eq_comm, List.take_eq_self_iff]
    constructor
    · exact fun few => .inr ⟨few, fun short hcut => absurd hcut (uncut short)⟩
    · rintro (single | ⟨few, -⟩)
      · by_contra many
        exact uncut _ (cutAfter_take (Nat.le_of_not_le many) single)
      · exact few

/-- Only a digest that is not cut is shown with more characters. -/
theorem shownChars_lt_length_iff : shownChars < (abbreviate hash).length ↔
    shownChars < (digest hash.toList).length ∧ ∀ short, ¬CutAfter (digest hash.toList) short := by
  rw [abbreviate, String.length_ofList]
  rcases abbreviated_cases hash.toList with hcut | ⟨hwhole, uncut⟩
  · exact iff_of_false (Nat.not_lt.2 hcut.length_le) fun h => h.2 _ hcut
  · rw [hwhole]
    exact (and_iff_left uncut).symm

end Hash

/-- The hash that is named by a reason to stop. -/
def Ending.hash? : Ending → Option String
  | .missing hash | .fetchFailed hash _ | .cycle hash => some hash
  | .root | .depthLimit _ => none

namespace Listing

/-! The lines with all their hashes abbreviated in some way. -/

section

variable (short : String → String)

/-- What stands before the hash of a ref. -/
def refLead (refs : RefSet) (preferred : Option String) (r : Ref) : String :=
  (if (refs.default? preferred).map Ref.name == some r.name then "*" else " ") ++ " " ++
    padEnd (nameWidth refs) r.name ++ "  "

def refLinesBy (refs : RefSet) (preferred : Option String) : List String :=
  refs.toList.map fun r => refLead refs preferred r ++ short r.hash

def ageText (now : Instant) (c : Checkpoint) : String :=
  (c.date?.map (Instant.age · now)).getD "?"

def checkpointLineBy (now : Instant) (c : Checkpoint) : String :=
  padEnd 8 (short c.hash) ++ "  " ++ padStart 9 (ageText now c) ++ "  " ++
    padEnd 8 ((c.session?.map short).getD "-") ++ "  " ++ c.oneLine

def affixLinesBy (a : Affix) : List String :=
  a.partitions.toList.map fun (partition, events) =>
    "    " ++ partition ++ ": " ++ ", ".intercalate (events.map short)

def endNoteBy (h : History) : Option String :=
  match h.ending with
  | .root => none
  | .missing hash =>
    if hash.isEmpty then some "No checkpoint selected."
    else some ("History ends early: " ++ short hash ++ " came back empty.")
  | .fetchFailed hash error =>
    some ("History ends early: could not fetch " ++ short hash ++ ": " ++ error)
  | .cycle hash => some ("History ends early: " ++ short hash ++ " is its own ancestor.")
  | .depthLimit limit =>
    some s!"Showing the first {limit} checkpoints (use --max-depth to see more)."

end

open Hash (abbreviate leading CountsAlike abbreviate_eq_leading_iff)

theorem refLines_eq_iff (refs : RefSet) (preferred : Option String) :
    refLines refs preferred = refLinesBy leading refs preferred ↔ ∀ r ∈ refs.toList, CountsAlike r.hash := by
  have hline (r : Ref) : refLine (nameWidth refs) (refs.default? preferred) r =
      refLead refs preferred r ++ abbreviate r.hash := rfl
  rw [refLines, refLinesBy, List.map_inj_left]
  refine forall₂_congr fun r _ => ?_
  rw [hline, String.append_right_inj, abbreviate_eq_leading_iff]

theorem endNote_eq_iff (h : History) :
    endNote h = endNoteBy leading h ↔ ∀ hash ∈ h.ending.hash?, CountsAlike hash := by
  have hempty : CountsAlike "" := abbreviate_eq_leading_iff.1 rfl
  rw [endNote, endNoteBy]
  cases h.ending with
  | root => simp [Ending.hash?]
  | depthLimit limit => simp [Ending.hash?]
  | missing hash =>
      by_cases hnone : hash = ""
      · subst hnone
        exact iff_of_true rfl (by simpa [Ending.hash?] using hempty)
      · simp [Ending.hash?, hnone, String.append_assoc, abbreviate_eq_leading_iff]
  | fetchFailed hash error => simp [Ending.hash?, String.append_assoc, abbreviate_eq_leading_iff]
  | cycle hash => simp [Ending.hash?, String.append_assoc, abbreviate_eq_leading_iff]

theorem affixLines_of_countsAlike {a : Affix}
    (h : ∀ events ∈ a.partitions.values, ∀ event ∈ events, CountsAlike event) :
    affixLines a = affixLinesBy leading a := by
  refine List.map_congr_left fun ⟨partition, events⟩ hentry => ?_
  have hlisted : events ∈ a.partitions.values := List.mem_map_of_mem (f := Prod.snd) hentry
  have hevents : events.map abbreviate = events.map leading :=
    List.map_congr_left fun event hevent => abbreviate_eq_leading_iff.2 (h events hlisted event hevent)
  simp only [hevents]

theorem checkpointLine_eq (now : Instant) (c : Checkpoint) :
    checkpointLine now c = checkpointLineBy abbreviate now c := by
  rw [checkpointLine, checkpointLineBy, ageText]
  cases c.date? <;> cases c.session? <;> rfl

theorem checkpointLine_of_countsAlike (now : Instant) {c : Checkpoint} (hash : CountsAlike c.hash)
    (session : ∀ session ∈ c.session?, CountsAlike session) :
    checkpointLine now c = checkpointLineBy leading now c := by
  have hsession : c.session?.map abbreviate = c.session?.map leading :=
    Option.map_congr fun s hs => abbreviate_eq_leading_iff.2 (session s hs)
  rw [checkpointLine_eq, checkpointLineBy, checkpointLineBy, hsession, abbreviate_eq_leading_iff.2 hash]

/-- For every hash, and for every listing that shows any. -/
theorem abbreviations_count_characters_iff (hash : String) (refs : RefSet) (preferred : Option String)
    (now : Instant) (c : Checkpoint) (a : Affix) (h : History) :
    ((∀ d, Hash.digest hash.toList = d ↔ Hash.HasDigest hash.toList d) ∧
      (abbreviate hash = leading hash ↔ CountsAlike hash) ∧
      (Hash.shownChars < (abbreviate hash).length ↔
        Hash.shownChars < (Hash.digest hash.toList).length ∧
          ∀ short, ¬Hash.CutAfter (Hash.digest hash.toList) short)) ∧
    (refLines refs preferred = refLinesBy abbreviate refs preferred ∧
      (refLines refs preferred = refLinesBy leading refs preferred ↔
        ∀ r ∈ refs.toList, CountsAlike r.hash)) ∧
    (checkpointLine now c = checkpointLineBy abbreviate now c ∧
      (CountsAlike c.hash → (∀ session ∈ c.session?, CountsAlike session) →
        checkpointLine now c = checkpointLineBy leading now c)) ∧
    (affixLines a = affixLinesBy abbreviate a ∧
      ((∀ events ∈ a.partitions.values, ∀ event ∈ events, CountsAlike event) →
        affixLines a = affixLinesBy leading a)) ∧
    endNote h = endNoteBy abbreviate h ∧
      (endNote h = endNoteBy leading h ↔ ∀ hash ∈ h.ending.hash?, CountsAlike hash) :=
  ⟨⟨fun _ => Hash.digest_eq_iff, abbreviate_eq_leading_iff, Hash.shownChars_lt_length_iff⟩,
    ⟨rfl, refLines_eq_iff refs preferred⟩,
    ⟨checkpointLine_eq now c, checkpointLine_of_countsAlike now⟩,
    ⟨rfl, affixLines_of_countsAlike⟩,
    ⟨rfl, endNote_eq_iff h⟩⟩

/-- Five characters of two bytes are cut to four, and nine of three bytes are all shown. -/
theorem abbreviation_miscounts :
    leading "sha256:ééééé" = "ééééé" ∧ abbreviate "sha256:ééééé" = "éééé" ∧
      refLines (.ofList [⟨"main", "sha256:ééééé"⟩]) none = ["* main  éééé"] ∧
      leading "sha256:€€€€€€€€€" = "€€€€€€€€" ∧ abbreviate "sha256:€€€€€€€€€" = "€€€€€€€€€" := by
  decide +kernel

end Listing

end Lineage
