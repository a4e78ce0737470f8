import Mathlib
import Lineage.Proofs.Listing.Abbreviation
import Lineage.Proofs.RefSet.Lookup

/-! The columns of a listing of refs. Names are filled up with spaces by characters, to a width that counts
bytes: no name has more characters than bytes, so that none reaches beyond the width. Main statement: each
ref has one line, in the order of the listing, with its whole name in it, and the hashes of all lines start
at the same character. -/

namespace Lineage.Listing

variable {refs : RefSet} {preferred : Option String} {r : Ref} {width : Nat}

/-- The default ref has a star. -/
def marker (refs : RefSet) (preferred : Option String) (r : Ref) : Char :=
  if refs.default? preferred = some r then '*' else ' '

/-- Marker and name lead the line, with spaces up to the column at which the hash starts. -/
def InColumns (column : Nat) (mark : Char) (r : Ref) (line : String) : Prop :=
  ∃ lead pad, line.toList = lead ++ (Hash.abbreviate r.hash).toList ∧ lead.length = column ∧
    lead = mark :: ' ' :: r.name.toList ++ List.replicate pad ' ' ++ [' ', ' ']

/-! The width. -/

theorem utf8ByteSize_eq_bytes (s : String) : s.utf8ByteSize = Hash.bytes s.toList := by
  have hencoded : s.toByteArray = s.toList.utf8Encode := by
    rw [← String.toByteArray_ofList, String.ofList_toList]
  rw [← String.size_toByteArray, hencoded, List.utf8Encode, List.size_toByteArray]
  rfl

theorem length_le_utf8ByteSize (s : String) : s.length ≤ s.utf8ByteSize := by
  rw [utf8ByteSize_eq_bytes, ← String.length_toList]
  exact Hash.length_le_bytes _

theorem isGreatest_nameWidth (h : refs.toList ≠ []) :
    IsGreatest {size | ∃ r ∈ refs.toList, r.name.utf8ByteSize = size} (nameWidth refs) := by
  let sizes := refs.toList.map fun r => r.name.utf8ByteSize
  obtain ⟨greatest, hmax⟩ : ∃ greatest, sizes.max? = some greatest := by
    refine Option.ne_none_iff_exists'.1 fun hnone => h ?_
    exact List.map_eq_nil_iff.1 (List.max?_eq_none_iff.1 hnone)
  have hwidth : nameWidth refs = greatest := by
    change sizes.foldl max 0 = greatest
    rw [List.foldl_max, hmax, Option.getD_some, Nat.zero_max]
  obtain ⟨hmem, hbound⟩ := List.max?_eq_some_iff.1 hmax
  rw [hwidth]
  refine ⟨List.mem_map.1 hmem, ?_⟩
  rintro size ⟨r, hr, rfl⟩
  exact hbound _ (List.mem_map_of_mem hr)

theorem length_name_le (h : r ∈ refs.toList) : r.name.length ≤ nameWidth refs :=
  (length_le_utf8ByteSize r.name).trans ((isGreatest_nameWidth (List.ne_nil_of_mem h)).2 ⟨r, h, rfl⟩)

/-! The lines. -/

/-- Names are distinct, so that the default ref is known by its name. -/
theorem map_name_default?_iff (h : r ∈ refs.toList) :
    (refs.default? preferred).map Ref.name = some r.name ↔ refs.default? preferred = some r := by
  constructor
  · intro hname
    obtain ⟨default, hdefault, hsame⟩ := Option.map_eq_some_iff.1 hname
    rw [hdefault, RefSet.eq_of_name (RefSet.mem_of_default? hdefault) h hsame]
  · intro hdefault
    rw [hdefault, Option.map_some]

theorem toList_refLine (h : r ∈ refs.toList) (width : Nat) :
    (refLine width (refs.default? preferred) r).toList =
      marker refs preferred r :: ' ' :: r.name.toList ++ List.replicate (width - r.name.length) ' ' ++
        [' ', ' '] ++ (Hash.abbreviate r.hash).toList := by
  have hstar : ((refs.default? preferred).map Ref.name == some r.name) =
      decide (refs.default? preferred = some r) := by
    rw [Bool.eq_iff_iff, beq_iff_eq, decide_eq_true_iff]
    exact map_name_default?_iff h
  rw [refLine, hstar, marker]
  by_cases hdefault : refs.default? preferred = some r <;> simp [hdefault, padEnd]

theorem inColumns_refLine (h : r ∈ refs.toList) (hwidth : r.name.length ≤ width) :
    InColumns (4 + width) (marker refs preferred r) r (refLine width (refs.default? preferred) r) := by
  refine ⟨_, width - r.name.length, toList_refLine h width, ?_, rfl⟩
  simp only [List.length_append, List.length_cons, List.length_replicate, List.length_nil,
    String.length_toList]
  omega

/-- For every set and every preference. -/
theorem hashes_share_column (refs : RefSet) (preferred : Option String) :
    (refs.toList = [] ∨ IsGreatest {size | ∃ r ∈ refs.toList, r.name.utf8ByteSize = size} (nameWidth refs)) ∧
      List.Forall₂ (fun r line => InColumns (4 + nameWidth refs) (marker refs preferred r) r line)
        refs.toList (refLines refs preferred) := by
  refine ⟨or_iff_not_imp_left.2 isGreatest_nameWidth, ?_⟩
  rw [refLines, List.forall₂_map_right_iff, List.forall₂_same]
  intro r hr
  exact inColumns_refLine hr (length_name_le hr)

/-- Two bytes make one character, so that three spaces follow the first name and two more part the columns. -/
example : refLines (.ofList [⟨"é", "sha256:0123456789"⟩, ⟨"main", "fe"⟩]) none =
    ["  é     01234567", "* main  fe"] := by decide +kernel

end Lineage.Listing
