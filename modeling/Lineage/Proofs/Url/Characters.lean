import Mathlib
import Lineage.Url.Domain.Label

/-! What mapping and normalization do to characters that the tables leave alone: nothing; and that neither
yields a capital letter of ASCII. -/

namespace Lineage

/-- What holds of the characters of ASCII, looked at one by one, holds of ASCII. -/
@[elab_as_elim] theorem Text.of_ascii {p : Char → Prop} {c : Char} (hc : c.toNat < 0x80)
    (h : ∀ n < 0x80, p (Char.ofNat n)) : p c :=
  Char.ofNat_toNat c ▸ h c.toNat hc

namespace Domain

/-- Of ASCII the row has nothing but capital letters, and of the ideographs of the first supplement it
has none. -/
def Row.Spares (r : Row) : Prop :=
  (0x7F < r.first ∨ (0x41 ≤ r.first ∧ r.last ≤ 0x5A)) ∧ (r.last < 0x20000 ∨ 0x2A6DF < r.first)

instance (r : Row) : Decidable r.Spares := inferInstanceAs (Decidable (_ ∧ _))

/-- ASCII without the capital letters, and the ideographs of the first supplement. -/
def IsFixed (c : Char) : Prop :=
  (c.toNat < 0x80 ∧ ¬(0x41 ≤ c.toNat ∧ c.toNat ≤ 0x5A)) ∨ (0x20000 ≤ c.toNat ∧ c.toNat ≤ 0x2A6DF)

theorem spares_mapped : ∀ r ∈ mapped, r.Spares := by decide +kernel

theorem spares_ignored : ∀ r ∈ ignored, r.Spares := by decide +kernel

theorem spares_disallowed : ∀ r ∈ disallowed, r.Spares := by decide +kernel

theorem spares_decompositions : ∀ r ∈ decompositions, r.Spares := by decide +kernel

theorem spares_combining : ∀ r ∈ combining, r.Spares := by decide +kernel

theorem spares_marks : ∀ r ∈ marks, r.Spares := by decide +kernel

theorem spares_rightToLeft : ∀ r ∈ rightToLeft, r.Spares := by decide +kernel

theorem spares_arabicNumbers : ∀ r ∈ arabicNumbers, r.Spares := by decide +kernel

/-- Nothing that ends a composition is fixed. -/
theorem decompositions_second :
    ∀ r ∈ decompositions, ∀ v ∈ r.values.drop 1, 0x7F < v ∧ (v < 0x20000 ∨ 0x2A6DF < v) := by
  decide +kernel

section

variable {table : List Row} {c : Char}

theorem find?_of_spares (h : ∀ r ∈ table, r.Spares) (hc : IsFixed c) : find? table c = none := by
  refine List.find?_eq_none.2 fun r hr hholds => ?_
  obtain ⟨hascii, hideographs⟩ := h r hr
  have hbounds : r.first ≤ c.toNat ∧ c.toNat ≤ r.last := by
    simp only [Row.holds, Bool.and_eq_true, decide_eq_true_eq] at hholds
    exact hholds.1
  rw [IsFixed] at hc
  omega

theorem mem_of_spares (h : ∀ r ∈ table, r.Spares) (hc : IsFixed c) : mem table c = false := by
  rw [mem, find?_of_spares h hc]
  rfl

theorem mapChar?_of_isFixed (h : IsFixed c) : mapChar? c = some [c] := by
  rw [mapChar?, mem_of_spares spares_disallowed h, mem_of_spares spares_ignored h,
    find?_of_spares spares_mapped h]
  rfl

theorem combiningClass_of_isFixed (h : IsFixed c) : combiningClass c = 0 := by
  rw [combiningClass, find?_of_spares spares_combining h]

theorem decompose_of_isFixed (h : IsFixed c) (fuel : Nat) : decompose fuel c = [c] := by
  cases fuel with
  | zero => rfl
  | succ fuel =>
      have hsyllable : ¬(syllableBase ≤ c.toNat ∧ c.toNat < syllableBase + syllableCount) := by
        have hend : syllableBase + syllableCount = 0xD7A4 := rfl
        have hbase : syllableBase = 0xAC00 := rfl
        rw [IsFixed] at h
        omega
      simp only [decompose, Bool.and_eq_true, decide_eq_true_eq, if_neg hsyllable,
        find?_of_spares spares_decompositions h]

theorem composePair?_of_isFixed (a : Char) (h : IsFixed c) : composePair? a c = none := by
  have hvowel : ¬(vowelBase ≤ c.toNat ∧ c.toNat < vowelBase + vowelCount) := by
    simp only [vowelBase, vowelCount, IsFixed] at h ⊢
    omega
  have htail : ¬(tailBase < c.toNat ∧ c.toNat < tailBase + tailCount) := by
    simp only [tailBase, tailCount, IsFixed] at h ⊢
    omega
  have hpair : (decompositions.find? fun row => row.values == [a.toNat, c.toNat]) = none := by
    refine List.find?_eq_none.2 fun r hr hvalues => ?_
    have hsecond := decompositions_second r hr c.toNat (by rw [beq_iff_eq.1 hvalues]; simp)
    simp only [IsFixed] at h
    omega
  rw [composePair?]
  simp only [Bool.and_eq_true, decide_eq_true_eq, hpair, Option.map_none]
  rw [if_neg (by omega), if_neg (by omega)]

end

theorem ordered_of_isFixed {cs : List Char} (h : ∀ c ∈ cs, IsFixed c) : ordered cs = cs.map (·, 0) := by
  have hfold : ∀ done : List (Char × Nat),
      cs.foldl (fun done c => insertByClass (c, combiningClass c) done) done =
        (cs.map (·, 0)).reverse ++ done := by
    induction cs with
    | nil => exact fun _ => rfl
    | cons c cs ih =>
        intro done
        have hinsert : insertByClass (c, combiningClass c) done = (c, 0) :: done := by
          rw [combiningClass_of_isFixed (h c List.mem_cons_self)]
          cases done <;> rfl
        rw [List.foldl_cons, hinsert, ih fun d hd => h d (List.mem_cons_of_mem c hd)]
        simp
  rw [ordered, hfold, List.append_nil, List.reverse_reverse]

theorem read_foldl_of_isFixed {cs : List Char} (h : ∀ c ∈ cs, IsFixed c) {s : Composer}
    (hbehind : s.behind = []) : ((cs.map (·, 0)).foldl Composer.step s).read = cs.reverse ++ s.read := by
  induction cs generalizing s with
  | nil => rfl
  | cons c cs ih =>
      have hpair : (s.starter.bind fun starter => composePair? starter c) = none := by
        cases s.starter with
        | none => rfl
        | some starter => exact composePair?_of_isFixed starter (h c List.mem_cons_self)
      have hstep : s.step (c, 0) = ⟨s.read, some c, []⟩ := by
        simp only [Composer.step, hbehind, Bool.false_eq_true, if_false, hpair]
        rfl
      rw [List.map_cons, List.foldl_cons, hstep, ih (fun d hd => h d (List.mem_cons_of_mem c hd)) rfl]
      simp [Composer.read]

theorem normalized_of_isFixed {cs : List Char} (h : ∀ c ∈ cs, IsFixed c) : normalized cs = cs := by
  have hdecompose : cs.flatMap (decompose 4) = cs := by
    rw [List.flatMap_congr fun c hc => decompose_of_isFixed (h c hc) 4]
    exact List.flatMap_singleton' cs
  rw [normalized, hdecompose, ordered_of_isFixed h, read_foldl_of_isFixed h rfl]
  simp [Composer.read]

theorem mapM_mapChar?_of_isFixed {cs : List Char} (h : ∀ c ∈ cs, IsFixed c) :
    cs.mapM mapChar? = some (cs.map ([·])) := by
  induction cs with
  | nil => rfl
  | cons c cs ih =>
      rw [List.mapM_cons, mapChar?_of_isFixed (h c List.mem_cons_self),
        ih fun d hd => h d (List.mem_cons_of_mem c hd)]
      rfl

/-! ### No capital letter comes about -/

/-- A code point that is no capital letter of ASCII. -/
def NotCapital (n : Nat) : Prop :=
  ¬(0x41 ≤ n ∧ n ≤ 0x5A)

instance (n : Nat) : Decidable (NotCapital n) := inferInstanceAs (Decidable ¬_)

theorem mapped_values : ∀ r ∈ mapped, ∀ v ∈ r.values, 0x5A < v ∨ v + (r.last - r.first) < 0x41 := by
  decide +kernel

theorem decompositions_values : ∀ r ∈ decompositions, ∀ v ∈ r.values, NotCapital v := by
  decide +kernel

theorem decompositions_first : ∀ r ∈ decompositions, NotCapital r.first := by
  decide +kernel

theorem notCapital_ofNat {n : Nat} (h : NotCapital n) : NotCapital (Char.ofNat n).toNat := by
  rw [Char.toNat_ofNat]
  split
  · exact h
  · decide

/-- The capital letters of ASCII are mapped. -/
theorem exists_capitals : ∃ r ∈ mapped, r.first = 0x41 ∧ r.last = 0x5A ∧ r.step = 1 := by
  decide +kernel

theorem notCapital_of_find?_none {c : Char} (h : find? mapped c = none) : NotCapital c.toNat := by
  obtain ⟨r, hr, hfirst, hlast, hstep⟩ := exists_capitals
  intro hcapital
  refine List.find?_eq_none.1 h r hr ?_
  simpa [Row.holds, hfirst, hlast, hstep, Nat.mod_one] using hcapital

theorem notCapital_mapChar? {c d : Char} {cs : List Char} (h : mapChar? c = some cs) (hd : d ∈ cs) :
    NotCapital d.toNat := by
  rw [mapChar?] at h
  split_ifs at h
  · cases Option.some.inj h
    cases hd
  · split at h
    · rename_i hnone
      obtain rfl := Option.some.inj h
      obtain rfl := List.mem_singleton.1 hd
      exact notCapital_of_find?_none hnone
    · rename_i first last step values hfind
      have hvalues : ∀ v ∈ values, 0x5A < v ∨ v + (last - first) < 0x41 :=
        mapped_values _ (List.mem_of_find?_eq_some hfind)
      have hholds : first ≤ c.toNat ∧ c.toNat ≤ last := by
        have hrow := List.find?_some hfind
        simp only [Row.holds, Bool.and_eq_true, decide_eq_true_eq] at hrow
        exact hrow.1
      split at h
      · rename_i target
        obtain rfl := Option.some.inj h
        obtain rfl := List.mem_singleton.1 hd
        have htarget := hvalues target List.mem_cons_self
        refine notCapital_ofNat ?_
        rw [NotCapital]
        split <;> omega
      · obtain rfl := Option.some.inj h
        obtain ⟨v, hv, rfl⟩ := List.mem_map.1 hd
        have hvalue := hvalues v hv
        refine notCapital_ofNat ?_
        rw [NotCapital]
        omega

theorem notCapital_decompose {fuel : Nat} {c d : Char} (hc : NotCapital c.toNat)
    (hd : d ∈ decompose fuel c) : NotCapital d.toNat := by
  induction fuel generalizing c with
  | zero =>
      obtain rfl := List.mem_singleton.1 hd
      exact hc
  | succ fuel ih =>
      have hpart {first : Nat} (n : Nat) (hfirst : 0x1100 ≤ first) :
          NotCapital (Char.ofNat (first + n)).toNat := by
        refine notCapital_ofNat ?_
        rw [NotCapital]
        omega
      have hlead (n : Nat) : NotCapital (Char.ofNat (leadBase + n)).toNat := hpart n (by decide)
      have hvowel (n : Nat) : NotCapital (Char.ofNat (vowelBase + n)).toNat := hpart n (by decide)
      have htail (n : Nat) : NotCapital (Char.ofNat (tailBase + n)).toNat := hpart n (by decide)
      rw [decompose] at hd
      split at hd
      · dsimp only at hd
        split at hd
        · simp only [List.mem_cons, List.not_mem_nil, or_false] at hd
          rcases hd with rfl | rfl
          · exact hlead _
          · exact hvowel _
        · simp only [List.mem_append, List.mem_cons, List.not_mem_nil, or_false] at hd
          rcases hd with (hd | hd) | hd
          · exact hd ▸ hlead _
          · exact hd ▸ hvowel _
          · exact hd ▸ htail _
      · split at hd
        · rename_i row hfind
          obtain ⟨v, hv, hd⟩ := List.mem_flatMap.1 hd
          have hrow := List.mem_of_find?_eq_some hfind
          exact ih (notCapital_ofNat (decompositions_values row hrow v hv)) hd
        · obtain rfl := List.mem_singleton.1 hd
          exact hc

theorem mem_insertByClass {c d : Char × Nat} {done : List (Char × Nat)} (h : d ∈ insertByClass c done) :
    d = c ∨ d ∈ done := by
  induction done with
  | nil => exact .inl (List.mem_singleton.1 h)
  | cons e done ih =>
      rw [insertByClass] at h
      split at h
      · rcases List.mem_cons.1 h with rfl | h
        · exact .inr List.mem_cons_self
        · exact (ih h).imp_right (List.mem_cons_of_mem e)
      · exact List.mem_cons.1 h

theorem mem_of_mem_ordered {cs : List Char} {c : Char × Nat} (h : c ∈ ordered cs) : c.1 ∈ cs := by
  rw [ordered, List.mem_reverse] at h
  refine List.foldlRecOn (motive := fun done : List (Char × Nat) => ∀ c ∈ done, c.1 ∈ cs) cs _ ?_ ?_ c h
  · simp
  · intro done hdone d hd c hc
    rcases mem_insertByClass hc with rfl | hc
    · exact hd
    · exact hdone c hc

theorem notCapital_composePair? {a b c : Char} (h : composePair? a b = some c) : NotCapital c.toNat := by
  have hbase : syllableBase = 0xAC00 := rfl
  rw [composePair?] at h
  split_ifs at h with _ hsyllable
  · obtain rfl := Option.some.inj h
    refine notCapital_ofNat ?_
    rw [NotCapital]
    omega
  · obtain rfl := Option.some.inj h
    simp only [Bool.and_eq_true, decide_eq_true_eq] at hsyllable
    refine notCapital_ofNat ?_
    rw [NotCapital]
    omega
  · obtain ⟨row, hfind, rfl⟩ := Option.map_eq_some_iff.1 h
    exact notCapital_ofNat (decompositions_first row (List.mem_of_find?_eq_some hfind))

theorem notCapital_step {s : Composer} {c : Char × Nat} (hs : ∀ d ∈ s.read, NotCapital d.toNat)
    (hc : NotCapital c.1.toNat) : ∀ d ∈ (s.step c).read, NotCapital d.toNat := by
  intro d hd
  rw [Composer.step] at hd
  split at hd
  · rename_i joined hjoined
    obtain ⟨starter, -, hpair⟩ := Option.bind_eq_some_iff.1 hjoined
    have hcomposed : NotCapital joined.toNat := by
      split_ifs at hpair
      exact notCapital_composePair? hpair
    simp only [Composer.read, Option.toList_some, List.mem_append, List.mem_singleton] at hd hs
    rcases hd with (hd | rfl) | hd
    · exact hs d (.inl (.inl hd))
    · exact hcomposed
    · exact hs d (.inr hd)
  · have hmem : d = c.1 ∨ d ∈ s.read := by
      split at hd
      · simpa [Composer.read] using hd
      · simpa [Composer.read] using hd
    rcases hmem with rfl | hmem
    · exact hc
    · exact hs d hmem

theorem notCapital_normalized {cs : List Char} (h : ∀ c ∈ cs, NotCapital c.toNat) :
    ∀ c ∈ normalized cs, NotCapital c.toNat := by
  intro c hc
  rw [normalized, List.mem_reverse] at hc
  refine List.foldlRecOn (motive := fun s : Composer => ∀ d ∈ s.read, NotCapital d.toNat) _ _ ?_ ?_ c hc
  · simp [Composer.read]
  · intro s hs d hd
    obtain ⟨e, he, hde⟩ := List.mem_flatMap.1 (mem_of_mem_ordered hd)
    exact notCapital_step hs (notCapital_decompose (h e he) hde)

end Domain

end Lineage
