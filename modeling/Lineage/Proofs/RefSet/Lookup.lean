import Mathlib
import Lineage.RefSet

/-! Finding refs in a set. Names are distinct, so that a name finds one ref and every ref is found by
its name. The default ref is the preferred one if it is listed, and the last one otherwise. -/

namespace Lineage.RefSet

variable {refs : RefSet} {preferred : Option String} {name : String} {r other : Ref}

theorem eq_of_name (h : r ∈ refs.toList) (hother : other ∈ refs.toList) (same : r.name = other.name) :
    r = other :=
  List.inj_on_of_nodup_map refs.distinct h hother same

theorem count_eq_one (h : r ∈ refs.toList) : refs.toList.count r = 1 :=
  List.count_eq_one_of_mem (List.Nodup.of_map _ refs.distinct) h

theorem get?_eq_some_iff : refs.get? name = some r ↔ r ∈ refs.toList ∧ r.name = name := by
  constructor
  · intro h
    exact ⟨List.mem_of_find?_eq_some h,
      beq_iff_eq.1 (List.find?_some (p := fun entry : Ref => entry.name == name) h)⟩
  · rintro ⟨hmem, rfl⟩
    obtain ⟨found, hfound⟩ : ∃ found, refs.get? r.name = some found :=
      Option.isSome_iff_exists.1 (List.find?_isSome.2 ⟨r, hmem, beq_self_eq_true _⟩)
    have hname : found.name = r.name :=
      beq_iff_eq.1 (List.find?_some (p := fun entry : Ref => entry.name == r.name) hfound)
    rw [hfound, eq_of_name (List.mem_of_find?_eq_some hfound) hmem hname]

theorem resolve_name (h : r ∈ refs.toList) : refs.resolve r.name = r.hash := by
  rw [resolve, get?_eq_some_iff.2 ⟨h, rfl⟩]

theorem default?_eq_none (h : refs.isEmpty = true) : refs.default? preferred = none := by
  have hrefs : refs.refs = [] := List.isEmpty_iff.1 h
  cases preferred <;> simp [default?, get?, hrefs]

theorem default?_ne_none (preferred : Option String) (h : refs.isEmpty = false) :
    refs.default? preferred ≠ none := by
  intro hnone
  obtain ⟨-, hlast⟩ := Option.or_eq_none_iff.1 hnone
  have hrefs : refs.refs = [] := List.getLast?_eq_none_iff.1 hlast
  rw [isEmpty, hrefs] at h
  cases h

theorem default?_of_listed (h : r ∈ refs.toList) : refs.default? (some r.name) = some r := by
  rw [default?, Option.bind_some, get?_eq_some_iff.2 ⟨h, rfl⟩, Option.some_or]

theorem default?_of_unlisted (h : ∀ r ∈ refs.toList, preferred ≠ some r.name) :
    refs.default? preferred = refs.toList.getLast? := by
  cases preferred with
  | none => rfl
  | some name =>
      have hget : refs.get? name = none := by
        refine Option.eq_none_iff_forall_ne_some.2 fun r hfound => ?_
        obtain ⟨hmem, hname⟩ := get?_eq_some_iff.1 hfound
        exact h r hmem (congrArg some hname.symm)
      rw [default?, Option.bind_some, hget, Option.none_or]
      rfl

theorem mem_of_default? (h : refs.default? preferred = some r) : r ∈ refs.toList := by
  rcases Option.or_eq_some_iff.1 h with hget | ⟨-, hlast⟩
  · obtain ⟨name, -, hget⟩ := Option.bind_eq_some_iff.1 hget
    exact (get?_eq_some_iff.1 hget).1
  · exact List.mem_of_getLast? hlast

end Lineage.RefSet
