import Mathlib
import Lineage.Proofs.RefSet.Lookup

/-! How repeated names merge. A set is filled by adding refs one after another: a name that is added again
keeps its place and takes the new hash. Main statement: however often names are repeated, the set has each
of them once, in the order in which they came first and with the hash that came last; filled with its own
refs it is the same again. -/

namespace Lineage.RefSet

/-- The refs were added one after another, to the empty set at first. -/
inductive FilledWith : List Ref → RefSet → Prop
  | nothing : FilledWith [] empty
  | add {refs : List Ref} {set : RefSet} (h : FilledWith refs set) (entry : Ref) :
      FilledWith (refs ++ [entry]) (set.insert entry)

/-- No ref of that name comes behind this one. -/
def IsLast (refs : List Ref) (name : String) (r : Ref) : Prop :=
  r.name = name ∧ ∃ before after, refs = before ++ r :: after ∧ ∀ other ∈ after, other.name ≠ name

/-- What a set has kept of the refs that it was filled with. -/
structure Keeps (set : RefSet) (refs : List Ref) : Prop where
  distinct : (set.toList.map Ref.name).Nodup
  names : set.toList.map Ref.name = (refs.map Ref.name).eraseDups
  first_places : (set.toList.map Ref.name).Pairwise fun a b =>
    (refs.map Ref.name).idxOf a < (refs.map Ref.name).idxOf b
  isSome_get? : ∀ name, (set.get? name).isSome ↔ name ∈ refs.map Ref.name
  last_hashes : ∀ name r, set.get? name = some r ↔ IsLast refs name r
  size_eq : set.size = (refs.map Ref.name).toFinset.card
  refilled : ofList set.toList = set
  resolve_named : ∀ name r, IsLast refs name r → set.resolve name = r.hash
  resolve_unnamed : ∀ text, text ∉ refs.map Ref.name → set.resolve text = text

variable {refs : List Ref} {set : RefSet} {entry r : Ref} {name : String}

/-! One more ref. -/

theorem ofList_concat (refs : List Ref) (entry : Ref) :
    ofList (refs ++ [entry]) = (ofList refs).insert entry := by
  rw [ofList, List.foldl_append]
  rfl

theorem map_name_insertRef (entry : Ref) (refs : List Ref) :
    (insertRef entry refs).map Ref.name =
      if entry.name ∈ refs.map Ref.name then refs.map Ref.name else refs.map Ref.name ++ [entry.name] := by
  induction refs with
  | nil => rfl
  | cons r rest ih =>
      rw [insertRef]
      by_cases hname : r.name = entry.name
      · simp [hname]
      · rw [if_neg hname, List.map_cons, ih]
        by_cases hmem : entry.name ∈ rest.map Ref.name
        · simp [hmem]
        · simp [hmem, Ne.symm hname]

theorem find?_insertRef (entry : Ref) (name : String) (refs : List Ref) :
    (insertRef entry refs).find? (·.name == name) =
      if entry.name = name then some entry else refs.find? (·.name == name) := by
  induction refs with
  | nil =>
      rw [insertRef]
      by_cases hentry : entry.name = name <;> simp [hentry]
  | cons r rest ih =>
      rw [insertRef]
      by_cases hname : r.name = entry.name
      · by_cases hentry : entry.name = name <;> simp [hname, hentry]
      · rw [if_neg hname, List.find?_cons, ih, List.find?_cons]
        by_cases hentry : entry.name = name
        · have hr : (r.name == name) = false := by
            rw [beq_eq_false_iff_ne, ← hentry]
            exact hname
          simp [hentry, hr]
        · simp [hentry]

theorem insertRef_of_notMem (h : entry.name ∉ refs.map Ref.name) : insertRef entry refs = refs ++ [entry] := by
  induction refs with
  | nil => rfl
  | cons r rest ih =>
      rw [List.map_cons, List.mem_cons, not_or] at h
      rw [insertRef, if_neg (Ne.symm h.1), ih h.2, List.cons_append]

/-- Places that are taken stay, and a new name has the last one. -/
theorem pairwise_idxOf_concat {names known : List String} (hknown : ∀ a ∈ known, a ∈ names)
    (h : known.Pairwise fun a b => names.idxOf a < names.idxOf b) (hname : name ∉ names) :
    (known ++ [name]).Pairwise fun a b => (names ++ [name]).idxOf a < (names ++ [name]).idxOf b := by
  refine List.pairwise_append.2 ⟨?_, List.pairwise_singleton _ _, ?_⟩
  · refine List.Pairwise.imp_of_mem (fun ha hb hlt => ?_) h
    rwa [List.idxOf_append_of_mem (hknown _ ha), List.idxOf_append_of_mem (hknown _ hb)]
  · intro a ha b hb
    obtain rfl := List.mem_singleton.1 hb
    have hplace : names.idxOf a < names.length := List.idxOf_lt_length_of_mem (hknown a ha)
    rw [List.idxOf_append_of_mem (hknown a ha), List.idxOf_append_of_notMem hname]
    omega

/-! All refs. -/

/-- The names stand where they were first listed. -/
theorem map_name_ofList (refs : List Ref) :
    (ofList refs).toList.map Ref.name = (refs.map Ref.name).eraseDups := by
  induction refs using List.reverseRecOn with
  | nil => rfl
  | append_singleton refs entry ih =>
      rw [ofList_concat, toList_insert, map_name_insertRef, ih, List.map_append, List.map_singleton,
        List.eraseDups_append]
      by_cases hmem : entry.name ∈ refs.map Ref.name
      · have hnone : [entry.name].removeAll (refs.map Ref.name) = [] := by
          simpa [List.removeAll] using hmem
        rw [if_pos (List.mem_eraseDups.2 hmem), hnone, List.eraseDups_nil, List.append_nil]
      · have hall : [entry.name].removeAll (refs.map Ref.name) = [entry.name] := by
          simpa [List.removeAll] using hmem
        rw [if_neg (mt List.mem_eraseDups.1 hmem), hall]
        rfl

theorem mem_map_name_ofList : name ∈ (ofList refs).toList.map Ref.name ↔ name ∈ refs.map Ref.name := by
  rw [map_name_ofList, List.mem_eraseDups]

theorem pairwise_idxOf_ofList (refs : List Ref) :
    ((ofList refs).toList.map Ref.name).Pairwise fun a b =>
      (refs.map Ref.name).idxOf a < (refs.map Ref.name).idxOf b := by
  induction refs using List.reverseRecOn with
  | nil => exact .nil
  | append_singleton refs entry ih =>
      rw [ofList_concat, toList_insert, map_name_insertRef, List.map_append, List.map_singleton]
      by_cases hmem : entry.name ∈ refs.map Ref.name
      · rw [if_pos (mem_map_name_ofList.2 hmem)]
        refine List.Pairwise.imp_of_mem (fun ha hb hlt => ?_) ih
        rwa [List.idxOf_append_of_mem (mem_map_name_ofList.1 ha),
          List.idxOf_append_of_mem (mem_map_name_ofList.1 hb)]
      · rw [if_neg (mt mem_map_name_ofList.1 hmem)]
        exact pairwise_idxOf_concat (fun _ => mem_map_name_ofList.1) ih hmem

/-- Each name has the hash that was listed for it last. -/
theorem get?_ofList (refs : List Ref) (name : String) :
    (ofList refs).get? name = refs.reverse.find? (·.name == name) := by
  induction refs using List.reverseRecOn with
  | nil => rfl
  | append_singleton refs entry ih =>
      rw [ofList_concat, List.reverse_append, List.reverse_singleton, List.singleton_append,
        List.find?_cons, ← ih]
      refine (find?_insertRef entry name _).trans ?_
      by_cases hentry : entry.name = name
      · simp [hentry]
      · rw [if_neg hentry, beq_eq_false_iff_ne.2 hentry]
        rfl

theorem get?_ofList_eq_some_iff : (ofList refs).get? name = some r ↔ IsLast refs name r := by
  rw [get?_ofList, List.find?_eq_some_iff_append, beq_iff_eq]
  refine and_congr_right fun _ => ⟨?_, ?_⟩
  · rintro ⟨after, before, hsplit, hafter⟩
    refine ⟨before.reverse, after.reverse, ?_, ?_⟩
    · rw [← List.reverse_reverse refs, hsplit]
      simp
    · intro other hother
      simpa using hafter other (List.mem_reverse.1 hother)
  · rintro ⟨before, after, rfl, hafter⟩
    refine ⟨after.reverse, before.reverse, by simp, ?_⟩
    intro other hother
    simpa using hafter other (List.mem_reverse.1 hother)

theorem isSome_get?_iff : (set.get? name).isSome ↔ name ∈ set.toList.map Ref.name := by
  rw [Option.isSome_iff_exists, List.mem_map]
  exact exists_congr fun _ => get?_eq_some_iff

/-- The refs of a set have nothing to merge. -/
theorem toList_ofList (h : (refs.map Ref.name).Nodup) : (ofList refs).toList = refs := by
  induction refs using List.reverseRecOn with
  | nil => rfl
  | append_singleton refs entry ih =>
      rw [List.map_append, List.map_singleton] at h
      have hfresh : entry.name ∉ refs.map Ref.name := by
        intro hmem
        exact List.disjoint_of_nodup_append h hmem List.mem_cons_self
      rw [ofList_concat, toList_insert, ih h.of_append_left, insertRef_of_notMem hfresh]

theorem ext_toList {other : RefSet} (h : set.toList = other.toList) : set = other := by
  cases set
  cases other
  cases h
  rfl

theorem ofList_toList (set : RefSet) : ofList set.toList = set :=
  ext_toList (toList_ofList set.distinct)

theorem size_ofList (refs : List Ref) : (ofList refs).size = (refs.map Ref.name).toFinset.card := by
  have hnames : (refs.map Ref.name).toFinset = ((ofList refs).toList.map Ref.name).toFinset := by
    ext name
    rw [List.mem_toFinset, List.mem_toFinset, mem_map_name_ofList]
  have hdistinct : ((ofList refs).toList.map Ref.name).Nodup := (ofList refs).distinct
  rw [hnames, List.toFinset_card_of_nodup hdistinct, List.length_map]
  rfl

theorem keeps_ofList (refs : List Ref) : (ofList refs).Keeps refs where
  distinct := (ofList refs).distinct
  names := map_name_ofList refs
  first_places := pairwise_idxOf_ofList refs
  isSome_get? name := isSome_get?_iff.trans mem_map_name_ofList
  last_hashes name r := get?_ofList_eq_some_iff
  size_eq := size_ofList refs
  refilled := ofList_toList _
  resolve_named name r hlast := by rw [resolve, get?_ofList_eq_some_iff.2 hlast]
  resolve_unnamed text hunnamed := by
    have hnone : (ofList refs).get? text = none := by
      by_contra hsome
      have hlisted := isSome_get?_iff.1 (Option.isSome_iff_ne_none.2 hsome)
      exact hunnamed (mem_map_name_ofList.1 hlisted)
    rw [resolve, hnone]

theorem filledWith_ofList (refs : List Ref) : FilledWith refs (ofList refs) := by
  induction refs using List.reverseRecOn with
  | nil => exact .nothing
  | append_singleton refs entry ih =>
      rw [ofList_concat]
      exact ih.add entry

theorem FilledWith.eq_ofList (h : FilledWith refs set) : set = ofList refs := by
  induction h with
  | nothing => rfl
  | add _ entry ih => rw [ofList_concat, ih]

/-- For every list of refs, read at once or added one after another. -/
theorem first_place_last_hash (refs : List Ref) :
    (ofList refs).Keeps refs ∧ ∀ set, FilledWith refs set ↔ set = ofList refs := by
  refine ⟨keeps_ofList refs, fun set => ⟨FilledWith.eq_ofList, ?_⟩⟩
  rintro rfl
  exact filledWith_ofList refs

example : (ofList [⟨"a", "1"⟩, ⟨"b", "2"⟩, ⟨"a", "3"⟩]).toList = [⟨"a", "3"⟩, ⟨"b", "2"⟩] := by decide

end Lineage.RefSet
