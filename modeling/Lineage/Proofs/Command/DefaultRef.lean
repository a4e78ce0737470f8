import Mathlib
import Lineage.Command.Log
import Lineage.Proofs.Browser.Transition
import Lineage.Proofs.RefSet.Lookup

/-! The default ref is taken in three places: a listing stars it, a history that is logged without a
target starts from it, and a browser selects it on its own once a listing arrives. Main statement: they
all take the same ref, the preferred one if it is listed and else the last, also where names were
repeated or hashes are shared; of an empty set none of them takes any. -/

namespace Lineage

namespace Listing

def isStarred (line : String) : Bool := line.toList.head? == some '*'

variable {refs : RefSet} {preferred : Option String} {r : Ref}

theorem isStarred_refLine (width : Nat) (default : Option Ref) (r : Ref) :
    isStarred (refLine width default r) = (default.map Ref.name == some r.name) := by
  rw [refLine, isStarred]
  cases default.map Ref.name == some r.name <;> simp

/-- Names decide, and they are distinct. -/
theorem map_isStarred_refLines (h : refs.default? preferred = some r) :
    (refLines refs preferred).map isStarred = refs.toList.map (· == r) := by
  rw [refLines, List.map_map, h]
  refine List.map_congr_left fun entry hentry => ?_
  rw [Function.comp_apply, isStarred_refLine, Option.map_some, Bool.eq_iff_iff, beq_iff_eq, beq_iff_eq,
    Option.some.injEq]
  exact ⟨fun hname => RefSet.eq_of_name hentry (RefSet.mem_of_default? h) hname.symm,
    fun hsame => congrArg Ref.name hsame.symm⟩

end Listing

namespace Browser.State

variable {s : State} {refs : RefSet} {server : Url} {r : Ref}

/-- Nothing is listed, and nothing is selected that was not before. -/
theorem reduce_refsLoaded_of_empty (s : State) (h : refs.isEmpty = true) :
    s.reduce (.refsLoaded s.refsGeneration refs) = (s.withRefs (.ready refs), []) := by
  have hdefault : defaultHash? s.preferred (.ofListing (.ok refs)) = none := by
    rw [Loadable.ofListing, defaultHash?, RefSet.default?_eq_none h]
    rfl
  have hreduce := s.reduce_listing (.ok refs)
  rw [hdefault] at hreduce
  cases hselected : s.selected with
  | none => rw [hselected] at hreduce; exact hreduce
  | some hash => rw [hselected] at hreduce; exact hreduce

/-- The first listing after a change of servers. -/
theorem reduce_refsLoaded_of_opened (h : refs.default? s.preferred = some r) :
    (s.opened server).reduce (.refsLoaded (s.opened server).refsGeneration refs) =
      (((s.opened server).withRefs (.ready refs)).picked r.hash,
        [.walkHistory server r.hash ((s.opened server).historyGeneration + 1)]) := by
  have hdefault : defaultHash? (s.opened server).preferred (.ofListing (.ok refs)) = some r.hash := by
    rw [Loadable.ofListing, defaultHash?, opened, h]
    rfl
  have hreduce := (s.opened server).reduce_listing (.ok refs)
  rw [hdefault] at hreduce
  exact hreduce.trans (select_of_server rfl)

end Browser.State

namespace Command

/-- All parts take the ref for the default of the set. -/
structure TakenAsDefault (refs : RefSet) (preferred : Option String) (r : Ref) : Prop where
  once : refs.toList.count r = 1
  preferred_of_listed : ∀ entry ∈ refs.toList, preferred = some entry.name → r = entry
  last_of_unlisted : (∀ entry ∈ refs.toList, preferred ≠ some entry.name) →
    refs.toList.getLast? = some r
  starred : (Listing.refLines refs preferred).map Listing.isStarred = refs.toList.map (· == r)
  start : resolveStart none (some refs) preferred = .ok r.hash
  start_by_name : resolveStart (some r.name) (some refs) preferred = .ok r.hash
  selected : ∀ (s : Browser.State) (server : Url), s.preferred = preferred →
    ∃ opened listed, (s.reduce (.setServer server)).1 = opened ∧
      opened.reduce (.refsLoaded opened.refsGeneration refs) =
        (listed, [.walkHistory server r.hash listed.historyGeneration]) ∧
      listed.selected = some r.hash

/-- No part takes any ref for the default of the set. -/
structure LacksDefault (refs : RefSet) (preferred : Option String) : Prop where
  unlisted : Listing.refLines refs preferred = []
  start : resolveStart none (some refs) preferred = .error .noRefs
  unselected : ∀ s : Browser.State, ∃ listed,
    s.reduce (.refsLoaded s.refsGeneration refs) = (listed, []) ∧ listed.selected = s.selected

variable {refs : RefSet} {preferred : Option String} {r : Ref}

theorem lacksDefault_of_isEmpty (h : refs.isEmpty = true) : LacksDefault refs preferred where
  unlisted := by
    have hrefs : refs.toList = [] := List.isEmpty_iff.1 h
    rw [Listing.refLines, hrefs]
    rfl
  start := by rw [resolveStart, RefSet.default?_eq_none h]
  unselected s := ⟨_, Browser.State.reduce_refsLoaded_of_empty s h, rfl⟩

theorem takenAsDefault_of_default? (h : refs.default? preferred = some r) :
    TakenAsDefault refs preferred r where
  once := RefSet.count_eq_one (RefSet.mem_of_default? h)
  preferred_of_listed entry hentry hpreferred := by
    rw [hpreferred, RefSet.default?_of_listed hentry] at h
    exact (Option.some.inj h).symm
  last_of_unlisted hunlisted := by rw [← h, RefSet.default?_of_unlisted hunlisted]
  starred := Listing.map_isStarred_refLines h
  start := by rw [resolveStart, h]
  start_by_name := by rw [resolveStart, RefSet.resolve_name (RefSet.mem_of_default? h)]
  selected s server hpreferred :=
    ⟨_, _, rfl, Browser.State.reduce_refsLoaded_of_opened (hpreferred ▸ h), rfl⟩

/-- For every list of refs and every preference. -/
theorem default_ref_agreed (l : List Ref) (preferred : Option String) :
    if (RefSet.ofList l).isEmpty then LacksDefault (.ofList l) preferred
    else ∃ r, TakenAsDefault (.ofList l) preferred r := by
  cases hempty : (RefSet.ofList l).isEmpty with
  | true => exact lacksDefault_of_isEmpty hempty
  | false =>
      obtain ⟨r, hr⟩ := Option.ne_none_iff_exists'.1 (RefSet.default?_ne_none preferred hempty)
      exact ⟨r, takenAsDefault_of_default? hr⟩

/-- A name that is listed again keeps its place, so that the last ref is the other one. -/
example : (RefSet.ofList [⟨"main", "a"⟩, ⟨"dev", "b"⟩, ⟨"main", "b"⟩]).default? none =
    some ⟨"dev", "b"⟩ := by decide

end Command

end Lineage
