import Mathlib
import Lineage.Browser.View
import Lineage.Proofs.Browser.Selection
import Lineage.Proofs.Command.DefaultRef

/-! What a browser calls the selection. It keeps a hash, and looks the name up in the listing when it is
asked. Main statement: a ref that was picked, by its name or as the default one, is the one that is
named exactly if its hash was selected and no ref that is listed before it has the same hash. -/

namespace Lineage

namespace RefSet

/-- No ref that is listed before it points at its hash. -/
def IsFirst (refs : RefSet) (r : Ref) : Prop :=
  ∃ front back, refs.toList = front ++ r :: back ∧ ∀ other ∈ front, other.hash ≠ r.hash

theorem nameOf?_eq_some_iff {refs : RefSet} {r : Ref} (mem : r ∈ refs.toList) (hash : String) :
    refs.nameOf? hash = some r.name ↔ hash = r.hash ∧ refs.IsFirst r := by
  constructor
  · intro h
    obtain ⟨found, hfound, hname⟩ := Option.map_eq_some_iff.1 h
    obtain rfl := eq_of_name (List.mem_of_find?_eq_some hfound) mem hname
    obtain ⟨hhash, front, back, hrefs, hfront⟩ := List.find?_eq_some_iff_append.1 hfound
    obtain rfl : found.hash = hash := beq_iff_eq.1 hhash
    exact ⟨rfl, front, back, hrefs, fun other hother => by simpa using hfront other hother⟩
  · rintro ⟨rfl, front, back, hrefs, hfront⟩
    have hfound : refs.refs.find? (·.hash == r.hash) = some r := by
      refine List.find?_eq_some_iff_append.2 ⟨beq_self_eq_true _, front, back, hrefs, ?_⟩
      exact fun other hother => by simpa using hfront other hother
    rw [nameOf?, hfound, Option.map_some]

end RefSet

namespace Browser

namespace State

/-- The ref is said to be the selected one, also where the browser tells how it stands. -/
structure Names (s : State) (r : Ref) : Prop where
  name : s.selectedName = some r.name
  line : "Selected: " ++ (r.name ++ " (" ++ r.hash ++ ")") ∈ s.statusLines

variable {s : State} {refs : RefSet} {r : Ref} {hash : String}

theorem names_iff (selected : s.selected = some hash) (listed : s.refs = .ready refs)
    (mem : r ∈ refs.toList) : s.Names r ↔ hash = r.hash ∧ refs.IsFirst r := by
  have hname : s.selectedName = refs.nameOf? hash := by
    rw [selectedName, selected, listed]
    rfl
  rw [← RefSet.nameOf?_eq_some_iff mem, ← hname]
  refine ⟨Names.name, fun h => ⟨h, ?_⟩⟩
  obtain ⟨rfl, -⟩ := (RefSet.nameOf?_eq_some_iff mem hash).1 (hname ▸ h)
  have htext : s.selectionText = r.name ++ " (" ++ r.hash ++ ")" := by rw [selectionText, h, selected]
  rw [statusLines, htext, List.append_assoc]
  exact List.mem_append_left _ (by simp)

theorem map_isStarred_refsView (listed : s.refs = .ready refs)
    (default : refs.default? s.preferred = some r) :
    s.refsView.map Listing.isStarred = refs.toList.map (· == r) := by
  have hempty : refs.isEmpty = false := by
    refine Bool.eq_false_iff.2 fun h => ?_
    rw [RefSet.default?_eq_none h] at default
    cases default
  rw [refsView, listed, ← Listing.map_isStarred_refLines default]
  simp [hempty]

end State

section

variable {b c : Browser} {later : Trace} {hash : String}

/-- Completions leave a selection as it is; only without one does a listing select its default ref. -/
theorem Completes.selected_eq (completes : Completes b later c) (h : b.state.selected = some hash) :
    c.state.selected = some hash := by
  induction completes with
  | stop => exact h
  | @step _ c _ event _ completion _ _ ih =>
      rw [dispatch_state]
      have hchange := c.state.change event
      generalize c.state.reduce event.action = next at hchange ⊢
      cases hchange with
      | opened | picked => cases completion
      | defaulted _ _ _ unselected => exact nomatch unselected.symm.trans ih
      | _ => exact ih

theorem Completes.preferred_eq (completes : Completes b later c) :
    c.state.preferred = b.state.preferred := by
  induction completes with
  | stop => rfl
  | @step _ c _ event _ _ _ _ ih =>
      rw [dispatch_state, ← ih]
      have hchange := c.state.change event
      generalize c.state.reduce event.action = next at hchange ⊢
      cases hchange <;> rfl

theorem selected_select {server : Url} (served : b.state.server = some server) (nameOrHash : String) :
    (b.select nameOrHash).state.selected = some (b.state.resolve nameOrHash) := by
  have hselect : b.state.select (b.state.resolve nameOrHash) = _ := State.select_of_server served
  exact congrArg (fun next => next.1.selected) hselect

variable {server : Url} (served : b.state.server = some server) {refs : RefSet} {r : Ref}

include served

/-- After a selection by name. -/
theorem names_after_select (mem : r ∈ refs.toList) (completes : Completes (b.select r.name) later c)
    (listed : c.state.refs = .ready refs) :
    c.state.Names r ↔ b.state.resolve r.name = r.hash ∧ refs.IsFirst r :=
  State.names_iff (completes.selected_eq (selected_select served r.name)) listed mem

/-- After a listing that selected its default ref. -/
theorem names_after_default (unselected : b.state.selected = none)
    (default : refs.default? b.state.preferred = some r) {rest : List Effect}
    (completes : Completes
      ({ b with inFlight := rest }.dispatch (.refsLoaded b.state.refsGeneration refs)) later c)
    (listed : c.state.refs = .ready refs) :
    c.state.refsView.map Listing.isStarred = refs.toList.map (· == r) ∧
      (c.state.Names r ↔ refs.IsFirst r) := by
  have hdefault : State.defaultHash? b.state.preferred (.ofListing (.ok refs)) = some r.hash := by
    rw [Loadable.ofListing, State.defaultHash?, default, Option.map_some]
  have hreduce := b.state.reduce_listing (.ok refs)
  rw [unselected, hdefault] at hreduce
  have hreduce' : b.state.reduce (.refsLoaded b.state.refsGeneration refs) = _ :=
    hreduce.trans (State.select_of_server served)
  have hselected := completes.selected_eq (congrArg (fun next => next.1.selected) hreduce')
  have hpreferred := completes.preferred_eq.trans (congrArg (fun next => next.1.preferred) hreduce')
  refine ⟨State.map_isStarred_refsView listed (hpreferred ▸ default), ?_⟩
  rw [State.names_iff hselected listed (RefSet.mem_of_default? default)]
  exact and_iff_right rfl

/-- Whether the ref was picked by its name or is the default one, and in any order of completion. A
name stands for its hash if the listing was there when it was selected. -/
theorem picked_ref_is_named_iff (mem : r ∈ refs.toList) :
    (∀ later c, Completes (b.select r.name) later c → c.state.refs = .ready refs →
      (c.state.Names r ↔ b.state.resolve r.name = r.hash ∧ refs.IsFirst r)) ∧
    (b.state.refs = .ready refs → b.state.resolve r.name = r.hash) ∧
    (b.state.refs.value? = none → b.state.resolve r.name = r.name) ∧
    (b.state.selected = none → refs.default? b.state.preferred = some r → ∀ rest later c,
      Completes ({ b with inFlight := rest }.dispatch (.refsLoaded b.state.refsGeneration refs))
        later c → c.state.refs = .ready refs →
      c.state.refsView.map Listing.isStarred = refs.toList.map (· == r) ∧
        (c.state.Names r ↔ refs.IsFirst r)) := by
  refine ⟨fun later c completes listed => names_after_select served mem completes listed,
    fun listed => ?_, fun unlisted => ?_, fun unselected default rest later c completes listed =>
      names_after_default served unselected default completes listed⟩
  · rw [State.resolve, listed]
    exact RefSet.resolve_name mem
  · rw [State.resolve, unlisted]

end

/-- A server whose last two refs share a hash. -/
def sharedRefs : RefSet := .ofList [⟨"old", "b"⟩, ⟨"main", "a"⟩, ⟨"dev", "a"⟩]

/-- The browser to which that server has just listed its refs. -/
def sharing : Browser :=
  ⟨plainClient, 1, ⟨some (localServer 80), .ready sharedRefs, some "a", .loading, none, 1, 2⟩,
    [.walkHistory (localServer 80) "a" 2]⟩

theorem run_sharing : ∃ trace, Run plainClient 1 none trace sharing :=
  ⟨_, .step (.step .start (.setServer (localServer 80)) [] .nil trivial)
    (.listed (localServer 80) 1 (.ok sharedRefs)) [] (.refl _) trivial⟩

/-- The first of two refs that share a hash is named after it was selected. -/
theorem picked_ref_is_named_iff_for_main :
    (∃ trace, Run plainClient 1 none trace sharing) ∧
      sharing.state.server = some (localServer 80) ∧ ⟨"main", "a"⟩ ∈ sharedRefs.toList ∧
      ∃ later c, Completes (sharing.select "main") later c ∧
        c.state.refs = .ready sharedRefs ∧ c.state.Names ⟨"main", "a"⟩ := by
  have mem : ⟨"main", "a"⟩ ∈ sharedRefs.toList := by decide
  have first : sharedRefs.IsFirst ⟨"main", "a"⟩ := ⟨[⟨"old", "b"⟩], [⟨"dev", "a"⟩], rfl, by decide⟩
  have completes := (Completes.stop : Completes (sharing.select "main") [] _)
    |>.step (.walked (localServer 80) "a" 3 ⟨"a", [.bare "a"], .root⟩)
      [.walkHistory (localServer 80) "a" 2] rfl (.swap ..) rfl
  have iff := picked_ref_is_named_iff (b := sharing) rfl mem
  exact ⟨run_sharing, rfl, mem, _, _, completes, rfl, (iff.1 _ _ completes rfl).2 ⟨iff.2.1 rfl, first⟩⟩

/-- The last ref is the default one, and starred; the browser names another one for it, also when it is
selected by its name. -/
theorem default_ref_is_misnamed :
    ∃ trace b, Run plainClient 1 none trace b ∧ b.state.refs = .ready sharedRefs ∧
      sharedRefs.default? b.state.preferred = some ⟨"dev", "a"⟩ ∧
      b.state.refsView.map Listing.isStarred = [false, false, true] ∧
      b.state.selected = some "a" ∧ b.state.selectedName = some "main" ∧
      (b.select "dev").state.selectedName = some "main" ∧
      "Selected: main (a)" ∈ b.state.statusLines := by
  obtain ⟨trace, run⟩ := run_sharing
  have hdefault : sharedRefs.default? sharing.state.preferred = some ⟨"dev", "a"⟩ := by decide
  exact ⟨trace, _, run, rfl, hdefault, State.map_isStarred_refsView rfl hdefault, rfl, by decide,
    by decide, by decide⟩

end Browser

end Lineage
