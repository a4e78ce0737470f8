import Mathlib
import Lineage.Listing
import Lineage.Proofs.History.Depth

/-! The note under a history, held against the walk. The note is made of the reason alone, and one reason
stands for two cases: nothing was selected, or a checkpoint names a parent by the empty text. Main
statement: there is no note exactly under a complete history; a hash that the walk stopped at is named,
with what became of it, and a bound is the number of checkpoints; but that nothing was selected is also
said under checkpoints, exactly if the last of them has the empty text for its first parent. -/

namespace Lineage

namespace Listing

/-- The note of a history without a start. -/
def unselected : String := "No checkpoint selected."

variable {h : History}

theorem endNote_eq_none_iff : endNote h = none ↔ h.isComplete = true := by
  rw [endNote, History.isComplete]
  cases h.ending with
  | missing hash => by_cases hempty : hash.isEmpty <;> simp [hempty]
  | _ => simp

end Listing

namespace Answers

open Listing (endNote unselected)

/-- The note says why the walk over the hashes did not go on to the next one, which it names; or else it
says how many there are. -/
inductive Names (a : Answers) (limit : Nat) (hashes : List String) (next : String) : String → Prop
  | gone (h : a hashes next = .ok none) :
      Names a limit hashes next
        ("History ends early: " ++ Hash.abbreviate next ++ " came back empty.")
  | failed {error : RequestError} (h : a hashes next = .error error) :
      Names a limit hashes next
        ("History ends early: could not fetch " ++ Hash.abbreviate next ++ ": " ++ error.message)
  | cycle (h : next ∈ hashes) :
      Names a limit hashes next
        ("History ends early: " ++ Hash.abbreviate next ++ " is its own ancestor.")
  | deep (h : hashes.length = limit) :
      Names a limit hashes next
        s!"Showing the first {hashes.length} checkpoints (use --max-depth to see more)."

/-- What is noted of a walk, by the hash that it was to go on with. -/
inductive Noted (a : Answers) (limit : Nat) (hashes : List String) :
    (next : Option String) → (note : Option String) → Prop
  | complete : Noted a limit hashes none none
  | unnamed : Noted a limit hashes (some "") (some unselected)
  | stopped {next note : String} (named : next ≠ "") (names : Names a limit hashes next note) :
      Noted a limit hashes (some next) (some note)

variable {a : Answers} {limit : Nat} {hashes asked : List String} {next note : String}
variable {last shown : Option String} {ending : Ending}

theorem Stops.noted (stops : Stops a limit hashes last ending asked) (start : String)
    (checkpoints : List Checkpoint) :
    Noted a limit hashes last (endNote ⟨start, checkpoints, ending⟩) := by
  cases stops with
  | root => exact .complete
  | unnamed => exact .unnamed
  | deep named h =>
      subst h
      exact .stopped named (.deep rfl)
  | cycle named _ h => exact .stopped named (.cycle h)
  | @gone next named _ _ h =>
      have hnote : endNote ⟨start, checkpoints, .missing next⟩ =
          some ("History ends early: " ++ Hash.abbreviate next ++ " came back empty.") := by
        simp [endNote, named]
      rw [hnote]
      exact .stopped named (.gone h)
  | failed named _ _ h => exact .stopped named (.failed h)

/-- A note that names something does not say that nothing was selected. -/
theorem Names.ne_unselected (names : Names a limit hashes next note) : note ≠ unselected := by
  intro heq
  have hfirst := congrArg (fun s => s.toList.head?) heq
  cases names with
  | deep =>
      have hopening : (toString "Showing the first ").toList = 'S' :: "howing the first ".toList := rfl
      simp only [String.toList_append, hopening] at hfirst
      cases hfirst
  | _ => simp [unselected] at hfirst

theorem Noted.eq_unselected_iff (h : Noted a limit hashes last shown) :
    shown = some unselected ↔ last = some "" := by
  cases h with
  | complete => exact iff_of_false nofun nofun
  | unnamed => exact iff_of_true rfl rfl
  | stopped named names =>
      exact iff_of_false (fun h => names.ne_unselected (Option.some.inj h))
        fun h => named (Option.some.inj h)

theorem Noted.exists_names (h : Noted a limit hashes (some next) shown) (named : next ≠ "") :
    ∃ note, shown = some note ∧ Names a limit hashes next note := by
  cases h with
  | unnamed => exact absurd rfl named
  | stopped _ names => exact ⟨_, rfl, names⟩

theorem Noted.eq_none_iff (h : Noted a limit hashes last shown) : shown = none ↔ last = none := by
  cases h <;> simp

/-- For every source, start and bound. -/
theorem note_tells_unless_unnamed (a : Answers) (maxDepth : Nat) (start : String) :
    let h := (a.walk maxDepth start).1
    let hashes := (a.walk maxDepth start).2.take h.checkpoints.length
    (endNote h = none ↔ h.isComplete = true) ∧
      (endNote h = none ↔ onward (some start) h.checkpoints = none) ∧
      (endNote h = some unselected ↔
        start = "" ∧ h.checkpoints = [] ∨ ∃ c, h.checkpoints.getLast? = some c ∧ c.firstParent = some "") ∧
      ∀ next, onward (some start) h.checkpoints = some next → next ≠ "" →
        hashes.length = h.checkpoints.length ∧
          ∃ note, endNote h = some note ∧ Names a (max 1 maxDepth) hashes next note := by
  obtain ⟨hashes, account⟩ := a.account maxDepth start
  obtain ⟨last, asked, trail, stops, hlog⟩ := account.told
  have noted : Noted a (max 1 maxDepth) hashes last (endNote (a.walk maxDepth start).1) :=
    stops.noted _ _
  have hhashes : (a.walk maxDepth start).2.take (a.walk maxDepth start).1.checkpoints.length = hashes := by
    rw [hlog, ← account.length_eq, List.take_left]
  have hlast := trail.last_eq
  intro h walked
  refine ⟨Listing.endNote_eq_none_iff, hlast ▸ noted.eq_none_iff, ?_, fun next hnext named => ?_⟩
  · rw [noted.eq_unselected_iff, hlast, onward]
    cases hend : h.checkpoints.getLast? with
    | none =>
        have hnone : h.checkpoints = [] := List.getLast?_eq_none_iff.1 hend
        simp [hnone]
    | some c =>
        have hsome : h.checkpoints ≠ [] := by
          intro hnone
          rw [hnone] at hend
          cases hend
        simp [hsome]
  · have hwalked : walked = hashes := hhashes
    rw [hlast.trans hnext] at noted
    rw [hwalked]
    exact ⟨account.length_eq, noted.exists_names named⟩

/-- The only checkpoint of the history names a parent by the empty text. -/
theorem note_denies_selection :
    let a := steady fun hash => .ok (some (.childOf hash ""))
    (a.walk 5 "sha256:a").1.checkpoints = [.childOf "sha256:a" ""] ∧
      endNote (a.walk 5 "sha256:a").1 = some unselected := by
  decide +kernel

end Answers

end Lineage
