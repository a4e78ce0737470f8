import Mathlib
import Lineage.Proofs.History.Walk

/-! Walks from one start under different bounds. Where the smaller bound does not show, both take the
same course; where it does, the deeper walk goes on from there, and it may end for any reason. Main
statement: a deeper walk extends a shallower one, which is cut short exactly if it is full and the last
checkpoint names a parent. -/

namespace Lineage

/-- A checkpoint with one parent, of which nothing else is said. -/
def Checkpoint.childOf (hash parent : String) : Checkpoint :=
  { Checkpoint.bare hash with parentHashes := [parent] }

namespace Answers

/-- A source that gives the same answer to a hash whenever it is asked. -/
def steady (source : String → Except RequestError (Option Checkpoint)) : Answers := fun _ => source

variable {a : Answers} {limit : Nat} {earlier hashes asked : List String} {next last : Option String}
variable {checkpoints : List Checkpoint} {ending : Ending}

/-- What would be asked for next, after the checkpoints. -/
def onward (next : Option String) (checkpoints : List Checkpoint) : Option String :=
  match checkpoints.getLast? with
  | none => next
  | some checkpoint => checkpoint.firstParent

theorem onward_cons (next : Option String) (checkpoint : Checkpoint) (older : List Checkpoint) :
    onward next (checkpoint :: older) = onward checkpoint.firstParent older := by
  rw [onward, onward, List.getLast?_cons]
  cases older.getLast? <;> rfl

theorem Trail.last_eq (h : Trail a earlier next hashes checkpoints last) :
    last = onward next checkpoints := by
  induction h with
  | stop => rfl
  | step _ _ ih => rw [onward_cons, ih]

/-- The bound is looked at before anything but the name. -/
theorem Stops.eq_depthLimit_iff (h : Stops a limit hashes last ending asked) (bound : Nat) :
    ending = .depthLimit bound ↔
      bound = limit ∧ hashes.length = limit ∧ ∃ next, last = some next ∧ next ≠ "" := by
  cases h with
  | root => exact ⟨nofun, fun ⟨_, _, _, hnext, _⟩ => nomatch hnext⟩
  | unnamed => exact ⟨nofun, fun ⟨_, _, _, hnext, named⟩ => absurd (Option.some.inj hnext).symm named⟩
  | deep named hlength =>
      exact ⟨fun h => ⟨(Ending.depthLimit.inj h).symm, hlength, _, rfl, named⟩, fun h => h.1 ▸ rfl⟩
  | cycle _ room => exact ⟨nofun, fun ⟨_, hlength, _⟩ => absurd hlength room.ne⟩
  | gone _ room => exact ⟨nofun, fun ⟨_, hlength, _⟩ => absurd hlength room.ne⟩
  | failed _ room => exact ⟨nofun, fun ⟨_, hlength, _⟩ => absurd hlength room.ne⟩

section

variable {left : Nat} {next : String} {log : List String}

/-- Nothing is taken back from the log. -/
theorem Course.prefix_log (course : Course a limit left earlier next checkpoints ending log) :
    earlier <+: log := by
  induction course with
  | unnamed | deep | cycle => exact List.prefix_rfl
  | gone | failed | root => exact List.prefix_append ..
  | parent _ _ _ _ _ ih => exact (List.prefix_append ..).trans ih

theorem Course.length_le (course : Course a limit left earlier next checkpoints ending log) :
    checkpoints.length ≤ left := by
  induction course with
  | root => exact Nat.succ_le_succ (Nat.zero_le _)
  | parent _ _ _ _ _ ih => exact Nat.succ_le_succ ih
  | _ => exact Nat.zero_le _

/-- With room for more, a course stays as it is unless the bound has ended it. -/
theorem Course.loosen (course : Course a limit left earlier next checkpoints ending log)
    (free : ending ≠ .depthLimit limit) (more other : Nat) :
    Course a other (left + more) earlier next checkpoints ending log := by
  induction course with
  | unnamed left earlier => exact .unnamed (left + more) earlier
  | deep => exact absurd rfl free
  | cycle left named h => exact Nat.succ_add left more ▸ .cycle (left + more) named h
  | gone left named new h => exact Nat.succ_add left more ▸ .gone (left + more) named new h
  | failed left named new h => exact Nat.succ_add left more ▸ .failed (left + more) named new h
  | root left named new h orphan => exact Nat.succ_add left more ▸ .root (left + more) named new h orphan
  | @parent left _ _ _ _ _ _ _ named new h hparent _ ih =>
      exact Nat.succ_add left more ▸ .parent named new h hparent (ih free)

/-- A course that the bound has ended goes on from where it stands. -/
theorem Course.extend (course : Course a limit left earlier next checkpoints ending log)
    (cut : ending = .depthLimit limit) (more other : Nat) :
    checkpoints.length = left ∧ ∃ older ending' log',
      Course a other (left + more) earlier next (checkpoints ++ older) ending' log' ∧ log <+: log' := by
  induction course with
  | @deep next earlier named =>
      obtain ⟨older, ending', log', further⟩ := a.exists_course other (0 + more) earlier next
      exact ⟨rfl, older, ending', log', further, further.prefix_log⟩
  | @parent left _ _ _ _ _ _ _ named new h hparent _ ih =>
      obtain ⟨hlength, older, ending', log', further, hlog⟩ := ih cut
      have further' := Course.parent named new h hparent further
      exact ⟨congrArg Nat.succ hlength, older, ending', log', Nat.succ_add left more ▸ further', hlog⟩
  | _ => cases cut

end

/-- What a walk with a smaller bound has of one with a larger bound. -/
structure Extends (depth : Nat) (shallow deep : History × List String) : Prop where
  checkpoints : shallow.1.checkpoints = deep.1.checkpoints.take depth
  requests : shallow.2 <+: deep.2
  same : shallow.1.ending ≠ .depthLimit depth → shallow = deep

theorem walk_extends (a : Answers) (start : String) {depth deeper : Nat} (le : depth ≤ deeper) :
    Extends (max 1 depth) (a.walk depth start) (a.walk deeper start) := by
  obtain ⟨checkpoints, ending, log, course, hwalk⟩ := a.exists_walk_course depth start
  obtain ⟨more, hmore⟩ : ∃ more, max 1 deeper = max 1 depth + more :=
    Nat.exists_eq_add_of_le (max_le_max_left 1 le)
  rw [hwalk]
  by_cases cut : ending = .depthLimit (max 1 depth)
  · obtain ⟨hlength, older, ending', log', further, hlog⟩ := course.extend cut more (max 1 deeper)
    rw [← hmore] at further
    rw [further.walk_eq]
    exact ⟨(List.take_left' hlength).symm, hlog, fun free => absurd cut free⟩
  · have further := course.loosen cut more (max 1 deeper)
    rw [← hmore] at further
    rw [further.walk_eq]
    exact ⟨(List.take_of_length_le course.length_le).symm, List.prefix_rfl, fun _ => rfl⟩

/-- When a walk is cut short. -/
theorem walk_eq_depthLimit_iff (a : Answers) (depth bound : Nat) (start : String) :
    (a.walk depth start).1.ending = .depthLimit bound ↔
      bound = max 1 depth ∧ (a.walk depth start).1.checkpoints.length = max 1 depth ∧
        ∃ checkpoint parent, (a.walk depth start).1.checkpoints.getLast? = some checkpoint ∧
          checkpoint.firstParent = some parent ∧ parent ≠ "" := by
  obtain ⟨hashes, account⟩ := a.account depth start
  obtain ⟨last, asked, trail, stops, -⟩ := account.told
  rw [stops.eq_depthLimit_iff, account.length_eq, trail.last_eq]
  refine and_congr_right fun _ => and_congr_right fun hlength => ?_
  -- A bound is at least one, so that there is a last checkpoint.
  obtain ⟨checkpoint, hlast⟩ : ∃ checkpoint,
      (a.walk depth start).1.checkpoints.getLast? = some checkpoint := by
    refine Option.ne_none_iff_exists'.1 fun hnone => ?_
    rw [List.getLast?_eq_none_iff.1 hnone, List.length_nil] at hlength
    omega
  rw [onward, hlast]
  exact ⟨fun ⟨parent, h⟩ => ⟨checkpoint, parent, rfl, h⟩,
    fun ⟨_, parent, hsame, h⟩ => ⟨parent, Option.some.inj hsame ▸ h⟩⟩

/-- Both walks are made afresh; the source may be any that answers the same requests in the same way. -/
theorem deeper_walk_extends (a : Answers) (start : String) {depth deeper : Nat} (pos : 1 ≤ depth)
    (le : depth ≤ deeper) :
    Extends depth (a.walk depth start) (a.walk deeper start) ∧
      ∀ bound, (a.walk depth start).1.ending = .depthLimit bound ↔
        bound = depth ∧ (a.walk depth start).1.checkpoints.length = depth ∧
          ∃ checkpoint parent, (a.walk depth start).1.checkpoints.getLast? = some checkpoint ∧
            checkpoint.firstParent = some parent ∧ parent ≠ "" := by
  have hextends := a.walk_extends start le
  have hlimit := a.walk_eq_depthLimit_iff depth
  rw [max_eq_right pos] at hextends hlimit
  exact ⟨hextends, fun bound => hlimit bound start⟩

/-- From `a` on to `b`, and from there around `b` and `c`. -/
def loopSource (hash : String) : Except RequestError (Option Checkpoint) :=
  if hash = "a" then .ok (some (.childOf "a" "b"))
  else if hash = "b" then .ok (some (.childOf "b" "c"))
  else if hash = "c" then .ok (some (.childOf "c" "b"))
  else .ok none

def loop : Answers := steady loopSource

/-- With one step more the loop is seen, which adds no checkpoint and no request. -/
theorem deeper_walk_extends_around_loop :
    1 ≤ 3 ∧ 3 ≤ 4 ∧ (loop.walk 3 "a").1.ending = .depthLimit 3 ∧
      (loop.walk 4 "a").1.ending = .cycle "b" ∧ (loop.walk 3 "a").2 = ["a", "b", "c"] ∧
      (loop.walk 4 "a").1.checkpoints.length = 3 ∧
      Extends 3 (loop.walk 3 "a") (loop.walk 4 "a") :=
  ⟨by decide, by decide, by rfl, by rfl, by rfl, by rfl,
    (deeper_walk_extends loop "a" (by decide) (by decide)).1⟩

end Answers

end Lineage
