import Mathlib
import Lineage.History.Walk

/-! What a walk returns and what it asks for, from any source: also one that answers the same hash
differently the next time. A log of the requests is kept beside the walk. Main statement: the history
is the trail of first parents from the start, it ends for the first reason that applies, and no hash
is asked for twice. -/

namespace Lineage

/-- The answer to a hash, after the requests that were made before it. -/
abbrev Answers := List String → String → Except RequestError (Option Checkpoint)

namespace Answers

/-- The source that keeps the log. -/
def source (a : Answers) : Source (StateM (List String)) :=
  fun hash earlier => (a earlier hash, earlier ++ [hash])

/-- A walk and its requests. -/
def walk (a : Answers) (maxDepth : Nat) (start : String) : History × List String :=
  (History.walk a.source maxDepth start).run []

/-- From `next` on, after the requests `earlier`, the hashes are asked for one after another; each
answer is a checkpoint, and its first parent is the next hash. -/
inductive Trail (a : Answers) :
    (earlier : List String) → (next : Option String) → (hashes : List String) → List Checkpoint →
      (last : Option String) → Prop
  | stop (earlier : List String) (next : Option String) : Trail a earlier next [] [] next
  | step {earlier hashes : List String} {next : String} {last : Option String}
      {checkpoint : Checkpoint} {older : List Checkpoint}
      (answer : a earlier next = .ok (some checkpoint))
      (rest : Trail a (earlier ++ [next]) checkpoint.firstParent hashes older last) :
      Trail a earlier (some next) (next :: hashes) (checkpoint :: older) last

/-- Why a walk over the hashes does not go on, and whether it asks for the next hash to find out. The
reasons exclude each other. -/
inductive Stops (a : Answers) (limit : Nat) (hashes : List String) :
    (next : Option String) → Ending → (asked : List String) → Prop
  | root : Stops a limit hashes none .root []
  | unnamed : Stops a limit hashes (some "") (.missing "") []
  | deep {next : String} (named : next ≠ "") (h : hashes.length = limit) :
      Stops a limit hashes (some next) (.depthLimit limit) []
  | cycle {next : String} (named : next ≠ "") (room : hashes.length < limit) (h : next ∈ hashes) :
      Stops a limit hashes (some next) (.cycle next) []
  | gone {next : String} (named : next ≠ "") (room : hashes.length < limit) (new : next ∉ hashes)
      (h : a hashes next = .ok none) : Stops a limit hashes (some next) (.missing next) [next]
  | failed {next : String} {error : RequestError} (named : next ≠ "") (room : hashes.length < limit)
      (new : next ∉ hashes) (h : a hashes next = .error error) :
      Stops a limit hashes (some next) (.fetchFailed next error.message) [next]

/-- All that is to be said of a walk over the hashes. -/
structure Account (a : Answers) (limit : Nat) (start : String) (hashes : List String)
    (history : History) (requests : List String) : Prop where
  start_eq : history.start = start
  told : ∃ last asked, Trail a [] (some start) hashes history.checkpoints last ∧
    Stops a limit hashes last history.ending asked ∧ requests = hashes ++ asked
  length_eq : hashes.length = history.checkpoints.length
  bounded : hashes.length ≤ limit
  named : "" ∉ hashes
  distinct : hashes.Nodup
  once : requests.Nodup

end Answers

/-- With its first parent only. -/
def Checkpoint.firstOnly (c : Checkpoint) : Checkpoint :=
  { c with parentHashes := c.parentHashes.take 1 }

@[simp] theorem Checkpoint.firstParent_firstOnly (c : Checkpoint) :
    c.firstOnly.firstParent = c.firstParent := by
  cases h : c.parentHashes <;> simp [Checkpoint.firstOnly, Checkpoint.firstParent, h]

/-- No answer has more than one parent. -/
def Answers.firstOnly (a : Answers) : Answers := fun earlier hash =>
  (a earlier hash).map (Option.map Checkpoint.firstOnly)

def History.firstOnly (h : History) : History :=
  { h with checkpoints := h.checkpoints.map Checkpoint.firstOnly }

namespace History

section

variable {m : Type → Type} [Monad m] {fetch : Source m} {limit left : Nat} {seen : List String}

theorem walkFrom_unnamed : walkFrom fetch limit left seen "" = pure ([], .missing "") := by
  cases left <;> rw [walkFrom, if_pos (by rfl)]

variable {next : String} (named : next ≠ "")

include named

theorem walkFrom_deep : walkFrom fetch limit 0 seen next = pure ([], .depthLimit limit) := by
  rw [walkFrom, if_neg (by simp [named])]

theorem walkFrom_cycle (h : next ∈ seen) :
    walkFrom fetch limit (left + 1) seen next = pure ([], .cycle next) := by
  rw [walkFrom, if_neg (by simp [named]), if_pos (List.contains_iff_mem.2 h)]

/-- One more request, and what becomes of its answer. -/
theorem walkFrom_fetch (h : next ∉ seen) :
    walkFrom fetch limit (left + 1) seen next = fetch next >>= fun answer =>
      match answer with
      | .ok (some checkpoint) =>
        match checkpoint.firstParent with
        | none => pure ([checkpoint], .root)
        | some parent => do
          let (older, ending) ← walkFrom fetch limit left (next :: seen) parent
          pure (checkpoint :: older, ending)
      | .ok none => pure ([], .missing next)
      | .error error => pure ([], .fetchFailed next error.message) := by
  rw [walkFrom]
  exact (if_neg (by simp [named])).trans (if_neg (by simp [h]))

end

end History

namespace Answers

variable {a : Answers} {limit : Nat} {earlier hashes asked : List String} {next last : Option String}
variable {checkpoints : List Checkpoint} {ending : Ending}

theorem Trail.length_eq (h : Trail a earlier next hashes checkpoints last) :
    hashes.length = checkpoints.length := by
  induction h with
  | stop => rfl
  | step _ _ ih => rw [List.length_cons, List.length_cons, ih]

/-- A walk that goes on asks for no hash that it has walked over. -/
theorem Stops.nodup (h : Stops a limit hashes last ending asked) (distinct : hashes.Nodup) :
    (hashes ++ asked).Nodup := by
  cases h with
  | gone _ _ new => exact List.concat_eq_append ▸ distinct.concat new
  | failed _ _ new => exact List.concat_eq_append ▸ distinct.concat new
  | _ => rwa [List.append_nil]

theorem run_source (a : Answers) (hash : String) (earlier : List String) :
    (a.source hash).run earlier = pure (a earlier hash, earlier ++ [hash]) := rfl

/-- The course of a walk from `next` on, over at most `left` more checkpoints after the requests
`earlier`: what is found, and the whole log. It goes on in one case only, the last. -/
inductive Course (a : Answers) (limit : Nat) :
    (left : Nat) → (earlier : List String) → (next : String) → List Checkpoint → Ending →
      (log : List String) → Prop
  | unnamed (left : Nat) (earlier : List String) :
      Course a limit left earlier "" [] (.missing "") earlier
  | deep {next : String} (earlier : List String) (named : next ≠ "") :
      Course a limit 0 earlier next [] (.depthLimit limit) earlier
  | cycle {earlier : List String} {next : String} (left : Nat) (named : next ≠ "")
      (h : next ∈ earlier) : Course a limit (left + 1) earlier next [] (.cycle next) earlier
  | gone {earlier : List String} {next : String} (left : Nat) (named : next ≠ "")
      (new : next ∉ earlier) (h : a earlier next = .ok none) :
      Course a limit (left + 1) earlier next [] (.missing next) (earlier ++ [next])
  | failed {earlier : List String} {next : String} {error : RequestError} (left : Nat)
      (named : next ≠ "") (new : next ∉ earlier) (h : a earlier next = .error error) :
      Course a limit (left + 1) earlier next [] (.fetchFailed next error.message) (earlier ++ [next])
  | root {earlier : List String} {next : String} {checkpoint : Checkpoint} (left : Nat)
      (named : next ≠ "") (new : next ∉ earlier) (h : a earlier next = .ok (some checkpoint))
      (orphan : checkpoint.firstParent = none) :
      Course a limit (left + 1) earlier next [checkpoint] .root (earlier ++ [next])
  | parent {left : Nat} {earlier log : List String} {next parent : String} {checkpoint : Checkpoint}
      {older : List Checkpoint} {ending : Ending} (named : next ≠ "") (new : next ∉ earlier)
      (h : a earlier next = .ok (some checkpoint)) (hparent : checkpoint.firstParent = some parent)
      (rest : Course a limit left (earlier ++ [next]) parent older ending log) :
      Course a limit (left + 1) earlier next (checkpoint :: older) ending log

theorem exists_course (a : Answers) (limit left : Nat) (earlier : List String) (next : String) :
    ∃ checkpoints ending log, Course a limit left earlier next checkpoints ending log := by
  induction left generalizing earlier next with
  | zero =>
      by_cases named : next = ""
      · exact named ▸ ⟨_, _, _, .unnamed 0 earlier⟩
      · exact ⟨_, _, _, .deep earlier named⟩
  | succ left ih =>
      by_cases named : next = ""
      · exact named ▸ ⟨_, _, _, .unnamed (left + 1) earlier⟩
      by_cases hmem : next ∈ earlier
      · exact ⟨_, _, _, .cycle left named hmem⟩
      cases h : a earlier next with
      | error error => exact ⟨_, _, _, .failed left named hmem h⟩
      | ok found =>
          cases found with
          | none => exact ⟨_, _, _, .gone left named hmem h⟩
          | some checkpoint =>
              cases hparent : checkpoint.firstParent with
              | none => exact ⟨_, _, _, .root left named hmem h hparent⟩
              | some parent =>
                  obtain ⟨older, ending, log, rest⟩ := ih (earlier ++ [next]) parent
                  exact ⟨_, _, _, .parent named hmem h hparent rest⟩

/-- A walk takes its course: the hashes that it has seen are those in the log. -/
theorem Course.run_eq {left : Nat} {next : String} {log : List String}
    (course : Course a limit left earlier next checkpoints ending log) :
    (History.walkFrom a.source limit left earlier.reverse next).run earlier =
      ((checkpoints, ending), log) := by
  induction course with
  | unnamed => rw [History.walkFrom_unnamed]; rfl
  | deep _ named => rw [History.walkFrom_deep named]; rfl
  | cycle _ named h => rw [History.walkFrom_cycle named (List.mem_reverse.2 h)]; rfl
  | gone _ named new h =>
      rw [History.walkFrom_fetch named (by rwa [List.mem_reverse]), StateT.run_bind, run_source,
        pure_bind, h]
      rfl
  | failed _ named new h =>
      rw [History.walkFrom_fetch named (by rwa [List.mem_reverse]), StateT.run_bind, run_source,
        pure_bind, h]
      rfl
  | root _ named new h orphan =>
      rw [History.walkFrom_fetch named (by rwa [List.mem_reverse]), StateT.run_bind, run_source,
        pure_bind, h]
      simp only [orphan]
      rfl
  | @parent left earlier log next parent checkpoint older ending named new h hparent _ ih =>
      -- The hash that is seen first is the one that was asked for last.
      rw [List.reverse_append, List.reverse_singleton, List.singleton_append] at ih
      rw [History.walkFrom_fetch named (by rwa [List.mem_reverse]), StateT.run_bind, run_source,
        pure_bind, h]
      simp only [hparent]
      change (History.walkFrom a.source limit left (next :: earlier.reverse) parent >>= fun found =>
        pure (checkpoint :: found.1, found.2)).run (earlier ++ [next]) = _
      rw [StateT.run_bind, ih]
      rfl

/-- The rest of a walk in terms of the hashes that it walks over. -/
def Onward (a : Answers) (limit : Nat) (earlier : List String) (next : Option String)
    (checkpoints : List Checkpoint) (ending : Ending) (log : List String) : Prop :=
  ∃ hashes last asked, Trail a earlier next hashes checkpoints last ∧
    Stops a limit (earlier ++ hashes) last ending asked ∧ log = earlier ++ hashes ++ asked ∧
    (earlier ++ hashes).length ≤ limit ∧ "" ∉ earlier ++ hashes ∧ (earlier ++ hashes).Nodup

section

variable {log : List String}

theorem Onward.stay (stops : Stops a limit earlier next ending asked) (hlog : log = earlier ++ asked)
    (bounded : earlier.length ≤ limit) (named : "" ∉ earlier) (distinct : earlier.Nodup) :
    Onward a limit earlier next [] ending log := by
  refine ⟨[], next, asked, .stop earlier next, ?_, ?_, ?_⟩ <;> rw [List.append_nil]
  · exact stops
  · exact hlog
  · exact ⟨bounded, named, distinct⟩

theorem Onward.step {next : String} {checkpoint : Checkpoint}
    (answer : a earlier next = .ok (some checkpoint))
    (rest : Onward a limit (earlier ++ [next]) checkpoint.firstParent checkpoints ending log) :
    Onward a limit earlier (some next) (checkpoint :: checkpoints) ending log := by
  obtain ⟨hashes, last, asked, htrail, hrest⟩ := rest
  rw [List.append_assoc, List.singleton_append] at hrest
  exact ⟨next :: hashes, last, asked, .step answer htrail, hrest⟩

/-- All hashes in the log were walked over, and the checkpoints left are those that make up the limit. -/
theorem Course.onward {left : Nat} {next : String}
    (course : Course a limit left earlier next checkpoints ending log)
    (room : earlier.length + left = limit) (named : "" ∉ earlier) (distinct : earlier.Nodup) :
    Onward a limit earlier (some next) checkpoints ending log := by
  have hadded {earlier : List String} {next : String} (distinct : earlier.Nodup)
      (new : next ∉ earlier) : (earlier ++ [next]).Nodup :=
    List.concat_eq_append ▸ distinct.concat new
  have hlength (earlier : List String) (next : String) :
      (earlier ++ [next]).length = earlier.length + 1 := by
    rw [List.length_append, List.length_singleton]
  induction course with
  | unnamed => exact .stay .unnamed (List.append_nil _).symm (by omega) named distinct
  | deep _ hnext => exact .stay (.deep hnext room) (List.append_nil _).symm (by omega) named distinct
  | cycle _ hnext hmem =>
      exact .stay (.cycle hnext (by omega) hmem) (List.append_nil _).symm (by omega) named distinct
  | gone _ hnext new h => exact .stay (.gone hnext (by omega) new h) rfl (by omega) named distinct
  | failed _ hnext new h => exact .stay (.failed hnext (by omega) new h) rfl (by omega) named distinct
  | @root earlier next _ _ hnext new h orphan =>
      have bounded : (earlier ++ [next]).length ≤ limit := by rw [hlength]; omega
      have named' : "" ∉ earlier ++ [next] := by simp [named, Ne.symm hnext]
      refine .step h (.stay ?_ (List.append_nil _).symm bounded named' (hadded distinct new))
      exact orphan ▸ .root
  | @parent left earlier _ next _ _ _ _ hnext new h hparent _ ih =>
      have room' : (earlier ++ [next]).length + left = limit := by rw [hlength]; omega
      have named' : "" ∉ earlier ++ [next] := by simp [named, Ne.symm hnext]
      exact .step h (hparent ▸ ih room' named' (hadded distinct new))

/-- Parents other than the first are not even looked at. -/
theorem Course.firstOnly {left : Nat} {next : String}
    (course : Course a limit left earlier next checkpoints ending log) :
    Course a.firstOnly limit left earlier next (checkpoints.map Checkpoint.firstOnly) ending log := by
  have hanswer {earlier : List String} {next : String} {checkpoint : Checkpoint}
      (h : a earlier next = .ok (some checkpoint)) :
      a.firstOnly earlier next = .ok (some checkpoint.firstOnly) := by rw [Answers.firstOnly, h]; rfl
  induction course with
  | unnamed left earlier => exact .unnamed left earlier
  | deep earlier named => exact .deep earlier named
  | cycle left named h => exact .cycle left named h
  | gone left named new h => exact .gone left named new (by rw [Answers.firstOnly, h]; rfl)
  | failed left named new h => exact .failed left named new (by rw [Answers.firstOnly, h]; rfl)
  | root left named new h orphan =>
      exact .root left named new (hanswer h) ((Checkpoint.firstParent_firstOnly _).trans orphan)
  | parent named new h hparent _ ih =>
      exact .parent named new (hanswer h) ((Checkpoint.firstParent_firstOnly _).trans hparent) ih

end

theorem walk_eq (a : Answers) (maxDepth : Nat) (start : String) :
    a.walk maxDepth start =
      let found := (History.walkFrom a.source (max 1 maxDepth) (max 1 maxDepth) [] start).run []
      (⟨start, found.1.1, found.1.2⟩, found.2) := rfl

theorem Course.walk_eq {maxDepth : Nat} {start : String} {log : List String}
    (course : Course a (max 1 maxDepth) (max 1 maxDepth) [] start checkpoints ending log) :
    a.walk maxDepth start = (⟨start, checkpoints, ending⟩, log) := by
  have hrun := course.run_eq
  rw [List.reverse_nil] at hrun
  rw [Answers.walk_eq, hrun]

/-- A walk as a whole takes a course from its start. -/
theorem exists_walk_course (a : Answers) (maxDepth : Nat) (start : String) :
    ∃ checkpoints ending log, Course a (max 1 maxDepth) (max 1 maxDepth) [] start checkpoints ending log ∧
      a.walk maxDepth start = (⟨start, checkpoints, ending⟩, log) := by
  obtain ⟨checkpoints, ending, log, course⟩ := a.exists_course (max 1 maxDepth) (max 1 maxDepth) [] start
  exact ⟨checkpoints, ending, log, course, course.walk_eq⟩

theorem account (a : Answers) (maxDepth : Nat) (start : String) :
    ∃ hashes, Account a (max 1 maxDepth) start hashes (a.walk maxDepth start).1
      (a.walk maxDepth start).2 := by
  obtain ⟨checkpoints, ending, log, course, hwalk⟩ := a.exists_walk_course maxDepth start
  obtain ⟨hashes, last, asked, htrail, hstops, hlog, hbounded, hnamed, hdistinct⟩ :=
    course.onward (Nat.zero_add _) List.not_mem_nil .nil
  rw [List.nil_append] at hstops hlog hbounded hnamed hdistinct
  rw [hwalk]
  refine ⟨hashes, rfl, ⟨last, asked, htrail, hstops, hlog⟩, htrail.length_eq, hbounded, hnamed,
    hdistinct, ?_⟩
  exact hlog ▸ hstops.nodup hdistinct

theorem walk_firstOnly (a : Answers) (maxDepth : Nat) (start : String) :
    a.firstOnly.walk maxDepth start =
      ((a.walk maxDepth start).1.firstOnly, (a.walk maxDepth start).2) := by
  obtain ⟨checkpoints, ending, log, course, hwalk⟩ := a.exists_walk_course maxDepth start
  rw [hwalk, course.firstOnly.walk_eq]
  rfl

end Answers

end Lineage
