import Mathlib
import Lineage.Proofs.History.Depth

/-! Walks from the middle of a history, asked of a source that does not change. The second walk has not
seen what lies before its start. That matters in one case only: a loop that closes there. Main
statement: but for this case the rest of the history is walked again, to the same end; and in this case
no walk gets out of the loop. -/

namespace Lineage

/-- The same end under another bound. -/
def Ending.within (limit : Nat) : Ending → Ending
  | .depthLimit _ => .depthLimit limit
  | ending => ending

namespace Answers

variable {source : String → Except RequestError (Option Checkpoint)} {limit left : Nat}
variable {seen earlier dropped hashes log : List String} {start last : Option String} {next : String}
variable {checkpoints : List Checkpoint} {checkpoint : Checkpoint} {ending : Ending}

/-- A checkpoint carries the hash that it was asked for by. -/
def Attaches (source : String → Except RequestError (Option Checkpoint)) : Prop :=
  ∀ hash checkpoint, source hash = .ok (some checkpoint) → checkpoint.hash = hash

/-- From each of the hashes a first parent leads to another one of them. -/
def Endless (source : String → Except RequestError (Option Checkpoint)) (hashes : List String) : Prop :=
  ∀ hash ∈ hashes, ∃ checkpoint parent, source hash = .ok (some checkpoint) ∧
    checkpoint.firstParent = some parent ∧ parent ∈ hashes

section

variable (attaches : Attaches source)

include attaches

theorem Trail.hashes_eq (trail : Trail (steady source) earlier start hashes checkpoints last) :
    hashes = checkpoints.map Checkpoint.hash := by
  induction trail with
  | stop => rfl
  | step answer _ ih => rw [List.map_cons, attaches _ _ answer, ih]

/-- The course from a checkpoint on. -/
theorem Course.drop {i : Nat}
    (course : Course (steady source) limit left earlier next checkpoints ending log)
    (h : checkpoints[i]? = some checkpoint) :
    Course (steady source) limit (left - i) (earlier ++ (checkpoints.take i).map Checkpoint.hash)
      checkpoint.hash (checkpoints.drop i) ending log := by
  induction i generalizing left earlier next checkpoints with
  | zero =>
      rw [List.take_zero, List.map_nil, List.append_nil, List.drop_zero, Nat.sub_zero]
      cases course with
      | root left named new answer orphan =>
          obtain rfl := Option.some.inj h
          rw [attaches _ _ answer]
          exact .root left named new answer orphan
      | parent named new answer hparent rest =>
          obtain rfl := Option.some.inj h
          rw [attaches _ _ answer]
          exact .parent named new answer hparent rest
      | _ => cases h
  | succ i ih =>
      cases course with
      | @parent left _ _ _ _ first _ _ named new answer hparent rest =>
          have hrest := ih rest h
          rw [List.append_assoc, List.singleton_append] at hrest
          rw [List.take_succ_cons, List.map_cons, attaches _ _ answer, List.drop_succ_cons,
            Nat.add_sub_add_right]
          exact hrest
      | _ => cases h

end

/-- A course that has seen less is the same, unless it ended where it came to what is dropped. -/
theorem Course.forget (course : Course (steady source) limit left seen next checkpoints ending log)
    (hseen : seen = dropped ++ earlier) (apart : ∀ hash ∈ dropped, ending ≠ .cycle hash) (other : Nat) :
    ∃ log', Course (steady source) other left earlier next checkpoints (ending.within other) log' := by
  have hnew {next : String} {seen earlier : List String} (hseen : seen = dropped ++ earlier)
      (new : next ∉ seen) : next ∉ earlier :=
    fun hmem => new (hseen ▸ List.mem_append_right _ hmem)
  induction course generalizing earlier with
  | unnamed left => exact ⟨_, .unnamed left earlier⟩
  | deep _ named => exact ⟨_, .deep earlier named⟩
  | cycle left named h =>
      refine ⟨_, .cycle left named ((List.mem_append.1 (hseen ▸ h)).resolve_left fun hmem => ?_)⟩
      exact apart _ hmem rfl
  | gone left named new h => exact ⟨_, .gone left named (hnew hseen new) h⟩
  | failed left named new h => exact ⟨_, .failed left named (hnew hseen new) h⟩
  | root left named new h orphan => exact ⟨_, .root left named (hnew hseen new) h orphan⟩
  | @parent _ seen _ next _ _ _ _ named new h hparent _ ih =>
      have hseen' : seen ++ [next] = dropped ++ (earlier ++ [next]) := by rw [hseen, List.append_assoc]
      obtain ⟨log', rest⟩ := ih hseen' apart
      exact ⟨log', .parent named (hnew hseen new) h hparent rest⟩

theorem Trail.start_eq (trail : Trail (steady source) earlier start hashes checkpoints last) :
    start = last ∨ ∃ hash ∈ hashes, start = some hash := by
  cases trail with
  | stop => exact .inl rfl
  | step => exact .inr ⟨_, List.mem_cons_self, rfl⟩

/-- A trail that comes back to itself is a loop with a way into it. -/
theorem Trail.endless (trail : Trail (steady source) earlier start hashes checkpoints (some next))
    {all : List String} (sub : hashes ⊆ all) (mem : next ∈ all) (hash : String) (h : hash ∈ hashes) :
    ∃ checkpoint parent, source hash = .ok (some checkpoint) ∧ checkpoint.firstParent = some parent ∧
      parent ∈ all := by
  induction hashes generalizing earlier start checkpoints with
  | nil => cases h
  | cons first hashes ih =>
      obtain ⟨hfirst, hsub⟩ := List.cons_subset.1 sub
      cases trail with
      | @step _ _ _ _ checkpoint _ answer rest =>
          rcases List.mem_cons.1 h with rfl | h
          · rcases rest.start_eq with hlast | ⟨parent, hparent, hnext⟩
            · exact ⟨checkpoint, next, answer, hlast, mem⟩
            · exact ⟨checkpoint, parent, answer, hnext, hsub hparent⟩
          · exact ih rest hsub h

/-- Nobody gets out of a loop. -/
theorem Course.ne_root (course : Course (steady source) limit left earlier next checkpoints ending log)
    (endless : Endless source hashes) (mem : next ∈ hashes) : ending ≠ .root := by
  induction course with
  | @root _ next found _ _ _ answer orphan =>
      obtain ⟨checkpoint, parent, hsource, hparent, -⟩ := endless next mem
      obtain rfl : found = checkpoint := Option.some.inj (Except.ok.inj (answer.symm.trans hsource))
      exact nomatch orphan.symm.trans hparent
  | @parent _ _ _ next onward found _ _ _ _ answer honward _ ih =>
      obtain ⟨checkpoint, parent, hsource, hparent, hmem⟩ := endless next mem
      obtain rfl : found = checkpoint := Option.some.inj (Except.ok.inj (answer.symm.trans hsource))
      obtain rfl : onward = parent := Option.some.inj (honward.symm.trans hparent)
      exact ih hmem
  | _ => exact nofun

theorem walk_ne_root (endless : Endless source hashes) (mem : next ∈ hashes) (bound : Nat) :
    ((steady source).walk bound next).1.ending ≠ .root := by
  obtain ⟨checkpoints, ending, log, course, hwalk⟩ := (steady source).exists_walk_course bound next
  rw [hwalk]
  exact course.ne_root endless mem

/-- All the hashes of a walk that ended in a loop. -/
theorem endless_of_cycle (attaches : Attaches source) {depth : Nat} {start hash : String}
    (h : ((steady source).walk depth start).1.ending = .cycle hash) :
    Endless source (((steady source).walk depth start).1.checkpoints.map Checkpoint.hash) := by
  obtain ⟨hashes, account⟩ := (steady source).account depth start
  obtain ⟨last, asked, trail, stops, -⟩ := account.told
  rw [h] at stops
  rw [← trail.hashes_eq attaches]
  cases stops with
  | cycle _ _ mem => exact trail.endless (List.Subset.refl _) mem

/-- From every checkpoint of a history on. -/
theorem walk_from_middle (attaches : Attaches source) (start : String) {depth : Nat} (pos : 1 ≤ depth)
    {i : Nat} (h : ((steady source).walk depth start).1.checkpoints[i]? = some checkpoint) :
    let whole := ((steady source).walk depth start).1
    let dropped := (whole.checkpoints.take i).map Checkpoint.hash
    ((∀ hash ∈ dropped, whole.ending ≠ .cycle hash) →
      ((steady source).walk (depth - i) checkpoint.hash).1 =
        ⟨checkpoint.hash, whole.checkpoints.drop i, whole.ending.within (depth - i)⟩) ∧
    ((∃ hash ∈ dropped, whole.ending = .cycle hash) →
      ∀ bound, ((steady source).walk bound checkpoint.hash).1.ending ≠ .root) := by
  intro whole dropped
  constructor
  · intro apart
    obtain ⟨checkpoints, ending, log, course, hwalk⟩ := (steady source).exists_walk_course depth start
    have hwhole : whole = ⟨start, checkpoints, ending⟩ := congrArg Prod.fst hwalk
    have hcheckpoint : checkpoints[i]? = some checkpoint := by
      change whole.checkpoints[i]? = _ at h
      rwa [hwhole] at h
    rw [max_eq_right pos] at course
    have room : 1 ≤ depth - i := by
      have hlength := course.length_le
      obtain ⟨hi, -⟩ := List.getElem?_eq_some_iff.1 hcheckpoint
      omega
    simp only [dropped, hwhole] at apart
    obtain ⟨log', rest⟩ :=
      (course.drop attaches hcheckpoint).forget (List.append_nil _).symm apart (depth - i)
    rw [← max_eq_right room] at rest
    rw [hwhole, rest.walk_eq, max_eq_right room]
  · rintro ⟨hash, -, hcycle⟩ bound
    have mem : checkpoint ∈ whole.checkpoints := List.mem_of_getElem? h
    exact walk_ne_root (endless_of_cycle attaches hcycle) (List.mem_map_of_mem mem) bound

theorem attaches_loopSource : Attaches loopSource := by
  intro hash checkpoint h
  unfold loopSource at h
  split_ifs at h with ha hb hc
  · exact ha ▸ Option.some.inj (Except.ok.inj h) ▸ rfl
  · exact hb ▸ Option.some.inj (Except.ok.inj h) ▸ rfl
  · exact hc ▸ Option.some.inj (Except.ok.inj h) ▸ rfl
  · cases h

/-- Once around from where the loop begins, and for ever from the checkpoint after that. -/
theorem walk_from_middle_of_loop :
    Attaches loopSource ∧ 1 ≤ 9 ∧ (loop.walk 9 "a").1.checkpoints[1]? = some (.childOf "b" "c") ∧
      (loop.walk 9 "a").1.checkpoints[2]? = some (.childOf "c" "b") ∧
      (loop.walk 8 "b").1 = ⟨"b", [.childOf "b" "c", .childOf "c" "b"], .cycle "b"⟩ ∧
      ∀ bound, (loop.walk bound "c").1.ending ≠ .root := by
  have first : (loop.walk 9 "a").1.checkpoints[1]? = some (.childOf "b" "c") := by rfl
  have second : (loop.walk 9 "a").1.checkpoints[2]? = some (.childOf "c" "b") := by rfl
  have apart : ∀ hash ∈ ["a"], (loop.walk 9 "a").1.ending ≠ .cycle hash := by decide
  have closes : ∃ hash ∈ ["a", "b"], (loop.walk 9 "a").1.ending = .cycle hash :=
    ⟨"b", by decide, by rfl⟩
  exact ⟨attaches_loopSource, by decide, first, second,
    (walk_from_middle attaches_loopSource "a" (by decide) first).1 apart,
    (walk_from_middle attaches_loopSource "a" (by decide) second).2 closes⟩

end Answers

end Lineage
