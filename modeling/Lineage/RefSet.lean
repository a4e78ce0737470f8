/-! Refs: names for checkpoints, kept in the order in which a server lists them. -/

namespace Lineage

structure Ref where
  name : String
  hash : String
  deriving DecidableEq, Repr

/-- No two refs of one set share a name. -/
structure RefSet where
  refs : List Ref
  distinct : (refs.map Ref.name).Nodup
  deriving DecidableEq, Repr

namespace RefSet

def empty : RefSet := ⟨[], .nil⟩

instance : Inhabited RefSet := ⟨empty⟩

/-- A name that is listed already keeps its place and takes the new hash; a new one goes last. -/
def insertRef (entry : Ref) : List Ref → List Ref
  | [] => [entry]
  | r :: rest => if r.name = entry.name then entry :: rest else r :: insertRef entry rest

theorem mem_names_insertRef {entry : Ref} {name : String} :
    ∀ {l : List Ref}, name ∈ (insertRef entry l).map Ref.name ↔
      name = entry.name ∨ name ∈ l.map Ref.name
  | [] => by simp [insertRef]
  | r :: rest => by
    unfold insertRef
    split
    · rename_i h
      simp [h]
    · simp only [List.map_cons, List.mem_cons, mem_names_insertRef]
      exact ⟨fun h => h.elim (.inr ∘ .inl) (·.elim .inl (.inr ∘ .inr)),
        fun h => h.elim (.inr ∘ .inl) (·.elim .inl (.inr ∘ .inr))⟩

theorem nodup_insertRef (entry : Ref) :
    ∀ {l : List Ref}, (l.map Ref.name).Nodup → ((insertRef entry l).map Ref.name).Nodup
  | [], _ => by simp [insertRef]
  | r :: rest, h => by
    have ⟨hr, hrest⟩ := List.nodup_cons.1 h
    unfold insertRef
    split
    · rename_i heq
      exact List.nodup_cons.2 ⟨heq ▸ hr, hrest⟩
    · rename_i hne
      refine List.nodup_cons.2 ⟨fun hm => ?_, nodup_insertRef entry hrest⟩
      rcases mem_names_insertRef.1 hm with h | h
      · exact hne h
      · exact hr h

def insert (s : RefSet) (entry : Ref) : RefSet :=
  ⟨insertRef entry s.refs, nodup_insertRef entry s.distinct⟩

def ofList (l : List Ref) : RefSet :=
  l.foldl insert empty

def toList (s : RefSet) : List Ref := s.refs

def size (s : RefSet) : Nat := s.refs.length

def isEmpty (s : RefSet) : Bool := s.refs.isEmpty

def get? (s : RefSet) (name : String) : Option Ref :=
  s.refs.find? (·.name == name)

/-- The ref taken when nobody picked one: the preferred one if it is listed, else the last. -/
def default? (s : RefSet) (preferred : Option String) : Option Ref :=
  (preferred.bind s.get?).or s.refs.getLast?

/-- A ref's name stands for its hash; any other text is taken for a hash itself. -/
def resolve (s : RefSet) (nameOrHash : String) : String :=
  match s.get? nameOrHash with
  | some r => r.hash
  | none => nameOrHash

/-- The first ref that points at the hash. -/
def nameOf? (s : RefSet) (hash : String) : Option String :=
  (s.refs.find? (·.hash == hash)).map Ref.name

@[simp] theorem toList_empty : empty.toList = [] := rfl

@[simp] theorem toList_insert (s : RefSet) (entry : Ref) :
    (s.insert entry).toList = insertRef entry s.toList := rfl

end RefSet

end Lineage
