import Mathlib
import Lineage.Proofs.Browser.Run
import Lineage.Proofs.Json.Record
import Lineage.Proofs.Transfer.Payload
import Lineage.Proofs.Transfer.Steady

/-! Checkpoints as members of an object. A checkpoint is read from the members of five names; one that
is null, or is not there, says nothing, and members of other names are passed over. Main statement:
objects that differ only in the order of their members, in unknown ones and in how nothing is said are
read as the same checkpoint, or are both refused. -/

namespace Lineage

open Json (Document valuesOf valueOf? mem_valuesOf length_valuesOf mapM_eq_some_iff)

namespace Checkpoint

/-- What a checkpoint is sent with. -/
inductive Member
  | parentHashes
  | affixHash
  | commandDesc
  | summary
  | fields
  deriving DecidableEq

namespace Member

def name : Member → String
  | .parentHashes => "parentHashes"
  | .affixHash => "affixHash"
  | .commandDesc => "commandDesc"
  | .summary => "summary"
  | .fields => "fields"

abbrev Value : Member → Type
  | .parentHashes => List String
  | .affixHash => String
  | .commandDesc => String
  | .summary => String
  | .fields => Dict String

def get (c : Checkpoint) : (m : Member) → m.Value
  | .parentHashes => c.parentHashes
  | .affixHash => c.affixHash
  | .commandDesc => c.commandDesc
  | .summary => c.summary
  | .fields => c.fields

def empty : (m : Member) → m.Value
  | .parentHashes => []
  | .affixHash => ""
  | .commandDesc => ""
  | .summary => ""
  | .fields => .empty

def read : (m : Member) → Document → Option m.Value
  | .parentHashes => Document.texts?
  | .affixHash => Document.text?
  | .commandDesc => Document.text?
  | .summary => Document.text?
  | .fields => readFields?

/-- The document that writes the empty value. -/
def blank : Member → Document
  | .parentHashes => .array []
  | .affixHash => .text (some "")
  | .commandDesc => .text (some "")
  | .summary => .text (some "")
  | .fields => .object []

/-- The document writes the value. Hashes stand in their order; of fields with one name the last one
counts. -/
def Writes : (m : Member) → Document → m.Value → Prop
  | .parentHashes, d, hashes => d = .array (hashes.map fun hash => .text (some hash))
  | .affixHash, d, text => d = .text (some text)
  | .commandDesc, d, text => d = .text (some text)
  | .summary, d, text => d = .text (some text)
  | .fields, d, dict => ∃ entries : List (String × String),
      d = .object (entries.map fun entry => (some entry.1, .text (some entry.2))) ∧
        dict = Dict.ofList entries

end Member

end Checkpoint

namespace Checkpoint

theorem readFields?_eq_some {d : Document} {dict : Dict String} :
    readFields? d = some dict ↔ Member.fields.Writes d dict := by
  have hentry (m : String × Document) (entry : String × String) :
      (m.2.text?.map fun s => (m.1, s)) = some entry ↔ m = (entry.1, .text (some entry.2)) := by
    simp only [Option.map_eq_some_iff, Document.text?_eq_some, Prod.ext_iff]
    constructor
    · rintro ⟨s, htext, hname, rfl⟩
      exact ⟨hname, htext⟩
    · rintro ⟨hname, htext⟩
      exact ⟨entry.2, htext, hname, rfl⟩
  rw [readFields?]
  constructor
  · intro h
    obtain ⟨members, hmembers, h⟩ := Option.bind_eq_some_iff.1 h
    obtain ⟨entries, hentries, h⟩ := Option.bind_eq_some_iff.1 h
    cases h
    refine ⟨entries, ?_, rfl⟩
    rw [Document.members?_eq_some.1 hmembers, (mapM_eq_some_iff hentry).1 hentries, List.map_map]
    rfl
  · rintro ⟨entries, rfl, rfl⟩
    let members : List (String × Document) := entries.map fun entry => (entry.1, .text (some entry.2))
    have hmembers : Document.members? (.object (entries.map fun entry =>
        (some entry.1, .text (some entry.2)))) = some members :=
      Document.members?_eq_some.2 (by rw [List.map_map]; rfl)
    rw [hmembers, Option.bind_eq_bind, Option.bind_some]
    change (members.mapM fun (m : String × Document) => m.2.text?.map fun s => (m.1, s)) >>= _ = _
    rw [(mapM_eq_some_iff hentry).2 rfl]
    rfl

namespace Member

section

variable (m : Member) {d : Document} {v : m.Value} {members others : List (Option String × Document)}

theorem read_eq_some : m.read d = some v ↔ m.Writes d v := by
  cases m with
  | parentHashes => exact Document.texts?_eq_some
  | fields => exact readFields?_eq_some
  | _ => exact Document.text?_eq_some

theorem writes_blank : m.Writes m.blank m.empty := by
  cases m with
  | fields => exact ⟨[], rfl, rfl⟩
  | _ => rfl

theorem blank_ne_null : m.blank ≠ .null := by
  cases m <;> nofun

theorem name_mem_memberNames : m.name ∈ memberNames := by
  cases m <;> decide

theorem name_injective : name.Injective := by
  intro m n h
  cases m <;> cases n <;> simp_all [name]

/-- What is read of the member. -/
def value? (members : List (Option String × Document)) : Option m.Value :=
  (valueOf? members m.name).bind (Document.orNull m.empty m.read)

/-- The member stands once at most. It writes the value, or says nothing. -/
structure Fits (members : List (Option String × Document)) (v : m.Value) : Prop where
  once : (members.map Prod.fst).count (some m.name) ≤ 1
  writes : ∀ d, (some m.name, d) ∈ members → d ≠ .null → m.Writes d v
  unsaid : (∀ d, (some m.name, d) ∈ members → d = .null) → v = m.empty

theorem orNull_of_ne (h : d ≠ .null) : Document.orNull m.empty m.read (some d) = m.read d := by
  cases d with
  | null => exact absurd rfl h
  | _ => rfl

theorem fits_iff : m.Fits members v ↔ (valuesOf m.name members).length ≤ 1 ∧
    (∀ d ∈ valuesOf m.name members, d ≠ .null → m.Writes d v) ∧
    ((∀ d ∈ valuesOf m.name members, d = .null) → v = m.empty) := by
  simp only [length_valuesOf, mem_valuesOf]
  exact ⟨fun h => ⟨h.once, h.writes, h.unsaid⟩, fun h => ⟨h.1, h.2.1, h.2.2⟩⟩

/-- A value is read exactly if the member fits it. -/
theorem value?_eq_some : m.value? members = some v ↔ m.Fits members v := by
  rw [fits_iff, value?, valueOf?]
  rcases valuesOf m.name members with _ | ⟨d, _ | ⟨e, ds⟩⟩
  · simp [Document.orNull, eq_comm]
  · by_cases hnull : d = .null
    · simp [hnull, Document.orNull, eq_comm]
    · simp [hnull, m.orNull_of_ne hnull, m.read_eq_some]
  · simp

end

end Member

section

variable {hash : String} {members others : List (Option String × Document)} {c : Checkpoint}

theorem ofDocument?_object (names : ∀ m ∈ members, m.1.isSome) :
    ofDocument? hash (.object members) =
      (Member.parentHashes.value? members).bind fun parents =>
      (Member.affixHash.value? members).bind fun affix =>
      (Member.commandDesc.value? members).bind fun desc =>
      (Member.summary.value? members).bind fun summary =>
      (Member.fields.value? members).bind fun fields =>
        some ⟨hash, parents, affix, desc, summary, fields⟩ := by
  have hnames : members.all (·.1.isSome) = true := List.all_eq_true.2 names
  rw [ofDocument?, Json.record?, if_pos hnames]
  change ((memberNames.mapM (valueOf? members)).bind _) = _
  simp only [memberNames, List.mapM_cons, List.mapM_nil, Member.value?, Member.name]
  -- a repeated member leaves nothing on either side, whichever of the others are read before it
  cases valueOf? members "parentHashes" with
  | none => rfl
  | some parents =>
  cases valueOf? members "affixHash" with
  | none => simp
  | some affix =>
  cases valueOf? members "commandDesc" with
  | none => simp
  | some desc =>
  cases valueOf? members "summary" with
  | none => simp
  | some summary =>
  cases valueOf? members "fields" with
  | none => simp
  | some fields => rfl

theorem ofDocument?_object_of_unnamed (h : ¬ ∀ m ∈ members, m.1.isSome) :
    ofDocument? hash (.object members) = none := by
  have hnames : ¬ members.all (·.1.isSome) = true := fun hall => h (List.all_eq_true.1 hall)
  rw [ofDocument?, Json.record?, if_neg hnames]
  rfl

/-- The checkpoint has the hash that it was asked for by, and all else from the members. -/
structure Carries (hash : String) (members : List (Option String × Document)) (c : Checkpoint) :
    Prop where
  names : ∀ m ∈ members, m.1.isSome
  hash_eq : c.hash = hash
  fits : ∀ m : Member, m.Fits members (m.get c)

theorem ofDocument?_object_eq_some : ofDocument? hash (.object members) = some c ↔
    Carries hash members c := by
  by_cases names : ∀ m ∈ members, m.1.isSome
  · rw [ofDocument?_object names]
    constructor
    · intro h
      obtain ⟨parents, hparents, h⟩ := Option.bind_eq_some_iff.1 h
      obtain ⟨affix, haffix, h⟩ := Option.bind_eq_some_iff.1 h
      obtain ⟨desc, hdesc, h⟩ := Option.bind_eq_some_iff.1 h
      obtain ⟨summary, hsummary, h⟩ := Option.bind_eq_some_iff.1 h
      obtain ⟨fields, hfields, h⟩ := Option.bind_eq_some_iff.1 h
      cases h
      refine ⟨names, rfl, fun m => m.value?_eq_some.1 ?_⟩
      cases m with
      | parentHashes => exact hparents
      | affixHash => exact haffix
      | commandDesc => exact hdesc
      | summary => exact hsummary
      | fields => exact hfields
    · rintro ⟨-, rfl, fits⟩
      have value (m : Member) : m.value? members = some (m.get c) := m.value?_eq_some.2 (fits m)
      rw [value .parentHashes, value .affixHash, value .commandDesc, value .summary, value .fields]
      rfl
  · rw [ofDocument?_object_of_unnamed names]
    exact ⟨nofun, fun h => absurd h.names names⟩

/-- Nothing else of the members is read than whether their names are texts and what is read of those
that are known. -/
theorem carries_congr (names : (∀ m ∈ members, m.1.isSome) ↔ ∀ m ∈ others, m.1.isSome)
    (values : ∀ m : Member, m.value? members = m.value? others) :
    Carries hash members c ↔ Carries hash others c := by
  have hfits (m : Member) : m.Fits members (m.get c) ↔ m.Fits others (m.get c) := by
    rw [← m.value?_eq_some, ← m.value?_eq_some, values]
  exact ⟨fun h => ⟨names.1 h.names, h.hash_eq, fun m => (hfits m).1 (h.fits m)⟩,
    fun h => ⟨names.2 h.names, h.hash_eq, fun m => (hfits m).2 (h.fits m)⟩⟩

end

/-- A change of an object's members that changes nothing of what they say. Null and the empty value say
as little as a member that is not there. The name of an unknown member is a text like any other name;
half a surrogate pair is not passed over but refused, as `Carries.names` has it. -/
inductive Edit : List (Option String × Document) → List (Option String × Document) → Prop
  | permute {members others : List (Option String × Document)} (h : members.Perm others) :
      Edit members others
  | unknown {name : String} (h : name ∉ memberNames) (d : Document)
      (members : List (Option String × Document)) : Edit members ((some name, d) :: members)
  | unsaid {m : Member} {d : Document} (h : d = .null ∨ d = m.blank)
      {members : List (Option String × Document)} (absent : some m.name ∉ members.map Prod.fst) :
      Edit members ((some m.name, d) :: members)

/-- Any number of changes, made or undone. -/
def Alike : List (Option String × Document) → List (Option String × Document) → Prop :=
  Relation.EqvGen Edit

section

variable {hash : String} {members others : List (Option String × Document)} {c : Checkpoint}

theorem Edit.names (h : Edit members others) :
    (∀ m ∈ members, m.1.isSome) ↔ ∀ m ∈ others, m.1.isSome := by
  cases h with
  | permute h => exact ⟨fun all m hm => all m (h.mem_iff.2 hm), fun all m hm => all m (h.mem_iff.1 hm)⟩
  | unknown => rw [List.forall_mem_cons]; exact (and_iff_right rfl).symm
  | unsaid => rw [List.forall_mem_cons]; exact (and_iff_right rfl).symm

theorem Member.value?_cons_of_ne (m : Member) {name : String} (h : name ≠ m.name) (d : Document) :
    m.value? ((some name, d) :: members) = m.value? members := by
  have hname : some name ≠ some m.name := fun hsame => h (Option.some.inj hsame)
  rw [value?, value?, valueOf?, valueOf?, Json.valuesOf_cons_of_ne hname]

theorem Member.value?_of_absent (m : Member) (absent : some m.name ∉ members.map Prod.fst) :
    m.value? members = some m.empty := by
  rw [value?, valueOf?, Json.valuesOf_eq_nil absent]
  rfl

theorem Member.value?_unsaid (m : Member) {d : Document} (h : d = .null ∨ d = m.blank)
    (absent : some m.name ∉ members.map Prod.fst) :
    m.value? ((some m.name, d) :: members) = some m.empty := by
  rw [value?, valueOf?, Json.valuesOf_cons_self, Json.valuesOf_eq_nil absent]
  rcases h with rfl | rfl
  · rfl
  · exact (m.orNull_of_ne m.blank_ne_null).trans (m.read_eq_some.2 m.writes_blank)

theorem Edit.value? (h : Edit members others) (m : Member) : m.value? members = m.value? others := by
  cases h with
  | permute h => rw [Member.value?, Member.value?, Json.valueOf?_perm h]
  | unknown h => rw [m.value?_cons_of_ne (ne_of_mem_of_not_mem m.name_mem_memberNames h).symm]
  | @unsaid n d h _ absent =>
      by_cases hm : n = m
      · subst hm
        rw [n.value?_unsaid h absent, n.value?_of_absent absent]
      · rw [m.value?_cons_of_ne fun hname => hm (Member.name_injective hname)]

/-- From alike objects the same checkpoint is read. -/
theorem Alike.carries_iff (h : Alike members others) :
    Carries hash members c ↔ Carries hash others c := by
  induction h with
  | rel _ _ edit => exact carries_congr edit.names edit.value?
  | refl _ => exact Iff.rfl
  | symm _ _ _ ih => exact ih.symm
  | trans _ _ _ _ _ first second => exact first.trans second

end

end Checkpoint

namespace Server

open Checkpoint (Alike Carries)

variable {url : Url} {body body₁ body₂ hash : String}
variable {members members₁ members₂ : List (Option String × Document)} {c : Checkpoint}

theorem readBody_of_carries (parsed : Document.parse? body = some (.object members))
    (carries : Carries hash members c) :
    Client.readBody url (Checkpoint.ofDocument? hash) body = .ok (some c) :=
  Client.readBody_of_some (Document.isAllBlank_of_parse? parsed) parsed
    (Checkpoint.ofDocument?_object_eq_some.2 carries)

theorem refused_of_not_carries (parsed : Document.parse? body = some (.object members))
    (h : ∀ c, ¬ Carries hash members c) :
    Refused url (Client.readBody url (Checkpoint.ofDocument? hash) body) := by
  refine Client.refused_readBody (Document.isAllBlank_of_parse? parsed) fun d hd => ?_
  obtain rfl := Option.some.inj (parsed.symm.trans hd)
  rw [Option.eq_none_iff_forall_ne_some]
  exact fun c hread => h c (Checkpoint.ofDocument?_object_eq_some.1 hread)

/-- Whatever is asked for, this is the answer. -/
def answering (body : String) : World :=
  Replies.world (fun _ => .answered ⟨200, none, .ok body.toUTF8.toList⟩) "first"

/-- Two parents, a member named like the hash, and an unknown one with half a surrogate pair inside. -/
def crowdedBody : String :=
  "\x7b\"hash\":\"b\",\"fields\":null,\"note\":[\x7b\"\":\"\\ud800\"\x7d],\"parentHashes\":[\"p\",\"q\"]\x7d"

/-- The same two parents. -/
def plainBody : String := "\x7b\"parentHashes\":[\"p\",\"q\"],\"summary\":\"\"\x7d"

end Server

end Lineage
