import Mathlib
import Lineage.History.Record
import Lineage.Proofs.Checkpoint.Reading
import Lineage.Proofs.Command.Logging
import Lineage.Proofs.Json.Printed

/-! Histories got back from JSON. What is written of a history is looked up by the names of its members,
and what belongs to its end depends on the reason that is given. Main statement: a history that is printed
as JSON is one written document, from which it is read back as it was; so no two histories are printed
alike. -/

namespace Lineage

open Json (Document valueOf? mapM_eq_some_iff)

namespace Dict

variable {β : Type} {key : String} {value : β} {l : List (String × β)}

/-- A key that comes after all others goes last. -/
theorem insertEntry_of_lt (h : ∀ entry ∈ l, entry.1 < key) :
    insertEntry key value l = l ++ [(key, value)] := by
  induction l with
  | nil => rfl
  | cons first l ih =>
      obtain ⟨hfirst, hrest⟩ := List.forall_mem_cons.1 h
      have hne : key ≠ first.1 := by
        rintro rfl
        exact String.lt_irrefl _ hfirst
      rw [insertEntry, if_neg (String.lt_asymm hfirst), if_neg hne, ih hrest, List.cons_append]

theorem ofList_concat (l : List (String × β)) (entry : String × β) :
    ofList (l ++ [entry]) = (ofList l).insert entry.1 entry.2 := by
  rw [ofList, List.foldl_append]
  rfl

theorem toList_ofList (sorted : l.Pairwise fun a b => a.1 < b.1) : (ofList l).toList = l := by
  induction l using List.reverseRecOn with
  | nil => rfl
  | append_singleton l entry ih =>
      obtain ⟨hl, -, hlast⟩ := List.pairwise_append.1 sorted
      rw [ofList_concat, toList_insert, ih hl]
      exact insertEntry_of_lt fun e he => hlast e he entry (List.mem_singleton.2 rfl)

theorem ofList_toList (d : Dict β) : ofList d.toList = d :=
  ext_entries (toList_ofList d.sorted)

end Dict

namespace Json

/-- The value of a whole literal without sign. -/
def Numeral.natural? (n : Numeral) : Option Nat :=
  if n.isWhole && !n.negative then some (ofDigits n.whole) else none

theorem Numeral.natural?_ofInt (n : Nat) : (ofInt n).natural? = some n :=
  congrArg some (ofDigits_toDigits n)

namespace Document

def natural? : Document → Option Nat
  | .number n => n.natural?
  | _ => none

def items? : Document → Option (List Document)
  | .array items => some items
  | _ => none

/-- What is read of the one member of the name. -/
def read? {α : Type} (name : String) (read : Document → Option α) : Document → Option α
  | .object members => (valueOf? members name).join.bind read
  | _ => none

end Document

theorem itemDocuments?_map {α : Type} {write : α → Json} {document : α → Document}
    (h : ∀ x, (write x).document? = some (document x)) (l : List α) :
    itemDocuments? (l.map write) = some (l.map document) := by
  induction l with
  | nil => rfl
  | cons x l ih => rw [List.map_cons, itemDocuments?, h, Option.bind_some, ih]; rfl

theorem memberDocuments?_texts (l : List (String × String)) :
    memberDocuments? (l.map fun entry => (entry.1, .text entry.2)) =
      some (l.map fun entry => (some entry.1, .text (some entry.2))) := by
  induction l with
  | nil => rfl
  | cons entry l ih =>
      rw [List.map_cons, memberDocuments?, document?, Option.bind_some, ih]
      rfl

end Json

/-! The tree that is written of each part, and how the part is read from it. -/

namespace Checkpoint

def document (c : Checkpoint) : Document :=
  .object
    [(some "hash", .text (some c.hash)),
      (some "parentHashes", .array (c.parentHashes.map fun hash => .text (some hash))),
      (some "affixHash", .text (some c.affixHash)), (some "commandDesc", .text (some c.commandDesc)),
      (some "summary", .text (some c.summary)),
      (some "fields",
        .object (c.fields.toList.map fun entry => (some entry.1, .text (some entry.2))))]

/-- With its hash, which servers do not send. -/
def ofRecord? (d : Document) : Option Checkpoint := do
  let hash ← d.read? "hash" Document.text?
  let parentHashes ← d.read? "parentHashes" Document.texts?
  let affixHash ← d.read? "affixHash" Document.text?
  let commandDesc ← d.read? "commandDesc" Document.text?
  let summary ← d.read? "summary" Document.text?
  let fields ← d.read? "fields" readFields?
  some { hash, parentHashes, affixHash, commandDesc, summary, fields }

theorem document?_toJson (c : Checkpoint) : c.toJson.document? = some c.document := by
  have hparents : (Json.texts c.parentHashes).document? =
      some (.array (c.parentHashes.map fun hash => .text (some hash))) := by
    rw [Json.texts, Json.document?, Json.itemDocuments?_map fun _ => rfl]
    rfl
  have hfields : (Json.ofDict c.fields).document? =
      some (.object (c.fields.toList.map fun entry => (some entry.1, .text (some entry.2)))) := by
    rw [Json.ofDict, Json.document?, Json.memberDocuments?_texts]
    rfl
  simp only [toJson, document, Json.document?, Json.memberDocuments?, hparents, hfields, Option.bind_some,
    Option.map_some]

theorem ofRecord?_document (c : Checkpoint) : ofRecord? c.document = some c := by
  have hparents : c.document.read? "parentHashes" Document.texts? = some c.parentHashes :=
    Document.texts?_eq_some.2 rfl
  have hfields : c.document.read? "fields" readFields? = some c.fields :=
    readFields?_eq_some.2 ⟨c.fields.toList, rfl, (Dict.ofList_toList c.fields).symm⟩
  rw [ofRecord?, hparents, hfields]
  rfl

end Checkpoint

namespace Ending

def document : Ending → Document
  | .root => .object [(some "reason", .text (some "root"))]
  | .missing hash =>
    .object [(some "reason", .text (some "missing")), (some "hash", .text (some hash))]
  | .fetchFailed hash error =>
    .object
      [(some "reason", .text (some "fetchFailed")), (some "hash", .text (some hash)),
        (some "error", .text (some error))]
  | .cycle hash =>
    .object [(some "reason", .text (some "cycle")), (some "hash", .text (some hash))]
  | .depthLimit limit =>
    .object [(some "reason", .text (some "depthLimit")), (some "limit", .number (.ofInt limit))]

/-- The reason says what else there is. -/
def ofRecord? (d : Document) : Option Ending := do
  match ← d.read? "reason" Document.text? with
  | "root" => some .root
  | "missing" => (d.read? "hash" Document.text?).map .missing
  | "fetchFailed" =>
    let hash ← d.read? "hash" Document.text?
    (d.read? "error" Document.text?).map (.fetchFailed hash)
  | "cycle" => (d.read? "hash" Document.text?).map .cycle
  | "depthLimit" => (d.read? "limit" Document.natural?).map .depthLimit
  | _ => none

theorem document?_toJson (e : Ending) : e.toJson.document? = some e.document := by
  cases e <;> rfl

theorem ofRecord?_document (e : Ending) : ofRecord? e.document = some e := by
  cases e with
  | depthLimit limit =>
      have hlimit : (Ending.depthLimit limit).document.read? "limit" Document.natural? = some limit :=
        Json.Numeral.natural?_ofInt limit
      exact congrArg (Option.map Ending.depthLimit) hlimit
  | _ => rfl

end Ending

namespace History

def document (h : History) : Document :=
  .object
    [(some "start", .text (some h.start)),
      (some "checkpoints", .array (h.checkpoints.map Checkpoint.document)),
      (some "end", h.ending.document)]

def ofRecord? (d : Document) : Option History := do
  let start ← d.read? "start" Document.text?
  let items ← d.read? "checkpoints" Document.items?
  let checkpoints ← items.mapM Checkpoint.ofRecord?
  let ending ← d.read? "end" Ending.ofRecord?
  some { start, checkpoints, ending }

theorem document?_toJson (h : History) : h.toJson.document? = some h.document := by
  have hcheckpoints := Json.itemDocuments?_map Checkpoint.document?_toJson h.checkpoints
  simp only [toJson, document, Json.document?, Json.memberDocuments?, hcheckpoints,
    h.ending.document?_toJson, Option.bind_some, Option.map_some]

theorem ofRecord?_document (h : History) : ofRecord? h.document = some h := by
  have hstart : h.document.read? "start" Document.text? = some h.start := rfl
  have hcheckpoints : h.document.read? "checkpoints" Document.items? =
      some (h.checkpoints.map Checkpoint.document) := rfl
  have hread : Checkpoint.ofRecord? ∘ Checkpoint.document = fun c => pure (id c) :=
    funext Checkpoint.ofRecord?_document
  have hitems : (h.checkpoints.map Checkpoint.document).mapM Checkpoint.ofRecord? =
      pure h.checkpoints := by
    rw [List.mapM_map, hread, List.mapM_pure, List.map_id]
  have hending : h.document.read? "end" Ending.ofRecord? = some h.ending :=
    h.ending.ofRecord?_document
  simp only [ofRecord?, hstart, hcheckpoints, hitems, hending, Option.bind_eq_bind, Option.bind_some,
    Option.pure_def]

end History

namespace Command

/-- What is printed of a history as JSON. -/
def jsonReport (h : History) : Report :=
  .printed [h.toJson.pretty]

theorem writtenAs_jsonReport (h : History) : h.document.WrittenAs (jsonReport h).output := by
  have hline : ∀ c ∈ "\n".toList, c ∈ Json.Token.whiteSpace :=
    List.forall_mem_singleton.2 (Json.Token.mem_whiteSpace.2 (.inr (.inr (.inl rfl))))
  have houtput : (jsonReport h).output = h.toJson.pretty ++ "\n" := by
    simp [jsonReport, Report.output, Report.printed, String.join]
  rw [houtput]
  exact Json.writtenAs_pretty h.document?_toJson hline

/-- What was printed is one written document, from which the history is read back. -/
structure IsJsonOf (h : History) (report : Report) : Prop where
  succeeded : report.failure = none
  printed : ∃ d : Document, d.WrittenAs report.output ∧ Document.parse? report.output = some d ∧
    History.ofRecord? d = some h

theorem parse?_jsonReport (h : History) :
    Document.parse? (jsonReport h).output = some h.document :=
  Document.parse?_of_writtenAs (writtenAs_jsonReport h)

theorem isJsonOf_jsonReport (h : History) : IsJsonOf h (jsonReport h) where
  succeeded := rfl
  printed := ⟨h.document, writtenAs_jsonReport h, parse?_jsonReport h, h.ofRecord?_document⟩

end Command

end Lineage
