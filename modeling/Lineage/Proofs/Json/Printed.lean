import Mathlib
import Lineage.Json.Printer
import Lineage.Proofs.Json.Numeral
import Lineage.Proofs.Json.Written

/-! Printed values are read back. The printer writes the tokens of the tree that a value stands for,
with white space between them. Main statement: a printed value is one written document, and the tree
that is read from it is the one that the value stands for. -/

namespace Lineage.Json

mutual

/-- The tree that a value without floats stands for. -/
def document? : Json → Option Document
  | .null => some .null
  | .bool b => some (.bool b)
  | .number (.integer n) => some (.number (.ofInt n))
  | .number (.float _) => none
  | .text s => some (.text (some s))
  | .array items => (itemDocuments? items).map .array
  | .object members => (memberDocuments? members).map .object

def itemDocuments? : List Json → Option (List Document)
  | [] => some []
  | v :: rest => (document? v).bind fun d => (itemDocuments? rest).map (d :: ·)

def memberDocuments? : List (String × Json) → Option (List (Option String × Document))
  | [] => some []
  | (name, v) :: rest =>
    (document? v).bind fun d => (memberDocuments? rest).map ((some name, d) :: ·)

end

theorem itemDocuments?_eq_some {v : Json} {items : List Json} {ds : List Document}
    (h : itemDocuments? (v :: items) = some ds) :
    ∃ d rest, v.document? = some d ∧ itemDocuments? items = some rest ∧ ds = d :: rest := by
  obtain ⟨d, hd, h⟩ := Option.bind_eq_some_iff.1 h
  obtain ⟨rest, hrest, rfl⟩ := Option.map_eq_some_iff.1 h
  exact ⟨d, rest, hd, hrest, rfl⟩

theorem memberDocuments?_eq_some {name : String} {v : Json} {members : List (String × Json)}
    {ds : List (Option String × Document)} (h : memberDocuments? ((name, v) :: members) = some ds) :
    ∃ d rest, v.document? = some d ∧ memberDocuments? members = some rest ∧
      ds = (some name, d) :: rest := by
  obtain ⟨d, hd, h⟩ := Option.bind_eq_some_iff.1 h
  obtain ⟨rest, hrest, rfl⟩ := Option.map_eq_some_iff.1 h
  exact ⟨d, rest, hd, hrest, rfl⟩

/-! How the printer goes on after an opening bracket and after a comma. -/

theorem prettyChars_array (level : Nat) (v : Json) (items : List Json) :
    prettyChars level (.array (v :: items)) =
      '[' :: (prettyItems (level + 1) (v :: items) ++ (lineBreak level ++ [']'])) :=
  List.append_assoc _ _ _

theorem prettyChars_object (level : Nat) (m : String × Json) (members : List (String × Json)) :
    prettyChars level (.object (m :: members)) =
      '\x7b' :: (prettyMembers (level + 1) (m :: members) ++ (lineBreak level ++ ['\x7d'])) :=
  List.append_assoc _ _ _

theorem prettyItems_cons_cons (level : Nat) (v w : Json) (items : List Json) :
    prettyItems level (v :: w :: items) =
      lineBreak level ++ (v.prettyChars level ++ ',' :: prettyItems level (w :: items)) :=
  List.append_assoc _ _ _

theorem prettyMembers_cons_cons (level : Nat) (name : String) (v : Json) (m : String × Json)
    (members : List (String × Json)) :
    prettyMembers level ((name, v) :: m :: members) =
      lineBreak level ++ (quoted name ++ ':' :: ' ' :: (v.prettyChars level ++
        ',' :: prettyMembers level (m :: members))) :=
  (List.append_assoc _ _ _).trans (List.append_assoc _ _ _)

open Token (Layout)

variable {more : List Token} {rest : List Char}

theorem layout_lineBreak (level : Nat) (h : Layout more rest) : Layout more (lineBreak level ++ rest) := by
  refine h.indent fun c hc => Token.mem_whiteSpace.2 ?_
  rcases List.mem_cons.1 hc with rfl | hspace
  · exact .inr (.inr (.inl rfl))
  · exact .inl (List.eq_of_mem_replicate hspace)

theorem layout_name (name : String) (h : Layout more rest) :
    Layout (.text (some name) :: .colon :: more) (quoted name ++ ':' :: ' ' :: rest) := by
  have hspace : Layout more ([' '] ++ rest) :=
    h.indent (List.forall_mem_singleton.2 (Token.mem_whiteSpace.2 (.inl rfl)))
  exact (hspace.first (.mark (t := .colon) rfl)).first (.text (textSpells_quoted name))

mutual

/-- Whatever is written behind the value. -/
theorem layout_prettyChars : (v : Json) → (level : Nat) → {d : Document} → v.document? = some d →
    {more : List Token} → {rest : List Char} → Layout more rest →
    Layout (d.tokens ++ more) (v.prettyChars level ++ rest)
  | .null, _, _, h, _, _, layout => by cases h; exact layout.first .null
  | .bool true, _, _, h, _, _, layout => by cases h; exact layout.first .true
  | .bool false, _, _, h, _, _, layout => by cases h; exact layout.first .false
  | .number (.integer n), _, _, h, _, _, layout => by
      cases h
      exact layout.first (.number (Numeral.spells_integer n))
  | .number (.float _), _, _, h, _, _, _ => by cases h
  | .text s, _, _, h, _, _, layout => by cases h; exact layout.first (.text (textSpells_quoted s))
  | .array [], _, _, h, _, _, layout => by
      cases h
      exact (layout.first (.mark (t := .endArray) rfl)).first (.mark (t := .beginArray) rfl)
  | .array (v :: items), level, _, h, _, _, layout => by
      obtain ⟨ds, hds, rfl⟩ := Option.map_eq_some_iff.1 h
      have hclose := layout_lineBreak level (layout.first (.mark (t := .endArray) rfl))
      have hitems := layout_prettyItems (v :: items) nofun (level + 1) hds hclose
      rw [prettyChars_array, List.cons_append, List.append_assoc, List.append_assoc, Document.tokens,
        List.append_assoc]
      exact hitems.first (.mark (t := .beginArray) rfl)
  | .object [], _, _, h, _, _, layout => by
      cases h
      exact (layout.first (.mark (t := .endObject) rfl)).first (.mark (t := .beginObject) rfl)
  | .object (m :: members), level, _, h, _, _, layout => by
      obtain ⟨ds, hds, rfl⟩ := Option.map_eq_some_iff.1 h
      have hclose := layout_lineBreak level (layout.first (.mark (t := .endObject) rfl))
      have hmembers := layout_prettyMembers (m :: members) nofun (level + 1) hds hclose
      rw [prettyChars_object, List.cons_append, List.append_assoc, List.append_assoc, Document.tokens,
        List.append_assoc]
      exact hmembers.first (.mark (t := .beginObject) rfl)

theorem layout_prettyItems : (items : List Json) → items ≠ [] → (level : Nat) → {ds : List Document} →
    itemDocuments? items = some ds → {more : List Token} → {rest : List Char} → Layout more rest →
    Layout (Document.itemTokens ds ++ more) (prettyItems level items ++ rest)
  | [], h, _, _, _, _, _, _ => absurd rfl h
  | [v], _, level, _, h, _, _, layout => by
      obtain ⟨d, _, hd, hnil, rfl⟩ := itemDocuments?_eq_some h
      cases hnil
      rw [prettyItems, List.append_assoc]
      exact layout_lineBreak level (layout_prettyChars v level hd layout)
  | v :: w :: items, _, level, _, h, _, _, layout => by
      obtain ⟨d, ds, hd, hds, rfl⟩ := itemDocuments?_eq_some h
      have hrest := (layout_prettyItems (w :: items) nofun level hds layout).first (.mark (t := .comma) rfl)
      have hvalue := layout_prettyChars v level hd hrest
      obtain ⟨e, es, -, -, rfl⟩ := itemDocuments?_eq_some hds
      rw [prettyItems_cons_cons, List.append_assoc, List.append_assoc, Document.itemTokens,
        List.append_assoc]
      · exact layout_lineBreak level hvalue
      · exact List.cons_ne_nil e es

theorem layout_prettyMembers : (members : List (String × Json)) → members ≠ [] → (level : Nat) →
    {ds : List (Option String × Document)} → memberDocuments? members = some ds →
    {more : List Token} → {rest : List Char} → Layout more rest →
    Layout (Document.memberTokens ds ++ more) (prettyMembers level members ++ rest)
  | [], h, _, _, _, _, _, _ => absurd rfl h
  | [(name, v)], _, level, _, h, _, _, layout => by
      obtain ⟨d, _, hd, hnil, rfl⟩ := memberDocuments?_eq_some h
      cases hnil
      rw [prettyMembers, List.append_assoc, List.append_assoc]
      exact layout_lineBreak level (layout_name name (layout_prettyChars v level hd layout))
  | (name, v) :: m :: members, _, level, _, h, _, _, layout => by
      obtain ⟨d, ds, hd, hds, rfl⟩ := memberDocuments?_eq_some h
      have hrest :=
        (layout_prettyMembers (m :: members) nofun level hds layout).first (.mark (t := .comma) rfl)
      have hvalue := layout_prettyChars v level hd hrest
      obtain ⟨e, es, -, -, rfl⟩ := memberDocuments?_eq_some hds
      rw [prettyMembers_cons_cons, List.append_assoc, List.append_assoc, List.cons_append,
        List.cons_append, List.append_assoc, Document.memberTokens, List.append_assoc]
      · exact layout_lineBreak level (layout_name name hvalue)
      · exact List.cons_ne_nil _ es

end

/-- White space may stand behind it, such as the end of its line. -/
theorem writtenAs_pretty {v : Json} {d : Document} (h : v.document? = some d) {space : String}
    (blank : ∀ c ∈ space.toList, c ∈ Token.whiteSpace) : d.WrittenAs (v.pretty ++ space) := by
  have hlayout := layout_prettyChars v 0 h (.done blank)
  rw [List.append_nil] at hlayout
  rwa [Document.WrittenAs, String.toList_append, pretty, String.toList_ofList]

/-- The tree that is read from a printed value is the one that the value stands for. -/
theorem parse?_pretty {v : Json} {d : Document} (h : v.document? = some d) :
    Document.parse? v.pretty = some d := by
  have hwritten : d.WrittenAs (v.pretty ++ "") := writtenAs_pretty h (List.forall_mem_nil _)
  rw [String.append_empty] at hwritten
  exact Document.parse?_of_writtenAs hwritten

end Lineage.Json
