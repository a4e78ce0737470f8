import Mathlib
import Lineage.Proofs.Json.Record
import Lineage.Proofs.Json.Spelling
import Lineage.Proofs.Json.Tree

/-! Texts that write a document: its tokens in their order, each in any of its spellings, with any white
space around them. In a document a word or a number is followed by a mark or by nothing, so that it never
runs into what follows. Main statement: the document is got back from every text that writes it. -/

namespace Lineage.Json

namespace Token

def whiteSpace : List Char := [' ', '\t', '\n', '\r']

/-- The tokens in their order, with white space before each of them and behind the last. -/
inductive Layout : List Token → List Char → Prop
  | done {space : List Char} (h : ∀ c ∈ space, c ∈ whiteSpace) : Layout [] space
  | token {t : Token} {tokens : List Token} {space spelling rest : List Char}
      (h : ∀ c ∈ space, c ∈ whiteSpace) (first : t.Spells spelling) (more : Layout tokens rest) :
      Layout (t :: tokens) (space ++ (spelling ++ rest))

/-- Of two tokens side by side one is a mark. -/
def Spaced (tokens : List Token) : Prop :=
  tokens.IsChain fun t u => t.mark? ≠ none ∨ u.mark? ≠ none

/-- What may stand behind any token. -/
structure Closed (tokens : List Token) : Prop where
  spaced : Spaced tokens
  head : ∀ t ∈ tokens.head?, t.mark? ≠ none

variable {t : Token} {tokens : List Token} {cs rest : List Char}

theorem mem_whiteSpace {c : Char} : c ∈ whiteSpace ↔ c = ' ' ∨ c = '\t' ∨ c = '\n' ∨ c = '\r' := by
  simp [whiteSpace]

theorem Layout.first {spelling : List Char} (h : Layout tokens rest) (first : t.Spells spelling) :
    Layout (t :: tokens) (spelling ++ rest) :=
  .token (List.forall_mem_nil _) first h

/-- More white space may stand in front. -/
theorem Layout.indent (h : Layout tokens cs) {space : List Char} (blank : ∀ c ∈ space, c ∈ whiteSpace) :
    Layout tokens (space ++ cs) := by
  cases h with
  | done h => exact .done (List.forall_mem_append.2 ⟨blank, h⟩)
  | token h first more =>
      rw [← List.append_assoc]
      exact .token (List.forall_mem_append.2 ⟨blank, h⟩) first more

theorem Closed.nil : Closed [] := ⟨.nil, nofun⟩

theorem Closed.cons (h : Closed tokens) (t : Token) : Spaced (t :: tokens) :=
  List.isChain_cons.2 ⟨fun u hu => .inr (h.head u hu), h.spaced⟩

theorem Spaced.mark {c : Char} (h : Spaced tokens) (ht : t.mark? = some c) : Closed (t :: tokens) := by
  have hmark : t.mark? ≠ none := by
    rw [ht]
    exact Option.some_ne_none c
  refine ⟨List.isChain_cons.2 ⟨fun _ _ => .inl hmark, h⟩, ?_⟩
  rintro _ ⟨⟩
  exact hmark

/-- White space and marks end words and numbers. -/
theorem Layout.apart (h : Layout tokens cs) (head : ∀ t ∈ tokens.head?, t.mark? ≠ none) : Apart cs := by
  have hspace : ∀ c ∈ whiteSpace, isNumberChar c = false ∧ c.isLower = false := by
    intro c hc
    rcases mem_whiteSpace.1 hc with rfl | rfl | rfl | rfl <;> exact ⟨rfl, rfl⟩
  cases h with
  | done h =>
      cases cs with
      | nil => exact apart_nil
      | cons c space => exact apart_cons.2 (hspace c (h c List.mem_cons_self))
  | @token t tokens space spelling rest h first more =>
      cases space with
      | nil =>
          have hmark := head t rfl
          cases first with
          | mark hc => cases t <;> cases hc <;> exact apart_cons.2 ⟨rfl, rfl⟩
          | _ => exact absurd rfl hmark
      | cons c space => exact apart_cons.2 (hspace c (h c List.mem_cons_self))

theorem reads_spaces {space : List Char} (h : ∀ c ∈ space, c ∈ whiteSpace) (rest : List Char) :
    Reads (space ++ rest) [] rest := by
  have hspace : ∀ c ∈ whiteSpace, isSpace c = true := by
    intro c hc
    rcases mem_whiteSpace.1 hc with rfl | rfl | rfl | rfl <;> rfl
  induction space with
  | nil => exact .refl rest
  | cons c space ih =>
      rw [List.forall_mem_cons] at h
      exact (reads_space (hspace c h.1) _).trans (ih h.2)

theorem Layout.reads (h : Layout tokens cs) (spaced : Spaced tokens) : Reads cs tokens [] := by
  induction h with
  | @done space h =>
      have hreads := reads_spaces h []
      rwa [List.append_nil] at hreads
  | @token t tokens space spelling rest h first more ih =>
      obtain ⟨head, tail⟩ := List.isChain_cons.1 spaced
      have apart : t.mark? = none → Apart rest := by
        intro ht
        exact more.apart fun u hu => (head u hu).resolve_left fun hne => hne ht
      exact (reads_spaces h _).trans ((reads_of_spells first apart).trans (ih tail))

end Token

namespace Document

open Token (Spaced Closed)

mutual

theorem spaced_tokens : (d : Document) → {rest : List Token} → Closed rest → Spaced (d.tokens ++ rest)
  | .null, _, h | .bool _, _, h | .number _, _, h | .text _, _, h => h.cons _
  | .array items, rest, h => by
      have hend : Closed (.endArray :: rest) := h.spaced.mark rfl
      rw [tokens, List.append_assoc, List.cons_append]
      exact ((spaced_itemTokens items hend).mark rfl).spaced
  | .object members, rest, h => by
      have hend : Closed (.endObject :: rest) := h.spaced.mark rfl
      rw [tokens, List.append_assoc, List.cons_append]
      exact ((spaced_memberTokens members hend).mark rfl).spaced

theorem spaced_itemTokens : (items : List Document) → {rest : List Token} → Closed rest →
    Spaced (itemTokens items ++ rest)
  | [], _, h => h.spaced
  | [d], _, h => spaced_tokens d h
  | d :: e :: more, rest, h => by
      have hmore := spaced_itemTokens (e :: more) h
      rw [itemTokens, List.append_assoc]
      · exact spaced_tokens d (hmore.mark rfl)
      · exact List.cons_ne_nil e more

theorem spaced_memberTokens : (members : List (Option String × Document)) → {rest : List Token} →
    Closed rest → Spaced (memberTokens members ++ rest)
  | [], _, h => h.spaced
  | [(name, d)], _, h => ((spaced_tokens d h).mark rfl).cons (.text name)
  | (name, d) :: m :: more, rest, h => by
      have hmore := spaced_memberTokens (m :: more) h
      have hcomma : Closed (.comma :: (memberTokens (m :: more) ++ rest)) := hmore.mark rfl
      have hvalue := spaced_tokens d hcomma
      rw [memberTokens, List.append_assoc]
      · exact (hvalue.mark rfl).cons (.text name)
      · exact List.cons_ne_nil m more

end

/-- The text writes the document. -/
def WrittenAs (d : Document) (text : String) : Prop :=
  Token.Layout d.tokens text.toList

theorem parse?_of_writtenAs {d : Document} {text : String} (h : d.WrittenAs text) :
    parse? text = some d := by
  have hspaced := d.spaced_tokens .nil
  rw [List.append_nil] at hspaced
  rw [parse?, Token.scan_of_reads (h.reads hspaced), Option.bind_some, ofTokens?_tokens]

end Document

end Lineage.Json
