import Mathlib
import Lineage.Json.Token

/-! What the scanner makes of the spellings of tokens. A text may be spelled with any escapes; a word or
a number ends where a character follows that cannot belong to it. Main statement: a token is read from
its spelling, and what follows is left. -/

namespace Lineage.Json

/-- How one element of a text may be written. -/
inductive Piece.Spells : Piece → List Char → Prop
  | plain {c : Char} (quote : c ≠ '"') (backslash : c ≠ '\\') (visible : 0x20 ≤ c.toNat) :
      Spells (.char c) [c]
  | short {c e : Char} (h : Token.shortEscape? e = some c) : Spells (.char c) ['\\', e]
  | code {a b c d : Char} {p q r s : Nat} (ha : Token.hexValue? a = some p)
      (hb : Token.hexValue? b = some q) (hc : Token.hexValue? c = some r)
      (hd : Token.hexValue? d = some s) :
      Spells (.ofUnit (((p * 16 + q) * 16 + r) * 16 + s)) ['\\', 'u', a, b, c, d]

/-- The items are written one right behind the other. -/
inductive InTurn {α : Type} (spells : α → List Char → Prop) : List α → List Char → Prop
  | nil : InTurn spells [] []
  | cons {x : α} {xs : List α} {spelling more : List Char} (first : spells x spelling)
      (rest : InTurn spells xs more) : InTurn spells (x :: xs) (spelling ++ more)

/-- No character is a surrogate. -/
theorem Piece.ofUnit_toNat (c : Char) : ofUnit c.toNat = .char c := by
  have hvalid : c.toNat < 0xD800 ∨ (0xDFFF < c.toNat ∧ c.toNat < 0x110000) := c.valid
  have hwhole : (decide (0xD800 ≤ c.toNat) && decide (c.toNat < 0xE000)) = false := by
    rw [Bool.and_eq_false_iff, decide_eq_false_iff_not, decide_eq_false_iff_not]
    omega
  rw [ofUnit, hwhole, if_neg Bool.false_ne_true, Char.ofNat_toNat]

namespace Token

/-- The tokens once the rest of the text is read. -/
def Scanner.run (s : Scanner) (cs : List Char) : Option (List Token) :=
  (cs.foldlM Scanner.step s).bind Scanner.finish

/-- Outside of any token, the tokens are read off the front of the input and the rest is left. -/
def Reads (input : List Char) (tokens : List Token) (rest : List Char) : Prop :=
  ∀ earlier, Scanner.run ⟨.between, earlier⟩ input =
    Scanner.run ⟨.between, tokens.reverse ++ earlier⟩ rest

/-- No word and no number goes on with what follows. -/
def Apart (rest : List Char) : Prop :=
  ∀ c ∈ rest.head?, isNumberChar c = false ∧ c.isLower = false

/-- Tokens that one character spells. -/
def mark? : Token → Option Char
  | .beginObject => some '{'
  | .endObject => some '}'
  | .beginArray => some '['
  | .endArray => some ']'
  | .colon => some ':'
  | .comma => some ','
  | _ => none

variable {input middle rest cs : List Char} {tokens more earlier : List Token} {c : Char}

theorem Scanner.run_cons (s : Scanner) (c : Char) (cs : List Char) :
    s.run (c :: cs) = (s.step c).bind fun s => s.run cs := by
  rw [run, List.foldlM_cons]
  cases s.step c <;> rfl

theorem Scanner.run_step {s next : Scanner} (h : s.step c = some next) (cs : List Char) :
    s.run (c :: cs) = next.run cs := by
  rw [run_cons, h]
  rfl

theorem Reads.refl (cs : List Char) : Reads cs [] cs := fun _ => rfl

theorem Reads.trans (first : Reads input tokens middle) (last : Reads middle more rest) :
    Reads input (tokens ++ more) rest := by
  intro earlier
  rw [first, last, List.reverse_append, List.append_assoc]

theorem scan_of_reads (h : Reads input tokens []) : scan input = some tokens := by
  have hrun := h []
  rw [List.append_nil] at hrun
  refine hrun.trans ?_
  change some tokens.reverse.reverse = _
  rw [List.reverse_reverse]

theorem reads_space (h : isSpace c = true) (cs : List Char) : Reads (c :: cs) [] cs := by
  intro earlier
  exact Scanner.run_step (by rw [Scanner.step, start, if_pos h]; rfl) cs

theorem reads_mark {t : Token} (h : t.mark? = some c) (cs : List Char) : Reads (c :: cs) [t] cs := by
  intro earlier
  refine Scanner.run_step ?_ cs
  cases t <;> cases h <;> rfl

@[simp] theorem apart_nil : Apart [] := nofun

@[simp] theorem apart_cons : Apart (c :: cs) ↔ isNumberChar c = false ∧ c.isLower = false := by
  simp [Apart]

section

variable {read : List Char}

/-- What follows a word is read as if the word had been over before. -/
theorem run_word {t : Token} (h : word? read.reverse = some t) (apart : Apart rest) :
    Scanner.run ⟨.word read, earlier⟩ rest = Scanner.run ⟨.between, t :: earlier⟩ rest := by
  cases rest with
  | nil => simp [Scanner.run, Scanner.finish, h]
  | cons c cs =>
      have hstep : Scanner.step ⟨.word read, earlier⟩ c = start (t :: earlier) c := by
        simp [Scanner.step, (apart_cons.1 apart).2, h]
      rw [Scanner.run_cons, hstep, Scanner.run_cons]
      rfl

theorem run_number {n : Numeral} (h : Numeral.ofChars? read.reverse = some n) (apart : Apart rest) :
    Scanner.run ⟨.number read, earlier⟩ rest = Scanner.run ⟨.between, .number n :: earlier⟩ rest := by
  cases rest with
  | nil => simp [Scanner.run, Scanner.finish, h]
  | cons c cs =>
      have hstep : Scanner.step ⟨.number read, earlier⟩ c = start (.number n :: earlier) c := by
        simp [Scanner.step, (apart_cons.1 apart).1, h]
      rw [Scanner.run_cons, hstep, Scanner.run_cons]
      rfl

theorem run_numberChars {digits : List Char} (h : ∀ c ∈ digits, isNumberChar c = true)
    (rest : List Char) :
    Scanner.run ⟨.number read, earlier⟩ (digits ++ rest) =
      Scanner.run ⟨.number (digits.reverse ++ read), earlier⟩ rest := by
  induction digits generalizing read with
  | nil => rfl
  | cons d digits ih =>
      obtain ⟨hd, hdigits⟩ := List.forall_mem_cons.1 h
      have hstep : Scanner.step ⟨.number read, earlier⟩ d = some ⟨.number (d :: read), earlier⟩ := if_pos hd
      rw [List.cons_append, Scanner.run_step hstep, ih hdigits, List.reverse_cons, List.append_assoc]
      rfl

end

theorem step_number (h : c = '-' ∨ c.isDigit = true) (earlier : List Token) :
    Scanner.step ⟨.between, earlier⟩ c = some ⟨.number [c], earlier⟩ := by
  have hne : ∀ d, d ≠ '-' → d.isDigit = false → (c == d) = false := by
    intro d hminus hdigit
    rw [beq_eq_false_iff_ne]
    rintro rfl
    rcases h with rfl | h
    · exact hminus rfl
    · rw [hdigit] at h
      cases h
  have hfirst : (c == '-' || c.isDigit) = true := by
    rcases h with rfl | h
    · rfl
    · rw [h, Bool.or_true]
  simp [Scanner.step, start, isSpace, hne, hfirst]

theorem reads_number {n : Numeral} {digits : List Char} (first : c = '-' ∨ c.isDigit = true)
    (all : ∀ c ∈ digits, isNumberChar c = true) (h : Numeral.ofChars? (c :: digits) = some n)
    (apart : Apart rest) : Reads (c :: digits ++ rest) [.number n] rest := by
  intro earlier
  have hread : Numeral.ofChars? (digits.reverse ++ [c]).reverse = some n := by
    rw [List.reverse_append, List.reverse_reverse]
    exact h
  rw [List.cons_append, Scanner.run_step (step_number first earlier), run_numberChars all,
    run_number hread apart]
  rfl

theorem reads_null (apart : Apart rest) : Reads ('n' :: 'u' :: 'l' :: 'l' :: rest) [.null] rest := by
  have hword : word? (List.reverse ['l', 'l', 'u', 'n']) = some .null := rfl
  exact fun _ => run_word hword apart

theorem reads_true (apart : Apart rest) :
    Reads ('t' :: 'r' :: 'u' :: 'e' :: rest) [.bool true] rest := by
  have hword : word? (List.reverse ['e', 'u', 'r', 't']) = some (.bool true) := rfl
  exact fun _ => run_word hword apart

theorem reads_false (apart : Apart rest) :
    Reads ('f' :: 'a' :: 'l' :: 's' :: 'e' :: rest) [.bool false] rest := by
  have hword : word? (List.reverse ['e', 's', 'l', 'a', 'f']) = some (.bool false) := rfl
  exact fun _ => run_word hword apart

theorem run_piece {p : Piece} {spelling : List Char} (h : p.Spells spelling) (read : List Piece)
    (earlier : List Token) (rest : List Char) :
    Scanner.run ⟨.text read, earlier⟩ (spelling ++ rest) =
      Scanner.run ⟨.text (p :: read), earlier⟩ rest := by
  cases h with
  | plain quote backslash visible =>
      exact Scanner.run_step (by simp [Scanner.step, quote, backslash, Nat.not_lt.2 visible]) rest
  | @short c e h =>
      have hcode : (e == 'u') = false := by
        rw [beq_eq_false_iff_ne]
        rintro rfl
        cases h
      have hstep : Scanner.step ⟨.escape read, earlier⟩ e = some ⟨.text (.char c :: read), earlier⟩ := by
        simp [Scanner.step, hcode, h]
      exact Scanner.run_step hstep rest
  | @code a b c d p q r s ha hb hc hd =>
      have hdigits : Scanner.run ⟨.hex read 4 0, earlier⟩ (a :: b :: c :: d :: rest) =
          Scanner.run ⟨.text (.ofUnit (((p * 16 + q) * 16 + r) * 16 + s) :: read), earlier⟩ rest := by
        simp [Scanner.run_cons, Scanner.step, ha, hb, hc, hd]
      exact hdigits

/-- All of a text but its quotes. -/
theorem run_pieces {pieces : List Piece} {inside : List Char} (h : InTurn Piece.Spells pieces inside)
    (read : List Piece) (earlier : List Token) (rest : List Char) :
    Scanner.run ⟨.text read, earlier⟩ (inside ++ rest) =
      Scanner.run ⟨.text (pieces.reverse ++ read), earlier⟩ rest := by
  induction h generalizing read with
  | nil => rfl
  | cons first _ ih =>
      rw [List.append_assoc, run_piece first, ih, List.reverse_cons, List.append_assoc]
      rfl

theorem reads_text {pieces : List Piece} {inside : List Char} (h : InTurn Piece.Spells pieces inside)
    (rest : List Char) :
    Reads ('"' :: inside ++ ['"'] ++ rest) [.text ((Piece.join pieces).map String.ofList)] rest := by
  intro earlier
  have hclose : Scanner.step ⟨.text (pieces.reverse ++ []), earlier⟩ '"' =
      some ⟨.between, .text ((Piece.join pieces).map String.ofList) :: earlier⟩ := by
    simp [Scanner.step]
  rw [List.append_assoc, List.cons_append]
  exact (run_pieces h [] earlier (['"'] ++ rest)).trans (Scanner.run_step hclose rest)

end Token

end Lineage.Json
