import Mathlib
import Lineage.Json.Printer
import Lineage.Proofs.Json.Scan

/-! All the ways in which JSON lets a token be written: a text with any choice of escapes, a number with
any fraction and exponent. Main statement: a token is read from each of its spellings, of which the
printer has one for every text. -/

namespace Lineage.Json

/-- A digit, of either case. -/
def HexDigit (n : Nat) (c : Char) : Prop :=
  n < 16 ∧ (c = Nat.digitChar n ∨ c = (Nat.digitChar n).toUpper)

instance (n : Nat) (c : Char) : Decidable (HexDigit n c) :=
  inferInstanceAs (Decidable (n < 16 ∧ (c = Nat.digitChar n ∨ c = (Nat.digitChar n).toUpper)))

/-- Four digits, the greatest first. -/
inductive HexSpells : Nat → List Char → Prop
  | digits {a b c d : Char} {p q r s : Nat} (ha : HexDigit p a) (hb : HexDigit q b) (hc : HexDigit r c)
      (hd : HexDigit s d) : HexSpells (((p * 16 + q) * 16 + r) * 16 + s) [a, b, c, d]

/-- What stands behind a backslash, and for which character. -/
def shortEscapes : List (Char × Char) :=
  [('"', '"'), ('\\', '\\'), ('/', '/'), ('b', '\x08'), ('f', '\x0c'), ('n', '\n'), ('r', '\r'), ('t', '\t')]

/-- How a character of a text may be written. -/
inductive CharSpells : Char → List Char → Prop
  | plain {c : Char} (quote : c ≠ '"') (backslash : c ≠ '\\') (visible : 0x20 ≤ c.toNat) :
      CharSpells c [c]
  | short {c e : Char} (h : (e, c) ∈ shortEscapes) : CharSpells c ['\\', e]
  | unit {c : Char} {digits : List Char} (h : HexSpells c.toNat digits) :
      CharSpells c ('\\' :: 'u' :: digits)
  /-- A character beyond sixteen bits takes two escapes. -/
  | pair {c : Char} {high low : Nat} {first last : List Char} (hfirst : HexSpells (0xD800 + high) first)
      (hlast : HexSpells (0xDC00 + low) last) (hhigh : high < 0x400) (hlow : low < 0x400)
      (h : c.toNat = 0x10000 + high * 0x400 + low) :
      CharSpells c ('\\' :: 'u' :: first ++ '\\' :: 'u' :: last)

/-- How a text may be written, and what is well formed but no text. -/
inductive TextSpells : Option String → List Char → Prop
  | whole {s : String} {inside : List Char} (h : InTurn CharSpells s.toList inside) :
      TextSpells (some s) ('"' :: inside ++ ['"'])
  | broken {pieces : List Piece} {inside : List Char} (h : InTurn Piece.Spells pieces inside)
      (alone : Piece.join pieces = none) : TextSpells none ('"' :: inside ++ ['"'])

section

variable {α : Type} {spells : α → List Char → Prop} {xs ys : List α} {x : α} {cs ds spelling : List Char}

theorem InTurn.single (h : spells x spelling) : InTurn spells [x] spelling := by
  have hturn := InTurn.cons h .nil
  rwa [List.append_nil] at hturn

theorem InTurn.append (hxs : InTurn spells xs cs) (hys : InTurn spells ys ds) :
    InTurn spells (xs ++ ys) (cs ++ ds) := by
  induction hxs with
  | nil => exact hys
  | cons first _ ih =>
      rw [List.append_assoc]
      exact .cons first ih

end

/-! How the printer writes a text: with the shortest escapes, and only where there has to be one. -/

theorem hexDigit_hexDigit : ∀ n < 16, HexDigit n (hexDigit n) := by
  decide

theorem charSpells_escaped (c : Char) : CharSpells c (escaped c) := by
  unfold escaped
  split_ifs with hquote hbackslash hfeed hreturn htab hback hform hcontrol
  · rw [beq_iff_eq.1 hquote]; exact .short (by decide)
  · rw [beq_iff_eq.1 hbackslash]; exact .short (by decide)
  · rw [beq_iff_eq.1 hfeed]; exact .short (by decide)
  · rw [beq_iff_eq.1 hreturn]; exact .short (by decide)
  · rw [beq_iff_eq.1 htab]; exact .short (by decide)
  · rw [beq_iff_eq.1 hback]; exact .short (by decide)
  · rw [beq_iff_eq.1 hform]; exact .short (by decide)
  · have hvalue : ((0 * 16 + 0) * 16 + c.toNat / 16) * 16 + c.toNat % 16 = c.toNat := by omega
    have hzero : HexDigit 0 '0' := by decide
    have hdigits := HexSpells.digits hzero hzero (hexDigit_hexDigit (c.toNat / 16) (by omega))
      (hexDigit_hexDigit (c.toNat % 16) (by omega))
    rw [hvalue] at hdigits
    exact .unit hdigits
  · exact .plain (by simpa using hquote) (by simpa using hbackslash) (Nat.not_lt.1 hcontrol)

theorem textSpells_quoted (s : String) : TextSpells (some s) (quoted s) := by
  refine .whole ?_
  induction s.toList with
  | nil => exact .nil
  | cons c cs ih => exact .cons (charSpells_escaped c) ih

namespace Piece

theorem ofUnit_of_surrogate {n : Nat} (hlow : 0xD800 ≤ n) (hhigh : n < 0xE000) : ofUnit n = .half n := by
  rw [ofUnit, decide_eq_true hlow, decide_eq_true hhigh]
  rfl

theorem hexValue?_of_hexDigit {n : Nat} {c : Char} (h : HexDigit n c) : Token.hexValue? c = some n := by
  have hvalue : ∀ n < 16, Token.hexValue? (Nat.digitChar n) = some n ∧
      Token.hexValue? (Nat.digitChar n).toUpper = some n := by decide
  obtain ⟨hn, rfl | rfl⟩ := h
  · exact (hvalue n hn).1
  · exact (hvalue n hn).2

theorem shortEscape?_of_mem {c e : Char} (h : (e, c) ∈ shortEscapes) : Token.shortEscape? e = some c := by
  have hescapes : ∀ pair ∈ shortEscapes, Token.shortEscape? pair.1 = some pair.2 := by decide
  exact hescapes _ h

theorem spells_of_hexSpells {n : Nat} {digits : List Char} (h : HexSpells n digits) :
    Spells (ofUnit n) ('\\' :: 'u' :: digits) := by
  cases h with
  | digits ha hb hc hd =>
      exact .code (hexValue?_of_hexDigit ha) (hexValue?_of_hexDigit hb) (hexValue?_of_hexDigit hc)
        (hexValue?_of_hexDigit hd)

/-- The pieces of a character's spelling, which are the character whatever follows them. -/
theorem exists_pieces_of_charSpells {c : Char} {spelling : List Char} (h : CharSpells c spelling) :
    ∃ pieces, InTurn Spells pieces spelling ∧
      ∀ more, join (pieces ++ more) = (join more).map (c :: ·) := by
  cases h with
  | plain quote backslash visible =>
      exact ⟨[.char c], .single (.plain quote backslash visible), fun more => rfl⟩
  | short h => exact ⟨[.char c], .single (.short (shortEscape?_of_mem h)), fun more => rfl⟩
  | unit h =>
      have hpiece := spells_of_hexSpells h
      rw [ofUnit_toNat] at hpiece
      exact ⟨[.char c], .single hpiece, fun more => rfl⟩
  | @pair high low first last hfirst hlast hhigh hlow h =>
      have hfirstPiece := spells_of_hexSpells hfirst
      have hlastPiece := spells_of_hexSpells hlast
      rw [ofUnit_of_surrogate (by omega) (by omega)] at hfirstPiece hlastPiece
      refine ⟨[.half (0xD800 + high), .half (0xDC00 + low)], .cons hfirstPiece (.single hlastPiece), ?_⟩
      intro more
      have hhalves : (decide (0xD800 + high < 0xDC00) && decide (0xDC00 ≤ 0xDC00 + low)) = true := by
        rw [Bool.and_eq_true, decide_eq_true_eq, decide_eq_true_eq]
        omega
      have hchar : Char.ofNat (0x10000 + (0xD800 + high - 0xD800) * 0x400 + (0xDC00 + low - 0xDC00)) = c := by
        rw [Nat.add_sub_cancel_left, Nat.add_sub_cancel_left, ← h, Char.ofNat_toNat]
      simp only [List.cons_append, List.nil_append, join, hhalves, if_true, hchar]

theorem exists_pieces_of_inTurn {cs inside : List Char} (h : InTurn CharSpells cs inside) :
    ∃ pieces, InTurn Spells pieces inside ∧ join pieces = some cs := by
  induction h with
  | nil => exact ⟨[], .nil, rfl⟩
  | cons first _ ih =>
      obtain ⟨pieces, hpieces, hjoin⟩ := exists_pieces_of_charSpells first
      obtain ⟨more, hmore, hrest⟩ := ih
      exact ⟨pieces ++ more, hpieces.append hmore, by rw [hjoin, hrest, Option.map_some]⟩

end Piece

theorem Token.reads_of_textSpells {s : Option String} {spelling : List Char} (h : TextSpells s spelling)
    (rest : List Char) : Reads (spelling ++ rest) [.text s] rest := by
  cases h with
  | @whole s inside h =>
      obtain ⟨pieces, hpieces, hjoin⟩ := Piece.exists_pieces_of_inTurn h
      have hreads := reads_text hpieces rest
      rwa [hjoin, Option.map_some, String.ofList_toList] at hreads
  | broken h alone =>
      have hreads := reads_text h rest
      rwa [alone] at hreads

namespace Numeral

/-- No zero stands before other digits. -/
inductive WholeSpells : List Nat → List Char → Prop
  | digits {ds : List Nat} (filled : ds ≠ []) (below : ∀ d ∈ ds, d < 10)
      (first : ds.head? = some 0 → ds = [0]) : WholeSpells ds (ds.map Nat.digitChar)

inductive FractionSpells : List Nat → List Char → Prop
  | absent : FractionSpells [] []
  | digits {ds : List Nat} (filled : ds ≠ []) (below : ∀ d ∈ ds, d < 10) :
      FractionSpells ds ('.' :: ds.map Nat.digitChar)

/-- The sign of an exponent. -/
inductive SignSpells : (Nat → Int) → List Char → Prop
  | absent : SignSpells (fun n => n) []
  | plus : SignSpells (fun n => n) ['+']
  | minus : SignSpells (fun n => -n) ['-']

inductive ExponentSpells : Option Int → List Char → Prop
  | absent : ExponentSpells none []
  | mark {e : Char} {signed : Nat → Int} {sign : List Char} {ds : List Nat} (letter : e = 'e' ∨ e = 'E')
      (hsign : SignSpells signed sign) (filled : ds ≠ []) (below : ∀ d ∈ ds, d < 10) :
      ExponentSpells (some (signed (ofDigits ds))) (e :: sign ++ ds.map Nat.digitChar)

/-- How a number may be written. -/
inductive Spells : Numeral → List Char → Prop
  | parts {negative : Bool} {ds fs : List Nat} {e : Option Int} {whole fraction exponent : List Char}
      (hwhole : WholeSpells ds whole) (hfraction : FractionSpells fs fraction)
      (hexponent : ExponentSpells e exponent) :
      Spells ⟨negative, ds, fs, e⟩
        ((if negative then ['-'] else []) ++ (whole ++ (fraction ++ exponent)))

theorem isDigit_digitChar : ∀ d < 10, (Nat.digitChar d).isDigit = true := by
  decide

theorem digitValue_digitChar : ∀ d < 10, digitValue (Nat.digitChar d) = d := by
  decide

section

variable {ds : List Nat} {rest : List Char}

theorem isDigit_of_mem_map (below : ∀ d ∈ ds, d < 10) : ∀ c ∈ ds.map Nat.digitChar, c.isDigit = true := by
  intro c hc
  obtain ⟨d, hd, rfl⟩ := List.mem_map.1 hc
  exact isDigit_digitChar d (below d hd)

theorem map_digitValue (below : ∀ d ∈ ds, d < 10) : (ds.map Nat.digitChar).map digitValue = ds := by
  rw [List.map_map]
  refine (List.map_congr_left fun d hd => ?_).trans (List.map_id ds)
  exact digitValue_digitChar d (below d hd)

theorem takeWhile_digits (below : ∀ d ∈ ds, d < 10) (apart : ∀ c ∈ rest.head?, c.isDigit = false) :
    (ds.map Nat.digitChar ++ rest).takeWhile Char.isDigit = ds.map Nat.digitChar := by
  rw [List.takeWhile_append_of_pos (isDigit_of_mem_map below)]
  cases rest with
  | nil => simp
  | cons c cs => simp [apart c rfl]

theorem dropWhile_digits (below : ∀ d ∈ ds, d < 10) (apart : ∀ c ∈ rest.head?, c.isDigit = false) :
    (ds.map Nat.digitChar ++ rest).dropWhile Char.isDigit = rest := by
  rw [List.dropWhile_append_of_pos (isDigit_of_mem_map below)]
  cases rest with
  | nil => rfl
  | cons c cs => simp [apart c rfl]

theorem whole?_of_spells {whole : List Char} (h : WholeSpells ds whole)
    (apart : ∀ c ∈ rest.head?, c.isDigit = false) : whole? (whole ++ rest) = some (ds, rest) := by
  cases h with
  | digits filled below first =>
      rw [whole?]
      simp only [takeWhile_digits below apart, dropWhile_digits below apart]
      split
      · rename_i hnil
        exact absurd (List.map_eq_nil_iff.1 hnil) filled
      · rename_i c cs hzero
        obtain ⟨d, more, rfl, hd, hmore⟩ := List.map_eq_cons_iff.1 hzero
        have hds := first (congrArg some (Nat.digitChar_eq_zero.1 hd))
        rw [(List.cons.inj hds).2] at hmore
        cases hmore
      · rw [map_digitValue below]

/-- What stands before the exponent goes on with no digit. -/
theorem isDigit_head?_of_exponentSpells {e : Option Int} {exponent : List Char}
    (h : ExponentSpells e exponent) : ∀ c ∈ exponent.head?, c.isDigit = false := by
  cases h with
  | absent => nofun
  | mark letter => rcases letter with rfl | rfl <;> rintro c ⟨⟩ <;> rfl

theorem isDigit_head?_of_fractionSpells {fraction exponent : List Char} (h : FractionSpells ds fraction)
    (hexponent : ∀ c ∈ exponent.head?, c.isDigit = false) :
    ∀ c ∈ (fraction ++ exponent).head?, c.isDigit = false := by
  cases h with
  | absent => exact hexponent
  | digits => rintro c ⟨⟩; rfl

theorem fraction?_of_spells {e : Option Int} {fraction exponent : List Char}
    (h : FractionSpells ds fraction) (hexponent : ExponentSpells e exponent) :
    fraction? (fraction ++ exponent) = some (ds, exponent) := by
  cases h with
  | absent =>
      cases hexponent with
      | absent => rfl
      | mark letter => rcases letter with rfl | rfl <;> rfl
  | digits filled below =>
      have apart := isDigit_head?_of_exponentSpells hexponent
      have hempty : (ds.map Nat.digitChar).isEmpty = false := by simpa using filled
      rw [List.cons_append, fraction?]
      simp only [takeWhile_digits below apart, dropWhile_digits below apart, hempty, map_digitValue below]
      rfl

theorem exponentDigits?_map (filled : ds ≠ []) (below : ∀ d ∈ ds, d < 10) :
    exponentDigits? (ds.map Nat.digitChar) = some (ofDigits ds) := by
  have hempty : (ds.map Nat.digitChar).isEmpty = false := by simpa using filled
  have hall : (ds.map Nat.digitChar).all Char.isDigit = true := List.all_eq_true.2 (isDigit_of_mem_map below)
  rw [exponentDigits?, hempty, hall, map_digitValue below]
  rfl

theorem exponent?_of_spells {e : Option Int} {exponent : List Char} (h : ExponentSpells e exponent) :
    exponent? exponent = some e := by
  cases h with
  | absent => rfl
  | @mark c signed sign ds letter hsign filled below =>
      have hletter : (c == 'e' || c == 'E') = true := by
        rcases letter with rfl | rfl <;> rfl
      have hdigits := exponentDigits?_map filled below
      cases hsign with
      | absent =>
          have hsigned (c : Char) (hc : c.isDigit = false) (cs : List Char) :
              ds.map Nat.digitChar ≠ c :: cs := by
            intro heq
            have hdigit := isDigit_of_mem_map below c (heq ▸ List.mem_cons_self)
            rw [hc] at hdigit
            cases hdigit
          rw [List.singleton_append, exponent?, if_pos hletter, hdigits]
          · rfl
          · exact hsigned '+' rfl
          · exact hsigned '-' rfl
      | plus =>
          rw [List.cons_append, List.singleton_append]
          simp only [exponent?, hletter, if_true, hdigits]
          rfl
      | minus =>
          rw [List.cons_append, List.singleton_append]
          simp only [exponent?, hletter, if_true, hdigits]
          rfl

theorem isNumberChar_of_mem_map (below : ∀ d ∈ ds, d < 10) :
    ∀ c ∈ ds.map Nat.digitChar, Token.isNumberChar c = true := by
  intro c hc
  rw [Token.isNumberChar, isDigit_of_mem_map below c hc]
  rfl

end

variable {n : Numeral} {spelling : List Char}

theorem isNumberChar_of_spells (h : n.Spells spelling) :
    ∀ c ∈ spelling, Token.isNumberChar c = true := by
  cases h with
  | @parts negative ds fs e whole fraction exponent hwhole hfraction hexponent =>
      simp only [List.forall_mem_append]
      refine ⟨?_, ?_, ?_, ?_⟩
      · cases negative with
        | true => exact List.forall_mem_singleton.2 rfl
        | false => nofun
      · cases hwhole with
        | digits filled below => exact isNumberChar_of_mem_map below
      · cases hfraction with
        | absent => nofun
        | digits filled below => exact List.forall_mem_cons.2 ⟨rfl, isNumberChar_of_mem_map below⟩
      · cases hexponent with
        | absent => nofun
        | mark letter hsign filled below =>
            refine List.forall_mem_append.2
              ⟨List.forall_mem_cons.2 ⟨?_, ?_⟩, isNumberChar_of_mem_map below⟩
            · rcases letter with rfl | rfl <;> rfl
            · cases hsign with
              | absent => nofun
              | plus => exact List.forall_mem_singleton.2 rfl
              | minus => exact List.forall_mem_singleton.2 rfl

theorem exists_cons_of_wholeSpells {ds : List Nat} {whole : List Char} (h : WholeSpells ds whole) :
    ∃ c digits, whole = c :: digits ∧ c.isDigit = true := by
  cases h with
  | digits filled below =>
      obtain ⟨d, ds, rfl⟩ := List.exists_cons_of_ne_nil filled
      exact ⟨_, _, rfl, isDigit_digitChar d (below d List.mem_cons_self)⟩

theorem ofChars?_of_spells (h : n.Spells spelling) : ofChars? spelling = some n := by
  cases h with
  | @parts negative ds fs e whole fraction exponent hwhole hfraction hexponent =>
      have apart := isDigit_head?_of_fractionSpells hfraction
        (isDigit_head?_of_exponentSpells hexponent)
      have hunsigned : unsigned? negative (whole ++ (fraction ++ exponent)) = some ⟨negative, ds, fs, e⟩ := by
        rw [unsigned?, whole?_of_spells hwhole apart, Option.bind_eq_bind, Option.bind_some]
        simp only [fraction?_of_spells hfraction hexponent, Option.bind_eq_bind, Option.bind_some,
          exponent?_of_spells hexponent]
      cases negative with
      | true => exact hunsigned
      | false =>
          obtain ⟨c, digits, rfl, hdigit⟩ := exists_cons_of_wholeSpells hwhole
          change ofChars? (c :: (digits ++ (fraction ++ exponent))) = _
          rw [ofChars?]
          · exact hunsigned
          · rintro cs ⟨⟩
            cases hdigit

theorem exists_cons_of_spells (h : n.Spells spelling) :
    ∃ c digits, spelling = c :: digits ∧ (c = '-' ∨ c.isDigit = true) := by
  cases h with
  | @parts negative ds fs e whole fraction exponent hwhole hfraction hexponent =>
      cases negative with
      | true => exact ⟨'-', _, rfl, .inl rfl⟩
      | false =>
          obtain ⟨c, digits, rfl, hdigit⟩ := exists_cons_of_wholeSpells hwhole
          exact ⟨c, _, rfl, .inr hdigit⟩

end Numeral

namespace Token

/-- How a token may be written. -/
inductive Spells : Token → List Char → Prop
  | mark {t : Token} {c : Char} (h : t.mark? = some c) : Spells t [c]
  | null : Spells .null ['n', 'u', 'l', 'l']
  | true : Spells (.bool true) ['t', 'r', 'u', 'e']
  | false : Spells (.bool false) ['f', 'a', 'l', 's', 'e']
  | number {n : Numeral} {spelling : List Char} (h : n.Spells spelling) : Spells (.number n) spelling
  | text {s : Option String} {spelling : List Char} (h : TextSpells s spelling) :
      Spells (.text s) spelling

/-- A mark is read whatever follows it, any other token if nothing goes on with it. -/
theorem reads_of_spells {t : Token} {spelling rest : List Char} (h : t.Spells spelling)
    (apart : t.mark? = none → Apart rest) : Reads (spelling ++ rest) [t] rest := by
  cases h with
  | mark h => exact reads_mark h rest
  | null => exact reads_null (apart rfl)
  | true => exact reads_true (apart rfl)
  | false => exact reads_false (apart rfl)
  | number h =>
      have hread := Numeral.ofChars?_of_spells h
      have hall := Numeral.isNumberChar_of_spells h
      obtain ⟨c, digits, rfl, first⟩ := Numeral.exists_cons_of_spells h
      exact reads_number first (List.forall_mem_cons.1 hall).2 hread (apart rfl)
  | text h => exact reads_of_textSpells h rest

end Token

end Lineage.Json
