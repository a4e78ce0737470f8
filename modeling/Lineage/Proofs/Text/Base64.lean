import Mathlib
import Lineage.Proofs.Text.Blank
import Lineage.Proofs.Text.Utf8
import Lineage.Text.Base64

/-! Base64 is read as it is written. Bytes are cut into values of six bits, and such values are whole if
they can be joined to bytes again with only zeros left over. Main statement: a text is read exactly if it
is the written form of some bytes, and those are what is read. As a text the written form has no blanks. -/

namespace Lineage.Text.Base64

/-- The values of the symbols that the bytes are written with. -/
def sextets : List UInt8 → List Nat
  | a :: b :: c :: rest =>
    a.toNat / 4 :: (a.toNat % 4 * 16 + b.toNat / 16) :: (b.toNat % 16 * 4 + c.toNat / 64)
      :: c.toNat % 64 :: sextets rest
  | [a, b] => [a.toNat / 4, a.toNat % 4 * 16 + b.toNat / 16, b.toNat % 16 * 4]
  | [a] => [a.toNat / 4, a.toNat % 4 * 16]
  | [] => []

/-- What is missing from the last group of four. -/
def missing (count : Nat) : Nat := (4 - count % 4) % 4

theorem missing_add_four (count : Nat) : missing (count + 4) = missing count := by
  rw [missing, missing, Nat.add_mod_right]

/-- The values are read as whole bytes, with no bits left over but zeros. -/
structure Whole (values : List Nat) : Prop where
  lt : ∀ v ∈ values, v < 64
  fits : values.length % 4 ≠ 1
  clear : ∀ last ∈ values.getLast?, spareBits values.length last = 0

theorem symbolOf_of_symbolValue {b : UInt8} {v : Nat} (h : symbolValue b = some v) :
    v < 64 ∧ symbolOf v = b := by
  have all : ∀ n < 256, ∀ v ∈ symbolValue (UInt8.ofNat n), v < 64 ∧ symbolOf v = UInt8.ofNat n := by
    decide +kernel
  have hb := all b.toNat b.toNat_lt v
  rw [UInt8.ofNat_toNat] at hb
  exact hb h

theorem encode_eq (bytes : List UInt8) :
    encode bytes = (sextets bytes).map symbolOf ++ List.replicate (missing (sextets bytes).length) pad := by
  fun_induction sextets bytes with
  | case1 a b c rest ih =>
      simp only [encode, ih, List.length_cons, List.map_cons, List.cons_append]
      rw [← missing_add_four]
  | case2 a b => rfl
  | case3 a => rfl
  | case4 => rfl

theorem ofNat_eq_iff {n : Nat} {b : UInt8} : UInt8.ofNat n = b ↔ n % 256 = b.toNat := by
  rw [← UInt8.toNat_inj, UInt8.toNat_ofNat']

theorem bytesOf_sextets (bytes : List UInt8) : bytesOf (sextets bytes) = bytes := by
  fun_induction sextets bytes with
  | case1 a b c rest ih =>
      have ha := a.toNat_lt
      have hb := b.toNat_lt
      have hc := c.toNat_lt
      simp only [bytesOf, ih, List.cons.injEq, ofNat_eq_iff, and_true]
      omega
  | case2 a b =>
      have ha := a.toNat_lt
      have hb := b.toNat_lt
      simp only [bytesOf, List.cons.injEq, ofNat_eq_iff, and_true]
      omega
  | case3 a =>
      have ha := a.toNat_lt
      simp only [bytesOf, List.cons.injEq, ofNat_eq_iff, and_true]
      omega
  | case4 => rfl

theorem spareBits_add_four (count last : Nat) : spareBits (count + 4) last = spareBits count last := by
  rw [spareBits, spareBits, Nat.add_mod_right]

theorem Whole.nil : Whole [] := ⟨by simp, by simp, by simp⟩

theorem whole_append_iff {a b c d : Nat} {rest : List Nat} :
    Whole (a :: b :: c :: d :: rest) ↔ (a < 64 ∧ b < 64 ∧ c < 64 ∧ d < 64) ∧ Whole rest := by
  have hlength : (a :: b :: c :: d :: rest).length = rest.length + 4 := rfl
  have hclear : (∀ last ∈ (a :: b :: c :: d :: rest).getLast?,
      spareBits (a :: b :: c :: d :: rest).length last = 0) ↔
        ∀ last ∈ rest.getLast?, spareBits rest.length last = 0 := by
    simp only [hlength, spareBits_add_four]
    cases rest with
    | nil => simp [spareBits]
    | cons e rest => simp
  constructor
  · intro h
    have hlt := h.lt
    have hfits := h.fits
    simp only [List.forall_mem_cons] at hlt
    rw [hlength, Nat.add_mod_right] at hfits
    exact ⟨⟨hlt.1, hlt.2.1, hlt.2.2.1, hlt.2.2.2.1⟩, hlt.2.2.2.2, hfits, hclear.1 h.clear⟩
  · rintro ⟨⟨ha, hb, hc, hd⟩, h⟩
    refine ⟨?_, ?_, hclear.2 h.clear⟩
    · simp only [List.forall_mem_cons]
      exact ⟨ha, hb, hc, hd, h.lt⟩
    · rw [hlength, Nat.add_mod_right]
      exact h.fits

theorem whole_sextets (bytes : List UInt8) : Whole (sextets bytes) := by
  fun_induction sextets bytes with
  | case1 a b c rest ih =>
      have ha := a.toNat_lt
      have hb := b.toNat_lt
      have hc := c.toNat_lt
      exact whole_append_iff.2 ⟨⟨by omega, by omega, by omega, by omega⟩, ih⟩
  | case2 a b =>
      have ha := a.toNat_lt
      have hb := b.toNat_lt
      refine ⟨?_, by simp, ?_⟩
      · simp only [List.forall_mem_cons]
        exact ⟨by omega, by omega, by omega, by simp⟩
      · simp [spareBits]
  | case3 a =>
      have ha := a.toNat_lt
      refine ⟨?_, by simp, ?_⟩
      · simp only [List.forall_mem_cons]
        exact ⟨by omega, by omega, by simp⟩
      · simp [spareBits]
  | case4 => exact .nil

theorem sextets_bytesOf {values : List Nat} (h : Whole values) : sextets (bytesOf values) = values := by
  fun_induction bytesOf values with
  | case1 a b c d rest ih =>
      obtain ⟨⟨ha, hb, hc, hd⟩, hrest⟩ := whole_append_iff.1 h
      simp only [sextets, ih hrest, UInt8.toNat_ofNat', List.cons.injEq, and_true]
      omega
  | case2 a b c =>
      have hlt := h.lt
      have hclear := h.clear c rfl
      simp only [List.forall_mem_cons] at hlt
      simp [spareBits] at hclear
      simp only [sextets, UInt8.toNat_ofNat', List.cons.injEq, and_true]
      omega
  | case3 a b =>
      have hlt := h.lt
      have hclear := h.clear b rfl
      simp only [List.forall_mem_cons] at hlt
      simp [spareBits] at hclear
      simp only [sextets, UInt8.toNat_ofNat', List.cons.injEq, and_true]
      omega
  | case4 values four three two =>
      rcases values with _ | ⟨a, _ | ⟨b, _ | ⟨c, _ | ⟨d, rest⟩⟩⟩⟩
      · rfl
      · exact absurd rfl h.fits
      · exact (two a b rfl).elim
      · exact (three a b c rfl).elim
      · exact (four a b c d rest rfl).elim

/-! Reading. -/

theorem isSymbol_symbolOf {v : Nat} (h : v < 64) : isSymbol (symbolOf v) = true := by
  rw [isSymbol, symbolValue_symbolOf h]
  rfl

theorem filterMap_symbolOf {values : List Nat} (h : ∀ v ∈ values, v < 64) :
    (values.map symbolOf).filterMap symbolValue = values := by
  induction values with
  | nil => rfl
  | cons v values ih =>
      obtain ⟨hv, hvalues⟩ := List.forall_mem_cons.1 h
      rw [List.map_cons, List.filterMap_cons, symbolValue_symbolOf hv, ih hvalues]

theorem exists_values {symbols : List UInt8} (h : ∀ b ∈ symbols, isSymbol b = true) :
    ∃ values : List Nat, (∀ v ∈ values, v < 64) ∧ symbols = values.map symbolOf := by
  induction symbols with
  | nil => exact ⟨[], by simp, rfl⟩
  | cons b symbols ih =>
      obtain ⟨hb, hsymbols⟩ := List.forall_mem_cons.1 h
      obtain ⟨values, hlt, rfl⟩ := ih hsymbols
      obtain ⟨v, hv⟩ := Option.isSome_iff_exists.1 hb
      obtain ⟨hvlt, rfl⟩ := symbolOf_of_symbolValue hv
      exact ⟨v :: values, List.forall_mem_cons.2 ⟨hvlt, hlt⟩, rfl⟩

variable {values : List Nat} {rest text bytes : List UInt8}

theorem finish_eq_ok_iff (h : ∀ v ∈ values, v < 64) :
    decode.finish (values.map symbolOf) values.length = .ok bytes ↔
      (∀ last ∈ values.getLast?, spareBits values.length last = 0) ∧ bytes = bytesOf values := by
  rw [decode.finish, filterMap_symbolOf h, List.getLast?_map]
  cases values.getLast? with
  | none => simp [eq_comm]
  | some last =>
      by_cases hclear : spareBits values.length last = 0
      · simp [hclear, eq_comm]
      · simp [hclear]

theorem not_dangling (h : decode text = .ok bytes) : text.length % 4 ≠ 1 := by
  intro hdangling
  rw [decode, hdangling] at h
  simp only [BEq.rfl, if_true] at h
  split at h
  · split at h <;> cases h
  · cases h

/-- Behind the symbols stands the padding that they need, or the text is refused. -/
theorem padded_of_decode (h : decode text = .ok bytes) :
    (text.takeWhile isSymbol).length % 4 ≠ 1 ∧
      text.dropWhile isSymbol = List.replicate (missing (text.takeWhile isSymbol).length) pad ∧
      decode.finish (text.takeWhile isSymbol) (text.takeWhile isSymbol).length = .ok bytes := by
  have hdangling := not_dangling h
  rw [decode, if_neg (by rwa [beq_iff_eq])] at h
  split at h
  · rename_i b rest hrest
    split at h
    · cases h
    split at h
    · cases h
    rename_i hcond hfull
    simp only [Bool.or_eq_true, not_or, bne_iff_ne, ne_eq, not_not, decide_eq_true_eq, Bool.not_eq_true',
      Bool.not_eq_false, List.all_eq_true, beq_iff_eq] at hcond hfull
    obtain ⟨⟨⟨-, hcount⟩, hall⟩, -⟩ := hcond
    refine ⟨by omega, ?_, h⟩
    rw [List.eq_replicate_iff, missing]
    exact ⟨by omega, hall⟩
  · rename_i hrest
    split at h
    · cases h
    rename_i hcount
    rw [bne_iff_ne, ne_eq, not_not] at hcount
    refine ⟨by omega, ?_, h⟩
    rw [hrest, missing, hcount]
    rfl

theorem exists_whole_of_decode (h : decode text = .ok bytes) :
    ∃ values, Whole values ∧
      text = values.map symbolOf ++ List.replicate (missing values.length) pad ∧
      bytes = bytesOf values := by
  obtain ⟨values, hlt, hsymbols⟩ :=
    exists_values (fun b (hb : b ∈ text.takeWhile isSymbol) => List.mem_takeWhile_imp hb)
  obtain ⟨hfits, hpads, hfinish⟩ := padded_of_decode h
  rw [hsymbols, List.length_map] at hfits hpads hfinish
  obtain ⟨hclear, hbytes⟩ := (finish_eq_ok_iff hlt).1 hfinish
  refine ⟨values, ⟨hlt, hfits, hclear⟩, ?_, hbytes⟩
  rw [← hpads, ← hsymbols, List.takeWhile_append_dropWhile]

theorem decode_of_whole (h : Whole values) :
    decode (values.map symbolOf ++ List.replicate (missing values.length) pad) =
      .ok (bytesOf values) := by
  have hsymbols : ∀ b ∈ values.map symbolOf, isSymbol b = true :=
    List.forall_mem_map.2 fun v hv => isSymbol_symbolOf (h.lt v hv)
  have hfinish := (finish_eq_ok_iff h.lt).2 ⟨h.clear, rfl⟩
  have hcases : values.length % 4 = 0 ∨ values.length % 4 = 2 ∨ values.length % 4 = 3 := by
    have hfits := h.fits
    omega
  have hpad : isSymbol pad = false := rfl
  rw [decode, List.takeWhile_append_of_pos hsymbols, List.dropWhile_append_of_pos hsymbols, missing]
  rcases hcases with hcount | hcount | hcount
  · simp [hcount, hfinish]
  · have htotal : (values.length + 2) % 4 = 0 := by omega
    simp [hcount, hfinish, hpad, htotal]
  · have htotal : (values.length + 1) % 4 = 0 := by omega
    simp [hcount, hfinish, hpad, htotal]

/-- Reading accepts what is written, and nothing else. -/
theorem decode_eq_ok_iff : decode text = .ok bytes ↔ text = encode bytes := by
  constructor
  · intro h
    obtain ⟨values, hwhole, htext, hbytes⟩ := exists_whole_of_decode h
    rw [htext, hbytes, encode_eq, sextets_bytesOf hwhole]
  · rintro rfl
    rw [encode_eq, decode_of_whole (whole_sextets bytes), bytesOf_sextets]

/-! As a text. -/

/-- The bytes in base64, as characters. -/
def written (bytes : List UInt8) : String :=
  String.ofList ((encode bytes).map fun b => Char.ofNat b.toNat)

theorem mem_encode {b : UInt8} (h : b ∈ encode bytes) : b = pad ∨ ∃ v < 64, b = symbolOf v := by
  rw [encode_eq] at h
  rcases List.mem_append.1 h with h | h
  · obtain ⟨v, hv, rfl⟩ := List.mem_map.1 h
    exact .inr ⟨v, (whole_sextets bytes).lt v hv, rfl⟩
  · exact .inl (List.eq_of_mem_replicate h)

theorem lt_of_mem_encode {b : UInt8} (h : b ∈ encode bytes) : 0x20 < b.toNat ∧ b.toNat < 0x80 := by
  have all : ∀ v < 64, 0x20 < (symbolOf v).toNat ∧ (symbolOf v).toNat < 0x80 := by decide
  rcases mem_encode h with rfl | ⟨v, hv, rfl⟩
  · decide
  · exact all v hv

theorem toNat_ofNat_of_lt {n : Nat} (h : n < 0x80) : (Char.ofNat n).toNat = n := by
  rw [Char.toNat_ofNat, if_pos (.inl (h.trans (by decide)))]

theorem not_isBlank_of_mem_written {c : Char} (h : c ∈ (written bytes).toList) : isBlank c = false := by
  rw [written, String.toList_ofList] at h
  obtain ⟨b, hb, rfl⟩ := List.mem_map.1 h
  obtain ⟨hlow, hhigh⟩ := lt_of_mem_encode hb
  have all : ∀ n < 0x80, 0x20 < n → isBlank (Char.ofNat n) = false := by decide
  exact all b.toNat hhigh hlow

theorem trim_written (bytes : List UInt8) : trim (written bytes) = written bytes := by
  rw [trim, trimmed_of_not_isBlank fun _ => not_isBlank_of_mem_written, String.ofList_toList]

theorem encode_written (bytes : List UInt8) : Utf8.encode (written bytes).toList = encode bytes := by
  have hascii {bs : List UInt8} (h : ∀ b ∈ bs, b.toNat < 0x80) :
      Utf8.encode (bs.map fun b => Char.ofNat b.toNat) = bs := by
    induction bs with
    | nil => rfl
    | cons b bs ih =>
        obtain ⟨hb, hbs⟩ := List.forall_mem_cons.1 h
        have hsame := toNat_ofNat_of_lt hb
        rw [List.map_cons, Utf8.encode_cons, ih hbs, Utf8.utf8EncodeChar_of_lt (by rwa [hsame]), hsame,
          UInt8.ofNat_toNat, List.singleton_append]
  rw [written, String.toList_ofList]
  exact hascii fun b hb => (lt_of_mem_encode hb).2

theorem encode_eq_iff_written {cs : List Char} :
    Utf8.encode cs = encode bytes ↔ String.ofList cs = written bytes := by
  rw [← encode_written]
  constructor
  · intro h
    rw [Utf8.encode_injective h, String.ofList_toList]
  · intro h
    rw [← h, String.toList_ofList]

end Lineage.Text.Base64
