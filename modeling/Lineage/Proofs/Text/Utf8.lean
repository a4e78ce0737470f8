import Mathlib
import Lineage.Proofs.Url.Percent
import Lineage.Text.Charset

/-! UTF-8 is read as it was written. A byte order mark would be taken off, and a text without one is got
back from its bytes. -/

namespace Lineage.Text

namespace Utf8

/-- Of the bytes that open three, some may not be followed by all that continue a character. -/
theorem lead_three : ∀ h < 16, lead (h + 224) =
    ([], .tail 2 (if h = 0 then 0xA0 else 0x80) (if h = 13 then 0x9F else 0xBF) h) := by
  decide

theorem lead_four : ∀ h < 5, lead (h + 240) =
    ([], .tail 3 (if h = 0 then 0x90 else 0x80) (if h = 4 then 0x8F else 0xBF) h) := by
  decide

theorem lead_two : ∀ h < 32, 2 ≤ h → lead (h + 192) = ([], .tail 1 0x80 0xBF h) := by
  decide

section

variable {b owed low high value : Nat} {cs : List Char} {opened : Pending}

theorem decodeFrom_cons (pending : Pending) (hb : b < 256) (rest : List UInt8) :
    decodeFrom pending (UInt8.ofNat b :: rest) =
      (step pending b).1 ++ decodeFrom (step pending b).2 rest := by
  have hbyte : (UInt8.ofNat b).toNat = b := UInt8.toNat_ofNat_of_lt' hb
  cases pending <;> rw [decodeFrom, hbyte]

theorem decodeFrom_lead (h : lead b = (cs, opened)) (hb : b < 256) (rest : List UInt8) :
    decodeFrom .none (UInt8.ofNat b :: rest) = cs ++ decodeFrom opened rest := by
  rw [decodeFrom_cons .none hb, step, h]

/-- A byte after which the character is still open. -/
theorem decodeFrom_more (hlow : low ≤ b) (hhigh : b ≤ high) (hb : b < 256) (rest : List UInt8) :
    decodeFrom (.tail (owed + 2) low high value) (UInt8.ofNat b :: rest) =
      decodeFrom (.tail (owed + 1) 0x80 0xBF (value * 64 + (b - 0x80))) rest := by
  simp [decodeFrom_cons _ hb, step, hlow, hhigh]

theorem decodeFrom_last (hlow : low ≤ b) (hhigh : b ≤ high) (hb : b < 256) (rest : List UInt8) :
    decodeFrom (.tail 1 low high value) (UInt8.ofNat b :: rest) =
      Char.ofNat (value * 64 + (b - 0x80)) :: decodeFrom .none rest := by
  simp [decodeFrom_cons _ hb, step, hlow, hhigh]

end

theorem decodeFrom_utf8EncodeChar (c : Char) (rest : List UInt8) :
    decodeFrom .none (String.utf8EncodeChar c ++ rest) = c :: decodeFrom .none rest := by
  have hvalid : c.toNat < 0xD800 ∨ (0xDFFF < c.toNat ∧ c.toNat < 0x110000) := c.valid
  have hvalue {n : Nat} (h : n = c.toNat) : Char.ofNat n = c := by rw [h, Char.ofNat_toNat]
  rw [String.utf8EncodeChar, ← Char.toNat]
  split_ifs with hone htwo hthree
  · have hlead : lead c.toNat = ([Char.ofNat c.toNat], .none) := if_pos (by omega)
    rw [List.singleton_append, decodeFrom_lead hlead (by omega), Char.ofNat_toNat]
    rfl
  · have hlead := lead_two (c.toNat / 64 % 32) (by omega) (by omega)
    rw [List.cons_append, decodeFrom_lead hlead (by omega), List.nil_append, List.singleton_append,
      decodeFrom_last (by omega) (by omega) (by omega), hvalue (by omega)]
  · have hlead := lead_three (c.toNat / 4096 % 16) (by omega)
    have hlow : (if c.toNat / 4096 % 16 = 0 then 0xA0 else 0x80) ≤ c.toNat / 64 % 64 + 128 := by
      split <;> omega
    have hhigh : c.toNat / 64 % 64 + 128 ≤ if c.toNat / 4096 % 16 = 13 then 0x9F else 0xBF := by
      split <;> omega
    rw [List.cons_append, decodeFrom_lead hlead (by omega), List.nil_append, List.cons_append,
      decodeFrom_more hlow hhigh (by omega), List.singleton_append,
      decodeFrom_last (by omega) (by omega) (by omega), hvalue (by omega)]
  · have hlead := lead_four (c.toNat / 262144 % 8) (by omega)
    have hlow : (if c.toNat / 262144 % 8 = 0 then 0x90 else 0x80) ≤ c.toNat / 4096 % 64 + 128 := by
      split <;> omega
    have hhigh : c.toNat / 4096 % 64 + 128 ≤ if c.toNat / 262144 % 8 = 4 then 0x8F else 0xBF := by
      split <;> omega
    rw [List.cons_append, decodeFrom_lead hlead (by omega), List.nil_append, List.cons_append,
      decodeFrom_more hlow hhigh (by omega), List.cons_append,
      decodeFrom_more (by omega) (by omega) (by omega), List.singleton_append,
      decodeFrom_last (by omega) (by omega) (by omega), hvalue (by omega)]

theorem decodeLossy_encode (cs : List Char) : decodeLossy (encode cs) = cs := by
  rw [decodeLossy]
  induction cs with
  | nil => rfl
  | cons c cs ih => rw [encode_cons, decodeFrom_utf8EncodeChar, ih]

/-- No text begins with a byte that no character begins with. -/
theorem encode_ne_cons {b : UInt8} (h : lead b.toNat = ([replacement], .none)) (cs : List Char)
    (rest : List UInt8) : encode cs ≠ b :: rest := by
  intro heq
  have hcs : cs = replacement :: decodeLossy rest := by
    rw [← decodeLossy_encode cs, heq, ← UInt8.ofNat_toNat (x := b)]
    exact decodeFrom_lead h b.toNat_lt rest
  have hfirst : (0xEF : UInt8) = b := by
    rw [hcs] at heq
    exact (List.cons.inj heq).1
  rw [← hfirst] at h
  cases h

end Utf8

/-- Stands before a text to tell its encoding. -/
def orderMark : Char := '\uFEFF'

theorem ofBody_encode {contentType : Option String} {text : String}
    (charset : (contentType.map Charset.ofContentType).getD .utf8 = .utf8)
    (unmarked : text.toList.head? ≠ some orderMark) :
    ofBody contentType (Utf8.encode text.toList) = text := by
  have hdecode := Utf8.decodeLossy_encode text.toList
  have hsniff : Charset.sniff contentType (Utf8.encode text.toList) =
      (.utf8, Utf8.encode text.toList) := by
    rw [Charset.sniff, charset]
    · intro rest h
      rw [h] at hdecode
      exact unmarked (congrArg List.head? hdecode.symm)
    · exact fun rest => Utf8.encode_ne_cons rfl text.toList _
    · exact fun rest => Utf8.encode_ne_cons rfl text.toList _
  rw [ofBody, hsniff]
  change String.ofList (Utf8.decodeLossy (Utf8.encode text.toList)) = text
  rw [hdecode, String.ofList_toList]

end Lineage.Text
