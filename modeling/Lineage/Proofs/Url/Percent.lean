import Mathlib
import Lineage.Text.Utf8
import Lineage.Url.Percent

/-! Percent-encoding is undone by decoding, whatever is reserved besides the percent sign itself. What
is written holds none of the reserved characters but the percent sign. -/

namespace Lineage

namespace Text.Utf8

@[simp] theorem encode_nil : encode [] = [] := rfl

@[simp] theorem encode_cons (c : Char) (cs : List Char) :
    encode (c :: cs) = String.utf8EncodeChar c ++ encode cs := rfl

@[simp] theorem encode_append (cs ds : List Char) : encode (cs ++ ds) = encode cs ++ encode ds :=
  List.flatMap_append

theorem encode_injective {cs ds : List Char} (h : encode cs = encode ds) : cs = ds := by
  have hbytes : cs.utf8Encode = ds.utf8Encode := congrArg List.toByteArray h
  have hdecoded : some cs.toArray = some ds.toArray := by
    rw [← List.utf8Decode?_utf8Encode, hbytes, List.utf8Decode?_utf8Encode]
  exact List.toArray_inj (Option.some.inj hdecoded)

theorem utf8EncodeChar_of_lt {c : Char} (h : c.toNat < 128) :
    String.utf8EncodeChar c = [UInt8.ofNat c.toNat] := by
  have hle : c.val.toNat ≤ 127 := Nat.le_of_lt_succ h
  rw [String.utf8EncodeChar, if_pos hle, Char.toNat]

end Text.Utf8

namespace Percent

open Text (Utf8.encode)
open Text.Utf8 (utf8EncodeChar_of_lt)

theorem map_hexValue?_hexDigit :
    ∀ n < 16, (String.utf8EncodeChar (hexDigit n)).map hexValue? = [some n] := by
  decide

/-- Both cases of the decoder that keep the first byte. -/
theorem decode_cons_of_ne {a : UInt8} (h : a ≠ 37) (rest : List UInt8) :
    decode (a :: rest) = a :: decode rest := by
  match rest with
  | [] => rfl
  | [_] => rfl
  | _ :: _ :: _ => simp [decode, h]

theorem decode_encodeByte (b : UInt8) (rest : List UInt8) :
    decode (Utf8.encode (encodeByte b) ++ rest) = b :: decode rest := by
  have hb : b.toNat < 256 := b.toNat_lt
  obtain ⟨high, hhigh, hhighValue⟩ :=
    List.map_eq_singleton_iff.1 (map_hexValue?_hexDigit (b.toNat / 16) (by omega))
  obtain ⟨low, hlow, hlowValue⟩ :=
    List.map_eq_singleton_iff.1 (map_hexValue?_hexDigit (b.toNat % 16) (by omega))
  have htext : Utf8.encode (encodeByte b) = [37, high, low] := by
    rw [encodeByte, Text.Utf8.encode_cons, Text.Utf8.encode_cons, Text.Utf8.encode_cons, hhigh, hlow]
    rfl
  rw [htext]
  have hsum : b.toNat / 16 * 16 + b.toNat % 16 = b.toNat := by omega
  simp [decode, hhighValue, hlowValue, hsum]

theorem decode_flatMap_encodeByte (bytes rest : List UInt8) :
    decode (Utf8.encode (bytes.flatMap encodeByte) ++ rest) = bytes ++ decode rest := by
  induction bytes with
  | nil => rfl
  | cons b bytes ih =>
      rw [List.flatMap_cons, Text.Utf8.encode_append, List.append_assoc, decode_encodeByte, ih,
        List.cons_append]

section

variable {reserved : Char → Bool}

theorem decode_encodeChar (h : reserved '%' = true) (c : Char) (rest : List UInt8) :
    decode (Utf8.encode (encodeChar reserved c) ++ rest) = String.utf8EncodeChar c ++ decode rest := by
  rw [encodeChar]
  split
  · rename_i hkept
    rw [Bool.and_eq_true, decide_eq_true_eq, Bool.not_eq_true'] at hkept
    -- What is kept is no percent sign, so that the decoder does not look behind it.
    have hbyte : UInt8.ofNat c.toNat ≠ 37 := by
      intro heq
      have hc : c.toNat = 37 := by
        have htoNat := congrArg UInt8.toNat heq
        rwa [UInt8.toNat_ofNat_of_lt' (hkept.1.trans (by decide))] at htoNat
      obtain rfl : c = '%' := Char.toNat_inj.1 hc
      exact absurd (h.symm.trans hkept.2) (by decide)
    rw [Text.Utf8.encode_cons, Text.Utf8.encode_nil, List.append_nil, utf8EncodeChar_of_lt hkept.1,
      List.singleton_append, decode_cons_of_ne hbyte, List.singleton_append]
  · exact decode_flatMap_encodeByte _ rest

theorem decode_encode (h : reserved '%' = true) (cs : List Char) :
    decode (Utf8.encode (encode reserved cs)) = Utf8.encode cs := by
  induction cs with
  | nil => rfl
  | cons c cs ih =>
      rw [encode, List.flatMap_cons, Text.Utf8.encode_append, decode_encodeChar h,
        Text.Utf8.encode_cons]
      exact congrArg _ ih

theorem encode_injective (h : reserved '%' = true) {cs ds : List Char}
    (heq : encode reserved cs = encode reserved ds) : cs = ds := by
  refine Text.Utf8.encode_injective ?_
  rw [← decode_encode h cs, heq, decode_encode h]

/-- Nothing is written but characters that are not reserved, percent signs and digits. -/
theorem mem_encode {c : Char} {cs : List Char} (h : c ∈ encode reserved cs) :
    (c ∈ cs ∧ c.toNat < 128 ∧ reserved c = false) ∨ c = '%' ∨ ∃ n < 16, c = hexDigit n := by
  obtain ⟨d, hd, hc⟩ := List.mem_flatMap.1 h
  rw [encodeChar] at hc
  split at hc
  · rename_i hkept
    obtain rfl := List.mem_singleton.1 hc
    rw [Bool.and_eq_true, decide_eq_true_eq, Bool.not_eq_true'] at hkept
    exact .inl ⟨hd, hkept⟩
  · obtain ⟨b, -, hb⟩ := List.mem_flatMap.1 hc
    have hlt : b.toNat < 256 := b.toNat_lt
    simp only [encodeByte, List.mem_cons, List.not_mem_nil, or_false] at hb
    rcases hb with rfl | rfl | rfl
    · exact .inr (.inl rfl)
    · exact .inr (.inr ⟨_, by omega, rfl⟩)
    · exact .inr (.inr ⟨_, by omega, rfl⟩)

theorem eq_nil_of_encode {cs : List Char} (h : encode reserved cs = []) : cs = [] := by
  cases cs with
  | nil => rfl
  | cons c cs =>
      have hchar : encodeChar reserved c = [] := (List.append_eq_nil_iff.1 h).1
      rw [encodeChar] at hchar
      split at hchar
      · cases hchar
      · rw [List.flatMap_eq_nil_iff] at hchar
        cases hbytes : String.utf8EncodeChar c with
        | nil => exact absurd hbytes (String.utf8EncodeChar_ne_nil)
        | cons b bytes => cases hchar b (hbytes ▸ List.mem_cons_self)

end

end Percent

end Lineage
