import Mathlib
import Lineage.Json.Printer
import Lineage.Proofs.Json.Spelling

/-! Integers as they are printed. Their digits have no zero in front, so that they are one numeral. Main
statement: a printed integer spells its numeral, and its value is got back from that. -/

namespace Lineage.Json.Numeral

/-- No zero stands before other digits. -/
theorem head?_toDigits {n : Nat} (h : (Nat.toDigits 10 n).head? = some '0') : n = 0 := by
  induction n using Nat.strong_induction_on with
  | _ n ih =>
      by_cases hn : n < 10
      · rw [Nat.toDigits_of_lt_base hn] at h
        exact Nat.digitChar_eq_zero.1 (Option.some.inj h)
      · rw [Nat.toDigits_of_base_le (by decide) (Nat.not_lt.1 hn), List.head?_append] at h
        have hne : Nat.toDigits 10 (n / 10) ≠ [] := Nat.toDigits_ne_nil
        obtain ⟨c, hc⟩ := Option.isSome_iff_exists.1 (List.isSome_head?.2 hne)
        rw [hc, Option.some_or, ← hc] at h
        have hzero := ih (n / 10) (by omega) h
        omega

theorem isDigit_toDigits {n : Nat} {c : Char} (h : c ∈ Nat.toDigits 10 n) : c.isDigit = true :=
  Nat.isDigit_of_mem_toDigits (by decide) (by decide) h

theorem digitValue_lt {c : Char} (h : c.isDigit = true) : digitValue c < 10 := by
  obtain ⟨-, hle⟩ := Char.isDigit_iff_toNat.1 h
  have hzero : '0'.toNat = 48 := rfl
  have hnine : '9'.toNat = 57 := rfl
  rw [digitValue]
  omega

theorem digitChar_digitValue {c : Char} (h : c.isDigit = true) : Nat.digitChar (digitValue c) = c := by
  obtain ⟨hge, -⟩ := Char.isDigit_iff_toNat.1 h
  have hzero : '0'.toNat = 48 := rfl
  rw [← Char.toNat_inj, Nat.toNat_digitChar_of_lt_ten (digitValue_lt h), digitValue]
  omega

theorem wholeSpells_toDigits (n : Nat) :
    WholeSpells ((Nat.toDigits 10 n).map digitValue) (Nat.toDigits 10 n) := by
  have hchars : ((Nat.toDigits 10 n).map digitValue).map Nat.digitChar = Nat.toDigits 10 n := by
    rw [List.map_map]
    refine (List.map_congr_left fun c hc => ?_).trans (List.map_id _)
    exact digitChar_digitValue (isDigit_toDigits hc)
  have hspells : WholeSpells ((Nat.toDigits 10 n).map digitValue)
      (((Nat.toDigits 10 n).map digitValue).map Nat.digitChar) := by
    refine .digits (mt List.map_eq_nil_iff.1 Nat.toDigits_ne_nil) ?_ fun hzero => ?_
    · intro d hd
      obtain ⟨c, hc, rfl⟩ := List.mem_map.1 hd
      exact digitValue_lt (isDigit_toDigits hc)
    · have hhead := congrArg (Option.map Nat.digitChar) hzero
      rw [← List.head?_map, hchars] at hhead
      rw [head?_toDigits hhead]
      rfl
  rwa [hchars] at hspells

theorem chars_natCast (n : Nat) : Number.chars (.integer n) = Nat.toDigits 10 n :=
  Nat.toList_repr

theorem chars_negSucc (n : Nat) :
    Number.chars (.integer (.negSucc n)) = '-' :: Nat.toDigits 10 (n + 1) := by
  rw [Number.chars, Int.toString_eq_repr, Int.repr, String.toList_append, Nat.toList_repr]
  rfl

theorem spells_integer (n : Int) : (ofInt n).Spells (Number.chars (.integer n)) := by
  cases n with
  | ofNat n =>
      have hspells : (ofInt n).Spells ([] ++ (Nat.toDigits 10 n ++ ([] ++ []))) :=
        .parts (wholeSpells_toDigits n) .absent .absent
      rw [Int.ofNat_eq_natCast, chars_natCast]
      rwa [List.append_nil, List.append_nil] at hspells
  | negSucc n =>
      have hspells : (ofInt (.negSucc n)).Spells (['-'] ++ (Nat.toDigits 10 (n + 1) ++ ([] ++ []))) := by
        rw [ofInt, decide_eq_true (Int.negSucc_lt_zero n)]
        exact .parts (wholeSpells_toDigits (n + 1)) .absent .absent
      rw [chars_negSucc]
      rwa [List.append_nil, List.append_nil] at hspells

theorem ofDigits_toDigits (n : Nat) : ofDigits ((Nat.toDigits 10 n).map digitValue) = n := by
  have hfold : ∀ (cs : List Char) (m : Nat), (cs.map digitValue).foldl (fun n d => n * 10 + d) m =
      Nat.ofDigitChars 10 cs m := by
    intro cs
    induction cs with
    | nil => exact fun _ => rfl
    | cons c cs ih =>
        intro m
        rw [List.map_cons, List.foldl_cons, ih, Nat.ofDigitChars_cons, Nat.mul_comm]
        rfl
  rw [ofDigits, hfold, Nat.ofDigitChars_ten_toDigits]

/-- A word is read back from the digits of its value. -/
theorem word?_ofInt (w : UInt64) : (ofInt w.toNat).word? = some w := by
  have hdigits : ofDigits (ofInt w.toNat).whole = w.toNat := ofDigits_toDigits w.toNat
  have hwhole : ((ofInt w.toNat).isWhole && !(ofInt w.toNat).negative &&
      decide (w.toNat ≤ maxSignificand)) = true := by
    have hle : w.toNat ≤ maxSignificand := Nat.le_pred_of_lt w.toNat_lt
    rw [decide_eq_true hle]
    rfl
  rw [word?, hdigits, if_pos hwhole, UInt64.ofNat_toNat]

end Lineage.Json.Numeral
