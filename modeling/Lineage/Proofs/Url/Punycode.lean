import Mathlib
import Lineage.Url.Domain.Punycode

/-! Punycode is read as it was written, for labels of up to a thousand characters: no longer label is
written, and with more of them the indices would not fit. Main statement: `decode?_encode`. -/

namespace Lineage.Punycode

theorem digitValue?_digitChar : ∀ d < base, digitValue? (digitChar d) = some d := by
  decide

theorem one_le_threshold (place bias : Nat) : 1 ≤ threshold place bias := by
  rw [threshold]
  omega

theorem threshold_le (place bias : Nat) : threshold place bias ≤ 26 :=
  Nat.min_le_left ..

/-- What is left of a number behind one of its digits. -/
theorem rest_lt {t n : Nat} (hone : 1 ≤ t) (hle : t ≤ 26) (hn : t ≤ n) :
    (n - t) / (base - t) < n :=
  (Nat.div_le_self ..).trans_lt (by omega)

/-- A decoder between two numbers. -/
def Decoder.settled (chars : List Char) (point index bias : Nat) : Decoder :=
  { chars, point, index, start := index, weight := 1, place := base, bias }

/-- Where the last digit of a number takes the decoder, the index being what the number adds up to. -/
def Decoder.close (s : Decoder) (index : Nat) : Option Decoder :=
  let count := s.chars.length + 1
  let point := s.point + index / count
  let position := index % count
  if point < 0xD800 || (0xDFFF < point && point < 0x110000) then
    some (settled (s.chars.take position ++ Char.ofNat point :: s.chars.drop position) point
      (position + 1) (adapt (index - s.start) count (s.start == 0)))
  else none

/-- What the indices of a label of a thousand characters come to, and some more. -/
def maxIndex : Nat := 1200000000

/-- The least bias that no number leads to. -/
def maxBias : Nat := 216

namespace Decoder

variable {s : Decoder} {n d k fuel : Nat}

theorem step_last (hd : d < threshold s.place s.bias) (hindex : s.index + d * s.weight < UInt32.size) :
    s.step (digitChar d) = s.close (s.index + d * s.weight) := by
  have hbase : d < base := hd.trans_le ((threshold_le ..).trans (by decide))
  rw [step, digitValue?_digitChar d hbase, Option.bind_some]
  simp only [if_neg (Nat.not_le.2 hindex), if_pos hd]
  rfl

theorem step_more (hbase : d < base) (hd : threshold s.place s.bias ≤ d)
    (hindex : s.index + d * s.weight < UInt32.size)
    (hweight : s.weight * (base - threshold s.place s.bias) < UInt32.size) :
    s.step (digitChar d) =
      some
        { s with
          index := s.index + d * s.weight
          weight := s.weight * (base - threshold s.place s.bias)
          place := s.place + base } := by
  rw [step, digitValue?_digitChar d hbase, Option.bind_some]
  simp only [if_neg (Nat.not_le.2 hindex), if_neg (Nat.not_lt.2 hd), if_neg (Nat.not_le.2 hweight)]

/-- As long as thresholds are low, a weight is a power of 35; a number that goes on past a high one is
large beside its weight. -/
theorem weight_lt (hplace : s.place = base * (k + 1)) (hbias : s.bias < maxBias)
    (hweight : base * (k + 1) ≤ s.bias + 7 → s.weight ≤ Nat.pow 35 k)
    (hn : threshold s.place s.bias ≤ n) (hend : n * s.weight ≤ maxIndex) :
    s.weight * (base - threshold s.place s.bias) < UInt32.size := by
  by_cases hlow : base * (k + 1) ≤ s.bias + 7
  · have hk : k ≤ 5 := by
      simp only [base, maxBias] at hlow hbias
      omega
    calc s.weight * (base - threshold s.place s.bias)
        ≤ Nat.pow 35 k * 35 := by
          refine Nat.mul_le_mul (hweight hlow) ?_
          have hone := one_le_threshold s.place s.bias
          simp only [base]
          omega
      _ ≤ Nat.pow 35 5 * 35 := Nat.mul_le_mul_right 35 (Nat.pow_le_pow_right (by decide) hk)
      _ < UInt32.size := by decide
  · have hhigh : 8 ≤ threshold s.place s.bias := by
      rw [hplace, threshold]
      omega
    have hthird : s.weight * 8 ≤ maxIndex := by
      rw [Nat.mul_comm]
      exact (Nat.mul_le_mul_right s.weight (hhigh.trans hn)).trans hend
    calc s.weight * (base - threshold s.place s.bias)
        ≤ s.weight * 28 := Nat.mul_le_mul_left _ (by simp only [base]; omega)
      _ < UInt32.size := by
          simp only [maxIndex, UInt32.size] at hthird ⊢
          omega

theorem foldlM_number (hfuel : n < fuel) (hplace : s.place = base * (k + 1)) (hbias : s.bias < maxBias)
    (hweight : base * (k + 1) ≤ s.bias + 7 → s.weight ≤ Nat.pow 35 k)
    (hend : s.index + n * s.weight ≤ maxIndex) :
    (number s.bias fuel s.place n).foldlM step s = s.close (s.index + n * s.weight) := by
  have hsize : maxIndex < UInt32.size := by decide
  induction fuel generalizing s n k with
  | zero => omega
  | succ fuel ih =>
      have hone := one_le_threshold s.place s.bias
      have hle := threshold_le s.place s.bias
      rw [number]
      by_cases hlast : n < threshold s.place s.bias
      · simp only [if_pos hlast, List.foldlM_cons, List.foldlM_nil]
        rw [step_last hlast (by omega)]
        exact bind_pure _
      · have hn := Nat.not_lt.1 hlast
        simp only [if_neg hlast, List.foldlM_cons]
        have hlow := weight_lt hplace hbias hweight hn (by omega)
        have hrest := rest_lt hone hle hn
        generalize ht : threshold s.place s.bias = t at *
        have hmod : (n - t) % (base - t) < base - t := Nat.mod_lt _ (by simp only [base]; omega)
        have hdivide : t + (n - t) % (base - t) + (base - t) * ((n - t) / (base - t)) = n := by
          rw [Nat.add_assoc, Nat.mod_add_div]
          omega
        -- The weight of the digits still to come makes up for what this digit leaves.
        have hsum : s.index + (t + (n - t) % (base - t)) * s.weight
            + (n - t) / (base - t) * (s.weight * (base - t)) = s.index + n * s.weight := by
          calc _ = s.index + (t + (n - t) % (base - t) + (base - t) * ((n - t) / (base - t)))
                * s.weight := by ring
            _ = _ := by rw [hdivide]
        have hstep := step_more (s := s) (d := t + (n - t) % (base - t)) (by omega) (by omega)
          (by omega) (by rw [ht]; exact hlow)
        rw [hstep, ht]
        have hgoal := ih
          (s := { s with
            index := s.index + (t + (n - t) % (base - t)) * s.weight
            weight := s.weight * (base - t)
            place := s.place + base })
          (n := (n - t) / (base - t)) (k := k + 1) (by omega) (by simp only [hplace, Nat.mul_succ]) hbias
          (fun hlow => by
            have hprev := hweight (by simp only [base] at hlow ⊢; omega)
            calc s.weight * (base - t) ≤ Nat.pow 35 k * 35 :=
                  Nat.mul_le_mul hprev (by simp only [base]; omega)
              _ = Nat.pow 35 (k + 1) := rfl)
          (by simp only [hsum]; exact hend)
        simp only [hsum] at hgoal
        exact hgoal

/-- The number that leads to a character puts it in. -/
theorem number_settled {chars : List Char} {point index bias i : Nat} {c : Char} (hbias : bias < maxBias)
    (hpoint : point ≤ c.toNat) (hi : i ≤ chars.length)
    (hindex : index + n = (c.toNat - point) * (chars.length + 1) + i) (hmax : index + n ≤ maxIndex) :
    (number bias (n + 1) base n).foldlM step (settled chars point index bias) =
      some (settled (chars.take i ++ c :: chars.drop i) c.toNat (i + 1)
        (adapt n (chars.length + 1) (index == 0))) := by
  have hturns : point + ((c.toNat - point) * (chars.length + 1) + i) / (chars.length + 1) = c.toNat := by
    rw [Nat.mul_comm, Nat.mul_add_div (Nat.succ_pos _), Nat.div_eq_of_lt (by omega)]
    omega
  have hposition : ((c.toNat - point) * (chars.length + 1) + i) % (chars.length + 1) = i := by
    rw [Nat.mul_comm, Nat.mul_add_mod, Nat.mod_eq_of_lt (by omega)]
  have hvalid : (decide (c.toNat < 0xD800) ||
      (decide (0xDFFF < c.toNat) && decide (c.toNat < 0x110000))) = true := by
    have hc : c.toNat < 0xD800 ∨ (0xDFFF < c.toNat ∧ c.toNat < 0x110000) := c.valid
    simpa using hc
  have hsum := foldlM_number (s := settled chars point index bias) (k := 0) (Nat.lt_succ_self n) rfl hbias
    (fun _ => Nat.le_refl 1) (by simpa [settled] using hmax)
  refine hsum.trans ?_
  simp only [settled, close, Nat.mul_one, Nat.add_sub_cancel_left]
  simp only [hindex, hturns, hposition, if_pos hvalid, Char.ofNat_toNat]

end Decoder

theorem damped_le {fuel delta k n : Nat} (h : delta < 456 * Nat.pow 35 n) :
    damped fuel delta k < k + base * (n + 1) := by
  induction fuel generalizing delta k n with
  | zero =>
      simp only [damped, base]
      omega
  | succ fuel ih =>
      rw [damped]
      split
      · rename_i hlarge
        cases n with
        | zero =>
            rw [show Nat.pow 35 0 = 1 from rfl] at h
            omega
        | succ n =>
            have hdivided : delta / 35 < 456 * Nat.pow 35 n := by
              rw [Nat.div_lt_iff_lt_mul (by decide), Nat.mul_assoc]
              exact h
            have hrest := ih (k := k + base) hdivided
            simp only [base] at hrest ⊢
            omega
      · have hskew : 36 * delta / (delta + 38) < 36 := by
          rw [Nat.div_lt_iff_lt_mul (by omega)]
          omega
        simp only [base]
        omega

theorem adapt_lt {delta count : Nat} (h : delta ≤ maxIndex) (first : Bool) :
    adapt delta count first < maxBias := by
  have hshare : ∀ d, d ≤ delta / 2 → d + d / count ≤ delta := fun d hd => by
    have hpart := Nat.div_le_self d count
    omega
  have hdelta : (if first then delta / 700 else delta / 2) ≤ delta / 2 := by
    split <;> omega
  have hbound : maxIndex < 456 * Nat.pow 35 5 := by decide
  rw [adapt]
  exact (damped_le (k := 0) (((hshare _ hdelta).trans h).trans_lt hbound)).trans_le (by decide)

/-- How many characters a label may have so that no index is too large. -/
def maxLength : Nat := 1000

/-- The characters of a label below `m`, and those at `m` as far as `front` goes. -/
def placed (m : Nat) (front back : List Char) : List Char :=
  front.filter (·.toNat ≤ m) ++ back.filter (·.toNat < m)

/-- What the encoder and the decoder agree on once the label's code points below `m` are put in, and `m`
itself as far as `front` goes: the decoder has read all that is written, and `delta` tells how far it is
from its place to that of the next character. -/
structure Agrees (plain : List Char) (m : Nat) (front back : List Char) (e : Encoder) (point index : Nat) :
    Prop where
  read : e.written.foldlM Decoder.step (.settled plain 128 0 72) =
    some (.settled (placed m front back) point index e.bias)
  handled : e.handled = (placed m front back).length
  bias_lt : e.bias < maxBias
  first : index = 0 ↔ e.handled = plain.length
  filled : plain.length ≤ e.handled
  point_le : point ≤ m
  distance : e.delta + (point * (e.handled + 1) + index) =
    m * (e.handled + 1) + (front.filter (·.toNat ≤ m)).length

namespace Agrees

variable {plain front back : List Char} {m point index : Nat} {e : Encoder} {c : Char}

theorem pass_below (h : Agrees plain m front (c :: back) e point index) (hc : c.toNat < m) :
    Agrees plain m (front ++ [c]) back (e.pass plain.length m c) point index := by
  have hpass : e.pass plain.length m c = { e with delta := e.delta + 1 } := if_pos hc
  have hfront : (front ++ [c]).filter (·.toNat ≤ m) = front.filter (·.toNat ≤ m) ++ [c] := by
    simp [List.filter_append, hc.le]
  have hplaced : placed m (front ++ [c]) back = placed m front (c :: back) := by
    rw [placed, placed, hfront, List.filter_cons_of_pos (by simpa using hc), List.append_assoc,
      List.singleton_append]
  have hdistance := h.distance
  rw [hpass]
  refine { h with read := ?_, handled := ?_, distance := ?_ }
  · rw [hplaced, h.read]
  · rw [hplaced, h.handled]
  · rw [hfront, List.length_append, List.length_singleton]
    simp only
    omega

theorem pass_above (h : Agrees plain m front (c :: back) e point index) (hc : m < c.toNat) :
    Agrees plain m (front ++ [c]) back (e.pass plain.length m c) point index := by
  have hpass : e.pass plain.length m c = e := by
    rw [Encoder.pass, if_neg (by omega), if_neg (by simpa using by omega)]
  have hfront : (front ++ [c]).filter (·.toNat ≤ m) = front.filter (·.toNat ≤ m) := by
    simp [List.filter_append, hc]
  have hplaced : placed m (front ++ [c]) back = placed m front (c :: back) := by
    rw [placed, placed, hfront, List.filter_cons_of_neg (by simpa using hc.le)]
  rw [hpass]
  refine { h with read := ?_, handled := ?_, distance := ?_ }
  · rw [hplaced, h.read]
  · rw [hplaced, h.handled]
  · rw [hfront, h.distance]

theorem pass_at (h : Agrees plain c.toNat front (c :: back) e point index)
    (hlength : (front ++ c :: back).length ≤ maxLength) :
    ∃ next, Agrees plain c.toNat (front ++ [c]) back (e.pass plain.length c.toNat c) c.toNat next := by
  have hpass : e.pass plain.length c.toNat c =
      { written := e.written ++ number e.bias (e.delta + 1) base e.delta, delta := 0,
        bias := adapt e.delta (e.handled + 1) (e.handled == plain.length),
        handled := e.handled + 1 } := by
    rw [Encoder.pass, if_neg (Nat.lt_irrefl _), if_pos (beq_self_eq_true _)]
  obtain ⟨i, hi⟩ : ∃ i, (front.filter (·.toNat ≤ c.toNat)).length = i := ⟨_, rfl⟩
  have hplaced : placed c.toNat front (c :: back) =
      front.filter (·.toNat ≤ c.toNat) ++ back.filter (·.toNat < c.toNat) := by
    rw [placed, List.filter_cons_of_neg (by simp)]
  have hnext : (placed c.toNat front (c :: back)).take i ++
      c :: (placed c.toNat front (c :: back)).drop i = placed c.toNat (front ++ [c]) back := by
    rw [hplaced, placed, List.take_left' hi, List.drop_left' hi]
    simp
  have hsize : e.handled < maxLength ∧ i ≤ e.handled := by
    have hfront := List.length_filter_le (fun d => decide (d.toNat ≤ c.toNat)) front
    have hback := List.length_filter_le (fun d => decide (d.toNat < c.toNat)) back
    rw [List.length_append, List.length_cons] at hlength
    rw [h.handled, hplaced, List.length_append]
    omega
  have hindex : index + e.delta = (c.toNat - point) * (e.handled + 1) + i := by
    have hdistance := h.distance
    have hmul := Nat.mul_le_mul_right (e.handled + 1) h.point_le
    rw [hi] at hdistance
    rw [Nat.sub_mul]
    omega
  have hmax : index + e.delta ≤ maxIndex := by
    have hc : c.toNat < 0x110000 := by
      have hvalid : c.toNat < 0xD800 ∨ (0xDFFF < c.toNat ∧ c.toNat < 0x110000) := c.valid
      omega
    have hmul : (c.toNat - point) * (e.handled + 1) ≤ 0x110000 * maxLength :=
      Nat.mul_le_mul (by omega) (by omega)
    simp only [maxLength, maxIndex] at hsize hmul ⊢
    omega
  have hfirst : (index == 0) = (e.handled == plain.length) := by
    rw [Bool.eq_iff_iff, beq_iff_eq, beq_iff_eq]
    exact h.first
  have hnumber := Decoder.number_settled h.bias_lt h.point_le (h.handled ▸ hsize.2)
    (h.handled ▸ hindex) hmax
  rw [hnext, hfirst, ← h.handled] at hnumber
  refine ⟨i + 1, ?_⟩
  rw [hpass]
  exact
    { read := by rw [List.foldlM_append, h.read, Option.bind_eq_bind, Option.bind_some, hnumber]
      handled := by
        rw [← hnext, h.handled]
        simp
        omega
      bias_lt := adapt_lt (by omega) _
      first := by
        have hfilled := h.filled
        simp only
        omega
      filled := h.filled.trans (Nat.le_succ _)
      point_le := Nat.le_refl _
      distance := by simp [List.filter_append, hi] }

theorem pass (h : Agrees plain m front (c :: back) e point index)
    (hlength : (front ++ c :: back).length ≤ maxLength) :
    ∃ point index, Agrees plain m (front ++ [c]) back (e.pass plain.length m c) point index := by
  rcases Nat.lt_trichotomy c.toNat m with hc | rfl | hc
  · exact ⟨point, index, h.pass_below hc⟩
  · exact ⟨_, h.pass_at hlength⟩
  · exact ⟨point, index, h.pass_above hc⟩

theorem foldl_pass (h : Agrees plain m front back e point index)
    (hlength : (front ++ back).length ≤ maxLength) :
    ∃ point index, Agrees plain m (front ++ back) []
      (back.foldl (Encoder.pass plain.length m) e) point index := by
  induction back generalizing front e point index with
  | nil => exact ⟨point, index, by rwa [List.append_nil]⟩
  | cons c back ih =>
      obtain ⟨point, index, hpass⟩ := h.pass hlength
      have hfold := ih hpass (by simpa using hlength)
      rwa [List.append_assoc, List.singleton_append] at hfold

section

variable {label : List Char}

/-- From behind the last character of one code point to before the first of the next. -/
theorem finish (h : Agrees plain m label [] e point index) :
    Agrees plain (m + 1) [] label { e with delta := e.delta + 1 } point index := by
  have hplaced : placed (m + 1) [] label = placed m label [] := by
    simp [placed]
  have hdistance := h.distance
  have hhandled := h.handled
  rw [placed, List.filter_nil, List.append_nil] at hhandled
  refine { h with read := ?_, handled := ?_, point_le := h.point_le.trans (Nat.le_succ m), distance := ?_ }
  · rw [hplaced, h.read]
  · rw [hplaced, h.handled]
  · rw [← hhandled] at hdistance
    rw [Nat.succ_mul]
    simp only [List.filter_nil, List.length_nil]
    omega

/-- Past code points that the label does not have. -/
theorem rise (h : Agrees plain m [] label e point index) {next : Nat} (hnext : m ≤ next)
    (hnone : ∀ c ∈ label, c.toNat < next → c.toNat < m) :
    Agrees plain next [] label { e with delta := e.delta + (next - m) * (e.handled + 1) } point index := by
  have hplaced : placed next [] label = placed m [] label := by
    have hsame : label.filter (·.toNat < next) = label.filter (·.toNat < m) :=
      List.filter_congr fun c hc => decide_eq_decide.2 ⟨hnone c hc, fun hlt => hlt.trans_le hnext⟩
    rw [placed, placed, hsame]
    rfl
  have hdistance := h.distance
  have hmul : (next - m) * (e.handled + 1) + m * (e.handled + 1) = next * (e.handled + 1) := by
    rw [← Nat.add_mul, Nat.sub_add_cancel hnext]
  refine { h with read := ?_, handled := ?_, point_le := h.point_le.trans hnext, distance := ?_ }
  · rw [hplaced, h.read]
  · rw [hplaced, h.handled]
  · simp only [List.filter_nil, List.length_nil] at hdistance ⊢
    omega

/-- All code points of the label that are still to come are put in. -/
theorem run {points : List Nat} (h : Agrees plain m [] label e point index)
    (hlength : label.length ≤ maxLength) (hsorted : points.Pairwise (· < ·))
    (hpoints : ∀ p ∈ points, m ≤ p) (hall : ∀ c ∈ label, m ≤ c.toNat → c.toNat ∈ points) :
    ∃ point index bias,
      (Encoder.run label plain.length points m e).written.foldlM Decoder.step (.settled plain 128 0 72) =
        some (.settled label point index bias) := by
  induction points generalizing m e point index with
  | nil =>
      have hwhole : placed m [] label = label := by
        have hbelow : ∀ c ∈ label, c.toNat < m := fun c hc =>
          Nat.lt_of_not_le fun hle => List.not_mem_nil (hall c hc hle)
        simpa [placed, List.filter_eq_self] using hbelow
      refine ⟨point, index, e.bias, ?_⟩
      rw [Encoder.run, h.read, hwhole]
  | cons p points ih =>
      have hbehind : ∀ q ∈ points, p < q := fun q => List.rel_of_pairwise_cons hsorted
      have hrise := h.rise (hpoints p List.mem_cons_self) fun c hc hlt =>
        Nat.lt_of_not_le fun hle => by
          rcases List.mem_cons.1 (hall c hc hle) with heq | hmem
          · omega
          · exact absurd (hbehind _ hmem) (by omega)
      obtain ⟨point, index, hfold⟩ := hrise.foldl_pass hlength
      exact ih hfold.finish hsorted.of_cons hbehind fun c hc hle => by
        rcases List.mem_cons.1 (hall c hc ((hpoints p List.mem_cons_self).trans (by omega))) with
          heq | hmem
        · omega
        · exact hmem

end

end Agrees

theorem takeWhile_lt {points : List Nat} (h : points.Pairwise (· < ·)) (x : Nat) :
    points.takeWhile (· < x) = points.filter (· < x) := by
  induction h with
  | nil => rfl
  | @cons p points hbehind _ ih =>
      by_cases hp : p < x
      · simp [hp, ih]
      · have hnone : points.filter (· < x) = [] := by
          simpa using fun q hq => (Nat.not_lt.1 hp).trans (hbehind q hq).le
        simp [hp, hnone]

theorem dropWhile_le {points : List Nat} (h : points.Pairwise (· < ·)) (x : Nat) :
    points.dropWhile (· ≤ x) = points.filter (x < ·) := by
  induction h with
  | nil => rfl
  | @cons p points hbehind _ ih =>
      by_cases hp : p ≤ x
      · simp [hp, ih]
      · have hall : points.filter (x < ·) = points := by
          simpa [List.filter_eq_self] using fun q hq => (Nat.not_le.1 hp).trans (hbehind q hq)
        rw [List.filter_cons_of_pos (by simpa using hp), hall]
        simp [hp]

theorem ascending_cons {points : List Nat} (h : (ascending points).Pairwise (· < ·)) (x : Nat) :
    ascending (x :: points) =
      (ascending points).filter (· < x) ++ x :: (ascending points).filter (x < ·) := by
  rw [← takeWhile_lt h, ← dropWhile_le h]
  rfl

theorem pairwise_ascending (points : List Nat) : (ascending points).Pairwise (· < ·) := by
  induction points with
  | nil => exact List.Pairwise.nil
  | cons x points ih =>
      rw [ascending_cons ih, List.pairwise_append]
      refine ⟨ih.filter _, List.Pairwise.cons (by simp) (ih.filter _), fun a ha b hb => ?_⟩
      have hax : a < x := by simpa using (List.mem_filter.1 ha).2
      rcases List.mem_cons.1 hb with rfl | hb
      · exact hax
      · exact hax.trans (by simpa using (List.mem_filter.1 hb).2)

theorem mem_ascending {points : List Nat} {p : Nat} : p ∈ ascending points ↔ p ∈ points := by
  induction points with
  | nil => rfl
  | cons x points ih =>
      rw [ascending_cons (pairwise_ascending points)]
      simp only [List.mem_append, List.mem_cons, List.mem_filter, ih, decide_eq_true_eq]
      constructor
      · rintro (⟨hp, -⟩ | rfl | ⟨hp, -⟩)
        · exact .inr hp
        · exact .inl rfl
        · exact .inr hp
      · rintro (rfl | hp)
        · exact .inr (.inl rfl)
        · rcases Nat.lt_trichotomy p x with hlt | rfl | hlt
          · exact .inl ⟨hp, hlt⟩
          · exact .inr (.inl rfl)
          · exact .inr (.inr ⟨hp, hlt⟩)

theorem ascending_eq_self {points : List Nat} (h : points.Pairwise (· < ·)) : ascending points = points := by
  induction h with
  | nil => rfl
  | @cons p points hbehind hsorted ih =>
      have hbelow : points.filter (· < p) = [] := by
        simpa using fun q hq => (hbehind q hq).le
      have habove : points.filter (p < ·) = points := by
        simpa [List.filter_eq_self] using hbehind
      rw [ascending_cons (ih.symm ▸ hsorted), ih, hbelow, habove, List.nil_append]

/-- The ASCII characters of a label, which are written as they are. -/
def plainPart (label : List Char) : List Char :=
  label.filter (·.toNat < 128)

/-- All other characters of a label, as the numbers that put them in. -/
def numbers (label : List Char) : List Char :=
  (Encoder.run label (plainPart label).length
    (ascending ((label.filter (128 ≤ ·.toNat)).map Char.toNat)) 128
    ⟨[], 0, 72, (plainPart label).length⟩).written

theorem encode_eq (label : List Char) :
    encode label =
      (if (plainPart label).isEmpty then [] else plainPart label ++ ['-']) ++ numbers label :=
  rfl

theorem foldlM_numbers {label : List Char} (hlength : label.length ≤ maxLength) :
    ∃ point index bias, (numbers label).foldlM Decoder.step (.settled (plainPart label) 128 0 72) =
      some (.settled label point index bias) := by
  have hstart : Agrees (plainPart label) 128 [] label ⟨[], 0, 72, (plainPart label).length⟩ 128 0 :=
    { read := rfl
      handled := rfl
      bias_lt := (by decide : 72 < maxBias)
      first := by simp
      filled := Nat.le_refl _
      point_le := Nat.le_refl _
      distance := by simp }
  refine hstart.run hlength (pairwise_ascending _) (fun p hp => ?_) fun c hc hle => ?_
  · obtain ⟨c, hc, rfl⟩ := List.mem_map.1 (mem_ascending.1 hp)
    simpa using (List.mem_filter.1 hc).2
  · exact mem_ascending.2 (List.mem_map_of_mem (List.mem_filter.2 ⟨hc, by simpa using hle⟩))

/-- What numbers are written with. -/
def IsDigit (c : Char) : Prop :=
  ∃ d < base, c = digitChar d

theorem isDigit_number {c : Char} {bias fuel place n : Nat} (h : c ∈ number bias fuel place n) : IsDigit c := by
  induction fuel generalizing place n with
  | zero => cases h
  | succ fuel ih =>
      have hle := threshold_le place bias
      rw [number] at h
      split at h
      · rename_i hlast
        refine ⟨n, hlast.trans_le (hle.trans (by decide)), List.mem_singleton.1 h⟩
      · rcases List.mem_cons.1 h with rfl | h
        · have hmod := Nat.mod_lt (n - threshold place bias)
            (show 0 < base - threshold place bias by simp only [base]; omega)
          exact ⟨_, by omega, rfl⟩
        · exact ih h

theorem isDigit_pass {basic n : Nat} {e : Encoder} (c : Char) (h : ∀ d ∈ e.written, IsDigit d) :
    ∀ d ∈ (e.pass basic n c).written, IsDigit d := by
  rw [Encoder.pass]
  split
  · exact h
  · split
    · intro d hd
      exact (List.mem_append.1 hd).elim (h d) isDigit_number
    · exact h

theorem isDigit_run {label : List Char} {basic n : Nat} {points : List Nat} {e : Encoder}
    (h : ∀ d ∈ e.written, IsDigit d) : ∀ d ∈ (Encoder.run label basic points n e).written, IsDigit d := by
  induction points generalizing n e with
  | nil => exact h
  | cons m points ih =>
      refine ih ?_
      exact List.foldlRecOn (motive := fun e : Encoder => ∀ d ∈ e.written, IsDigit d) label _ h
        fun e he c _ => isDigit_pass c he

theorem isDigit_numbers {label : List Char} {c : Char} (h : c ∈ numbers label) : IsDigit c :=
  isDigit_run (by simp) c h

theorem ne_hyphen_of_isDigit {c : Char} (h : IsDigit c) : c ≠ '-' := by
  have hdigits : ∀ d < base, digitChar d ≠ '-' := by decide
  obtain ⟨d, hd, rfl⟩ := h
  exact hdigits d hd

theorem takeWhile_hyphen_encode (label : List Char) :
    ((encode label).reverse.takeWhile (· != '-')).reverse = numbers label := by
  have hdigits : ∀ c ∈ (numbers label).reverse, (c != '-') = true := fun c hc =>
    bne_iff_ne.2 (ne_hyphen_of_isDigit (isDigit_numbers (List.mem_reverse.1 hc)))
  rw [encode_eq, List.reverse_append, List.takeWhile_append_of_pos hdigits]
  by_cases hplain : plainPart label = []
  · simp [hplain]
  · simp [hplain]

/-- What is written stands for the label. -/
theorem decode?_encode {label : List Char} (hlength : label.length ≤ maxLength) :
    decode? (encode label) = some label := by
  obtain ⟨point, index, bias, hread⟩ := foldlM_numbers hlength
  have hplain : (encode label).take ((encode label).length - (numbers label).length - 1) =
      plainPart label := by
    rw [encode_eq]
    split
    · rename_i hempty
      simp [List.isEmpty_iff.1 hempty]
    · rw [List.append_assoc]
      exact List.take_left' (by simp; omega)
  have hascii : (plainPart label).any (128 ≤ ·.toNat) = false := by
    simp [plainPart]
  have hempty : ((plainPart label).isEmpty && decide ((numbers label).length < (encode label).length)) =
      false := by
    rw [encode_eq]
    split
    · simp
    · rename_i hfull
      simp [hfull]
  rw [decode?]
  simp only [takeWhile_hyphen_encode, hplain, hascii, hempty]
  rw [Decoder.settled] at hread
  rw [hread]
  rfl

theorem mem_encode {label : List Char} {c : Char} (h : c ∈ encode label) :
    (c ∈ label ∧ c.toNat < 128) ∨ c = '-' ∨ IsDigit c := by
  rw [encode_eq, List.mem_append] at h
  rcases h with h | h
  · split at h
    · cases h
    · rcases List.mem_append.1 h with h | h
      · exact .inl (by simpa [plainPart] using h)
      · exact .inr (.inl (List.mem_singleton.1 h))
  · exact .inr (.inr (isDigit_numbers h))

/-- Reading numbers puts in no ASCII character. -/
theorem Decoder.mem_step {plain : List Char} {s s' : Decoder} {c : Char} (hstep : s.step c = some s')
    (hpoint : 128 ≤ s.point) (hchars : ∀ d ∈ s.chars, d ∈ plain ∨ 128 ≤ d.toNat) :
    128 ≤ s'.point ∧ ∀ d ∈ s'.chars, d ∈ plain ∨ 128 ≤ d.toNat := by
  obtain ⟨d, -, hstep⟩ := Option.bind_eq_some_iff.1 hstep
  simp only at hstep
  split_ifs at hstep with _ _ hvalid
  · obtain rfl := Option.some.inj hstep
    refine ⟨hpoint.trans (Nat.le_add_right ..), fun d hd => ?_⟩
    rcases List.mem_append.1 hd with hd | hd
    · exact hchars d (List.mem_of_mem_take hd)
    · rcases List.mem_cons.1 hd with rfl | hd
      · refine .inr ?_
        rw [Char.toNat_ofNat, if_pos (by simpa using hvalid)]
        exact hpoint.trans (Nat.le_add_right ..)
      · exact hchars d (List.mem_of_mem_drop hd)
  · obtain rfl := Option.some.inj hstep
    exact ⟨hpoint, hchars⟩

theorem Decoder.mem_foldlM {plain text : List Char} {s s' : Decoder}
    (hread : text.foldlM Decoder.step s = some s') (hpoint : 128 ≤ s.point)
    (hchars : ∀ d ∈ s.chars, d ∈ plain ∨ 128 ≤ d.toNat) : ∀ d ∈ s'.chars, d ∈ plain ∨ 128 ≤ d.toNat := by
  induction text generalizing s with
  | nil =>
      obtain rfl := Option.some.inj hread
      exact hchars
  | cons c text ih =>
      obtain ⟨next, hstep, hrest⟩ := Option.bind_eq_some_iff.1 hread
      obtain ⟨hpoint, hchars⟩ := mem_step hstep hpoint hchars
      exact ih hrest hpoint hchars

/-- The ASCII characters that Punycode stands for are written in it. -/
theorem mem_of_mem_decode? {text label : List Char} (h : decode? text = some label) {c : Char}
    (hc : c ∈ label) (hascii : c.toNat < 128) : c ∈ text := by
  rw [decode?] at h
  split at h
  · cases h
  · obtain ⟨s, hread, h⟩ := Option.bind_eq_some_iff.1 h
    split at h
    · obtain rfl := Option.some.inj h
      rcases Decoder.mem_foldlM hread (Nat.le_refl _) (fun d hd => .inl hd) c hc with hplain | hlarge
      · exact List.mem_of_mem_take hplain
      · omega
    · cases h

end Lineage.Punycode
