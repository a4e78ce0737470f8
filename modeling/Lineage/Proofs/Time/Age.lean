import Mathlib
import Lineage.Time.Age
import Lineage.Time.Rfc3339

/-! How long ago something happened, as it is told. An age is a count of the largest unit that has passed,
rounded down, and a time before last second is told as such. Main statement: what has taken longer is never
told as shorter, so that ages are in the order of their dates. Only a leap second may come between, as it
overlaps the second behind it on the Unix clock, where dates are less than a second apart. -/

namespace Lineage.Instant

/-! Units, and what a text tells. -/

inductive AgeUnit
  | minute
  | hour
  | day
  deriving DecidableEq

namespace AgeUnit

def seconds : AgeUnit → Nat
  | minute => 60
  | hour => 3600
  | day => 86400

def letter : AgeUnit → String
  | minute => "m"
  | hour => "h"
  | day => "d"

def nanos (unit : AgeUnit) : Int := unit.seconds * nanosPerSecond

/-- The unit has passed, and no larger one has. -/
structure IsLargest (unit : AgeUnit) (elapsed : Int) : Prop where
  passed : unit.nanos ≤ elapsed
  largest : ∀ other : AgeUnit, other.nanos ≤ elapsed → other.nanos ≤ unit.nanos

/-- So many of the largest unit, and not one more. -/
structure Counts (unit : AgeUnit) (count : Nat) (elapsed : Int) : Prop extends unit.IsLargest elapsed where
  reached : count * unit.nanos ≤ elapsed
  below : elapsed < (count + 1) * unit.nanos

end AgeUnit

/-- As in `5m ago`. -/
def agoText (count : Nat) (unit : AgeUnit) : String :=
  toString count ++ unit.letter ++ " ago"

/-- The seconds that a text stands for. -/
inductive Tells : String → Nat → Prop
  | justNow : Tells "just now" 0
  | ago (count : Nat) (unit : AgeUnit) : Tells (agoText count unit) (count * unit.seconds)

/-- What is told, and when. -/
structure IsExact (date now : Instant) : Prop where
  future_iff : date.age now = "future" ↔ nanosBetween date now ≤ -nanosPerSecond
  justNow_iff : date.age now = "just now" ↔
    -nanosPerSecond < nanosBetween date now ∧ nanosBetween date now < 60 * nanosPerSecond
  ago_iff : ∀ count unit, date.age now = agoText count unit ↔ unit.Counts count (nanosBetween date now)
  told : date.age now = "future" ∨ ∃! seconds, Tells (date.age now) seconds

/-- Neither date is told as one to come, or the earlier one is told as no less long ago. -/
def InOrder (earlier later now : Instant) : Prop :=
  ∀ long short, Tells (earlier.age now) long → Tells (later.age now) short → short ≤ long

variable {date now earlier later : Instant} {unit other : AgeUnit} {count n : Nat} {elapsed : Int}

/-! Texts. -/

theorem agoText_ne_of_getLast? {text : String} (h : text.toList.getLast? ≠ some 'o') :
    agoText count unit ≠ text := by
  rintro rfl
  apply h
  simp [agoText]

theorem agoText_inj {more : Nat} (h : agoText count unit = agoText more other) :
    count = more ∧ unit = other := by
  have hchars := congrArg String.toList h
  simp only [agoText, String.toList_append] at hchars
  obtain ⟨hfront, -⟩ := List.append_inj' hchars rfl
  have hlength : unit.letter.toList.length = other.letter.toList.length := by
    cases unit <;> cases other <;> rfl
  obtain ⟨hcount, hletter⟩ := List.append_inj' hfront hlength
  constructor
  · exact Nat.repr_inj.1 (String.toList_inj.1 hcount)
  · cases unit <;> cases other <;> first | rfl | cases hletter

/-- As an age is put together from a count that is no natural number by its type. -/
theorem toString_append_eq_agoText {n : Int} (h : 0 ≤ n) (unit : AgeUnit) :
    toString n ++ toString (unit.letter ++ " ago") = agoText n.toNat unit := by
  obtain ⟨count, rfl⟩ := Int.eq_ofNat_of_zero_le h
  exact String.append_assoc.symm

theorem justNow_ne_future : "just now" ≠ "future" := by decide

theorem agoText_ne_future : agoText count unit ≠ "future" :=
  agoText_ne_of_getLast? (by decide)

theorem agoText_ne_justNow : agoText count unit ≠ "just now" :=
  agoText_ne_of_getLast? (by decide)

theorem tells_justNow_iff : Tells "just now" n ↔ n = 0 := by
  constructor
  · intro h
    generalize htext : "just now" = text at h
    cases h with
    | justNow => rfl
    | ago => exact absurd htext.symm agoText_ne_justNow
  · rintro rfl
    exact .justNow

theorem tells_agoText_iff : Tells (agoText count unit) n ↔ n = count * unit.seconds := by
  constructor
  · intro h
    generalize htext : agoText count unit = text at h
    cases h with
    | justNow => exact absurd htext agoText_ne_justNow
    | ago more other =>
        obtain ⟨rfl, rfl⟩ := agoText_inj htext
        rfl
  · rintro rfl
    exact .ago count unit

theorem not_tells_future : ¬Tells "future" n := by
  intro h
  generalize htext : "future" = text at h
  cases h with
  | justNow => exact justNow_ne_future htext.symm
  | ago => exact agoText_ne_future htext.symm

/-! Counting. -/

theorem AgeUnit.IsLargest.unique (h : unit.IsLargest elapsed) (hother : other.IsLargest elapsed) :
    unit = other := by
  have hle := h.largest other hother.passed
  have hge := hother.largest unit h.passed
  revert hle hge
  cases unit <;> cases other <;> simp [nanos, seconds, nanosPerSecond]

theorem AgeUnit.Counts.unique {more : Nat} (h : unit.Counts count elapsed)
    (hother : other.Counts more elapsed) : count = more ∧ unit = other := by
  obtain rfl := h.toIsLargest.unique hother.toIsLargest
  refine ⟨?_, rfl⟩
  have hreached := h.reached
  have hbelow := h.below
  have hreached' := hother.reached
  have hbelow' := hother.below
  cases unit <;> simp only [nanos, seconds, nanosPerSecond] at * <;> omega

theorem AgeUnit.IsLargest.counts (h : unit.IsLargest elapsed) :
    unit.Counts (elapsed / nanosPerSecond / unit.seconds).toNat elapsed := by
  have hpassed := h.passed
  refine ⟨h, ?_, ?_⟩ <;> cases unit <;> simp only [nanos, seconds, nanosPerSecond] at * <;> omega

theorem AgeUnit.IsLargest.minute_le (h : unit.IsLargest elapsed) : 60 * nanosPerSecond ≤ elapsed := by
  refine le_trans ?_ h.passed
  cases unit <;> decide

theorem AgeUnit.exists_isLargest (h : 60 * nanosPerSecond ≤ elapsed) :
    ∃ unit : AgeUnit, unit.IsLargest elapsed := by
  by_cases hday : day.nanos ≤ elapsed
  · refine ⟨day, hday, fun other _ => ?_⟩
    cases other <;> decide
  by_cases hhour : hour.nanos ≤ elapsed
  · refine ⟨hour, hhour, fun other hother => ?_⟩
    cases other with
    | day => exact absurd hother hday
    | minute => decide
    | hour => exact le_rfl
  · refine ⟨minute, h, fun other hother => ?_⟩
    cases other with
    | day => exact absurd hother hday
    | hour => exact absurd hother hhour
    | minute => exact le_rfl

/-- What has taken longer is not counted as less. -/
theorem AgeUnit.Counts.mono {more : Nat} {longer : Int} (hlonger : unit.Counts more longer)
    (h : other.Counts count elapsed) (hle : elapsed ≤ longer) :
    count * other.seconds ≤ more * unit.seconds := by
  have hpassed := hlonger.passed
  have hbelow := hlonger.below
  have hreached := h.reached
  have hlarger := hlonger.largest other (h.passed.trans hle)
  have hlargest := h.largest unit
  cases unit <;> cases other <;> simp only [nanos, seconds, nanosPerSecond] at * <;> omega

/-! Ages. -/

/-- Seconds are cut off toward zero. -/
theorem secondsBetween_cases (date now : Instant) :
    0 ≤ nanosBetween date now ∧ secondsBetween date now = nanosBetween date now / nanosPerSecond ∨
      nanosBetween date now < 0 ∧ secondsBetween date now = -(-nanosBetween date now / nanosPerSecond) := by
  rw [secondsBetween]
  by_cases hpast : 0 ≤ nanosBetween date now
  · exact .inl ⟨hpast, Int.tdiv_eq_ediv_of_nonneg hpast⟩
  · refine .inr ⟨Int.not_le.1 hpast, ?_⟩
    rw [← Int.tdiv_eq_ediv_of_nonneg (by omega), Int.neg_tdiv, Int.neg_neg]

theorem secondsBetween_neg_iff : secondsBetween date now < 0 ↔ nanosBetween date now ≤ -nanosPerSecond := by
  rcases secondsBetween_cases date now with ⟨hpast, hseconds⟩ | ⟨hfuture, hseconds⟩ <;>
    rw [hseconds] <;> simp only [nanosPerSecond] <;> omega

theorem secondsBetween_lt_iff {bound : Int} (h : 0 < bound) :
    secondsBetween date now < bound ↔ nanosBetween date now < bound * nanosPerSecond := by
  rcases secondsBetween_cases date now with ⟨hpast, hseconds⟩ | ⟨hfuture, hseconds⟩ <;>
    rw [hseconds] <;> simp only [nanosPerSecond] <;> omega

/-- The largest unit is counted in whole seconds. -/
theorem age_of_isLargest (h : unit.IsLargest (nanosBetween date now)) :
    date.age now = toString (secondsBetween date now / unit.seconds) ++ toString (unit.letter ++ " ago") := by
  have hpassed := h.passed
  have hhour := h.largest .hour
  have hday := h.largest .day
  have hminutes : secondsBetween date now < 60 ↔ nanosBetween date now < 60 * nanosPerSecond :=
    secondsBetween_lt_iff (by decide)
  have hhours : secondsBetween date now < 3600 ↔ nanosBetween date now < 3600 * nanosPerSecond :=
    secondsBetween_lt_iff (by decide)
  have hdays : secondsBetween date now < 86400 ↔ nanosBetween date now < 86400 * nanosPerSecond :=
    secondsBetween_lt_iff (by decide)
  cases unit <;> simp only [AgeUnit.nanos, AgeUnit.seconds, nanosPerSecond, age] at *
  case minute =>
    rw [if_neg (by omega), if_neg (by omega), if_pos (by omega)]
    rfl
  case hour =>
    rw [if_neg (by omega), if_neg (by omega), if_neg (by omega), if_pos (by omega)]
    rfl
  case day =>
    rw [if_neg (by omega), if_neg (by omega), if_neg (by omega), if_neg (by omega)]
    rfl

theorem exists_counts (h : 60 * nanosPerSecond ≤ nanosBetween date now) :
    ∃ count unit, AgeUnit.Counts unit count (nanosBetween date now) ∧ date.age now = agoText count unit := by
  obtain ⟨unit, hunit⟩ := AgeUnit.exists_isLargest h
  have hpast : 0 ≤ nanosBetween date now := le_trans (by decide) h
  have hseconds : secondsBetween date now = nanosBetween date now / nanosPerSecond :=
    Int.tdiv_eq_ediv_of_nonneg hpast
  refine ⟨_, unit, hunit.counts, ?_⟩
  rw [age_of_isLargest hunit, hseconds, toString_append_eq_agoText]
  exact Int.ediv_nonneg (Int.ediv_nonneg hpast (by decide)) (Int.natCast_nonneg _)

/-- The three ways to tell an age. -/
theorem age_cases (date now : Instant) :
    nanosBetween date now ≤ -nanosPerSecond ∧ date.age now = "future" ∨
      (-nanosPerSecond < nanosBetween date now ∧ nanosBetween date now < 60 * nanosPerSecond) ∧
        date.age now = "just now" ∨
      ∃ count unit, AgeUnit.Counts unit count (nanosBetween date now) ∧ date.age now = agoText count unit := by
  have hfuture : secondsBetween date now < 0 ↔ nanosBetween date now ≤ -nanosPerSecond := secondsBetween_neg_iff
  have hminute : secondsBetween date now < 60 ↔ nanosBetween date now < 60 * nanosPerSecond :=
    secondsBetween_lt_iff (by decide)
  by_cases h0 : nanosBetween date now ≤ -nanosPerSecond
  · exact .inl ⟨h0, if_pos (hfuture.2 h0)⟩
  by_cases h1 : nanosBetween date now < 60 * nanosPerSecond
  · refine .inr (.inl ⟨⟨Int.not_le.1 h0, h1⟩, ?_⟩)
    simp only [age]
    rw [if_neg (mt hfuture.1 h0), if_pos (hminute.2 h1)]
  · exact .inr (.inr (exists_counts (Int.not_lt.1 h1)))

theorem isExact (date now : Instant) : IsExact date now where
  future_iff := by
    refine ⟨fun hage => ?_, fun hfuture => if_pos (secondsBetween_neg_iff.2 hfuture)⟩
    rcases age_cases date now with ⟨hfuture, -⟩ | ⟨-, hnow⟩ | ⟨count, unit, -, hago⟩
    · exact hfuture
    · exact absurd (hnow.symm.trans hage) justNow_ne_future
    · exact absurd (hago.symm.trans hage) agoText_ne_future
  justNow_iff := by
    rcases age_cases date now with ⟨hfuture, hage⟩ | ⟨hbounds, hage⟩ | ⟨count, unit, hcounts, hage⟩
    · rw [hage]
      exact iff_of_false justNow_ne_future.symm fun h => Int.not_le.2 h.1 hfuture
    · exact iff_of_true hage hbounds
    · rw [hage]
      exact iff_of_false agoText_ne_justNow fun h => Int.not_lt.2 hcounts.minute_le h.2
  ago_iff count unit := by
    rcases age_cases date now with ⟨hfuture, hage⟩ | ⟨hbounds, hage⟩ | ⟨more, other, hcounts, hage⟩
    · rw [hage]
      refine iff_of_false agoText_ne_future.symm fun h => ?_
      exact absurd (h.minute_le.trans hfuture) (by decide)
    · rw [hage]
      exact iff_of_false agoText_ne_justNow.symm fun h => Int.not_lt.2 h.minute_le hbounds.2
    · rw [hage]
      constructor
      · intro h
        obtain ⟨rfl, rfl⟩ := agoText_inj h
        exact hcounts
      · intro h
        obtain ⟨rfl, rfl⟩ := hcounts.unique h
        rfl
  told := by
    rcases age_cases date now with ⟨-, hage⟩ | ⟨-, hage⟩ | ⟨count, unit, -, hage⟩
    · exact .inl hage
    · rw [hage]
      exact .inr ⟨0, .justNow, fun n => tells_justNow_iff.1⟩
    · rw [hage]
      exact .inr ⟨_, .ago count unit, fun n => tells_agoText_iff.1⟩

theorem elapsed_of_tells (h : Tells (date.age now) n) :
    nanosBetween date now < 60 * nanosPerSecond ∧ n = 0 ∨
      ∃ count unit, AgeUnit.Counts unit count (nanosBetween date now) ∧ n = count * unit.seconds := by
  rcases age_cases date now with ⟨-, hage⟩ | ⟨hbounds, hage⟩ | ⟨count, unit, hcounts, hage⟩
  · rw [hage] at h
    exact absurd h not_tells_future
  · rw [hage] at h
    exact .inl ⟨hbounds.2, tells_justNow_iff.1 h⟩
  · rw [hage] at h
    exact .inr ⟨count, unit, hcounts, tells_agoText_iff.1 h⟩

theorem inOrder_of_elapsed (h : nanosBetween later now ≤ nanosBetween earlier now) :
    InOrder earlier later now := by
  intro long short hlong hshort
  rcases elapsed_of_tells hshort with ⟨-, rfl⟩ | ⟨count, unit, hcounts, rfl⟩
  · exact Nat.zero_le _
  rcases elapsed_of_tells hlong with ⟨hnow, -⟩ | ⟨more, other, hmore, rfl⟩
  · exact absurd (hcounts.minute_le.trans h) (Int.not_le.2 hnow)
  · exact hmore.mono hcounts h

/-! Dates. -/

/-- A leap second comes behind the second that it belongs to, and before the next. -/
instance : LE Instant where
  le a b := a.unixSeconds < b.unixSeconds ∨ a.unixSeconds = b.unixSeconds ∧ a.nanosecond ≤ b.nanosecond

def IsLeap (t : Instant) : Prop := nanosPerSecond ≤ t.nanosecond

instance (t : Instant) : Decidable t.IsLeap := inferInstanceAs (Decidable (_ ≤ _))

/-- How many leap seconds an instant is in. -/
def leaps (t : Instant) : Int := if t.IsLeap then 1 else 0

/-- Nanoseconds since the start of 1970, by a clock that is set back behind a leap second. -/
def unixNanos (t : Instant) : Int := t.unixSeconds * nanosPerSecond + t.nanosecond

theorem leaps_of_isLeap (h : date.IsLeap) : date.leaps = 1 := if_pos h

theorem leaps_of_not_isLeap (h : ¬date.IsLeap) : date.leaps = 0 := if_neg h

theorem leaps_nonneg (date : Instant) : 0 ≤ date.leaps := by
  by_cases h : date.IsLeap
  · rw [leaps_of_isLeap h]
    decide
  · rw [leaps_of_not_isLeap h]

/-- The time between two instants is that of the clock, but for a leap second at either end. -/
theorem nanosBetween_bounds (a b : Instant) :
    b.unixNanos - a.unixNanos - b.leaps * nanosPerSecond ≤ nanosBetween a b ∧
      nanosBetween a b ≤ b.unixNanos - a.unixNanos + a.leaps * nanosPerSecond := by
  have ha := a.leaps_nonneg
  have hb := b.leaps_nonneg
  rw [nanosBetween]
  split
  · rename_i h
    rw [leaps_of_isLeap (of_decide_eq_true (Bool.and_eq_true_iff.1 h).2)]
    simp only [unixNanos, unixSeconds, nanosPerSecond, secondsPerDay]
    omega
  split
  · rename_i h
    rw [leaps_of_isLeap (of_decide_eq_true (Bool.and_eq_true_iff.1 h).2)]
    simp only [unixNanos, unixSeconds, nanosPerSecond, secondsPerDay]
    omega
  · simp only [unixNanos, unixSeconds, nanosPerSecond, secondsPerDay]
    omega

theorem nanosBetween_le_of_clock
    (h : earlier.unixNanos + (later.leaps + now.leaps) * nanosPerSecond ≤ later.unixNanos) :
    nanosBetween later now ≤ nanosBetween earlier now := by
  have hearlier := (nanosBetween_bounds earlier now).1
  have hlater := (nanosBetween_bounds later now).2
  simp only [nanosPerSecond] at *
  omega

theorem unixNanos_le_of_le (regular : ¬earlier.IsLeap) (h : earlier ≤ later) :
    earlier.unixNanos ≤ later.unixNanos := by
  have hnanos : earlier.nanosecond < nanosPerSecond := Nat.lt_of_not_le regular
  rcases h with hlt | ⟨heq, hle⟩
  · simp only [unixNanos, nanosPerSecond] at *
    omega
  · simp only [unixNanos, heq, nanosPerSecond]
    omega

/-- Ages are exact, and in the order of their dates unless a leap second comes between. -/
theorem ages_in_order (now : Instant) :
    (∀ date, IsExact date now) ∧
      (∀ earlier later, nanosBetween later now ≤ nanosBetween earlier now → InOrder earlier later now) ∧
      (∀ earlier later : Instant, ¬earlier.IsLeap → ¬later.IsLeap → ¬now.IsLeap → earlier ≤ later →
        InOrder earlier later now) ∧
      ∀ earlier later : Instant,
        earlier.unixNanos + (later.leaps + now.leaps) * nanosPerSecond ≤ later.unixNanos →
          InOrder earlier later now := by
  refine ⟨fun date => isExact date now, fun _ _ => inOrder_of_elapsed, ?_, ?_⟩
  · intro earlier later hearlier hlater hnow h
    refine inOrder_of_elapsed (nanosBetween_le_of_clock ?_)
    rw [leaps_of_not_isLeap hlater, leaps_of_not_isLeap hnow, Int.add_zero, Int.zero_mul, Int.add_zero]
    exact unixNanos_le_of_le hearlier h
  · intro earlier later h
    exact inOrder_of_elapsed (nanosBetween_le_of_clock h)

/-- The later date is in a leap second. -/
theorem ages_in_order_before_leap_second :
    let earlier : Instant := ⟨17166, 86399, 0⟩
    let later : Instant := ⟨17166, 86399, 1000000000⟩
    let now : Instant := ⟨17167, 59, 500000000⟩
    earlier.unixNanos + (later.leaps + now.leaps) * nanosPerSecond ≤ later.unixNanos ∧
      earlier.age now = "1m ago" ∧ later.age now = "just now" ∧ InOrder earlier later now := by
  intro earlier later now
  have h : earlier.unixNanos + (later.leaps + now.leaps) * nanosPerSecond ≤ later.unixNanos := by decide
  exact ⟨h, by decide +kernel, by decide +kernel, (ages_in_order now).2.2.2 earlier later h⟩

/-- A minute past midnight, the leap second before it is just now, and midnight itself a minute ago. -/
theorem leap_second_is_told_late :
    let earlier : Instant := ⟨17166, 86399, 1500000000⟩
    let later : Instant := ⟨17167, 0, 0⟩
    let now : Instant := ⟨17167, 60, 0⟩
    Rfc3339.parse? "2016-12-31T23:59:60.5Z" = some earlier ∧
      Rfc3339.parse? "2017-01-01T00:00:00Z" = some later ∧ earlier ≤ later ∧
      Tells (earlier.age now) 0 ∧ Tells (later.age now) 60 ∧ ¬InOrder earlier later now := by
  intro earlier later now
  have hearlier : Tells (earlier.age now) 0 := by
    have hage : earlier.age now = "just now" := by decide +kernel
    exact hage ▸ .justNow
  have hlater : Tells (later.age now) 60 := by
    have hage : later.age now = agoText 1 .minute := by decide +kernel
    exact hage ▸ .ago 1 .minute
  refine ⟨by decide +kernel, by decide +kernel, .inl (by decide), hearlier, hlater, fun h => ?_⟩
  exact absurd (h 0 60 hearlier hlater) (by decide)

end Lineage.Instant
