import Mathlib
import Lineage.Proofs.Json.Numeral
import Lineage.Proofs.Text.Split
import Lineage.Url.Address

/-! Internet addresses are read as they were written. -/

namespace Lineage

open Text (splitOn)

namespace Ipv4

section

variable {radix : Nat}

theorem mem_toDigits (hradix : 1 < radix) {n : Nat} {c : Char} (h : c ∈ Nat.toDigits radix n) :
    ∃ d < radix, c = Nat.digitChar d := by
  induction n using Nat.strong_induction_on with
  | _ n ih =>
      rcases Nat.lt_or_ge n radix with hn | hn
      · rw [Nat.toDigits_of_lt_base hn] at h
        exact ⟨n, hn, List.mem_singleton.1 h⟩
      · rw [Nat.toDigits_of_base_le hradix hn, List.mem_append] at h
        rcases h with h | h
        · exact ih (n / radix) (Nat.div_lt_self (by omega) hradix) h
        · exact ⟨n % radix, Nat.mod_lt n (by omega), List.mem_singleton.1 h⟩

/-- Digits are read as the number that they were written for. -/
theorem mapM_toDigits (hradix : 1 < radix)
    (hvalue : ∀ d < radix, digitValue? radix (Nat.digitChar d) = some d) (n : Nat) :
    ((Nat.toDigits radix n).mapM (digitValue? radix)).map (·.foldl (fun n d => n * radix + d) 0) =
      some n := by
  induction n using Nat.strong_induction_on with
  | _ n ih =>
      rcases Nat.lt_or_ge n radix with hn | hn
      · rw [Nat.toDigits_of_lt_base hn, List.mapM_cons, hvalue n hn]
        simp
      · have hmod : n % radix < radix := Nat.mod_lt n (by omega)
        obtain ⟨digits, hdigits, hsum⟩ := Option.map_eq_some_iff.1
          (ih (n / radix) (Nat.div_lt_self (by omega) hradix))
        rw [Nat.toDigits_of_base_le hradix hn, List.mapM_append, hdigits, List.mapM_cons,
          hvalue _ hmod]
        simp only [List.mapM_nil, Option.pure_def, Option.bind_eq_bind, Option.bind_some, Option.map_some,
          List.foldl_append, hsum, List.foldl_cons, List.foldl_nil]
        rw [Nat.mul_comm, Nat.div_add_mod]

theorem digitValue?_lt {c : Char} {d : Nat} (h : digitValue? radix c = some d) : d < radix := by
  simp only [digitValue?, Option.ite_none_right_eq_some] at h
  rw [← Option.some.inj h.2]
  exact h.1

/-- So many digits are below so much. -/
theorem foldl_digits_lt {cs : List Char} {digits : List Nat} (h : cs.mapM (digitValue? radix) = some digits) :
    digits.foldl (fun n d => n * radix + d) 0 < Nat.pow radix cs.length := by
  induction cs using List.reverseRecOn generalizing digits with
  | nil =>
      obtain rfl := Option.some.inj h
      exact Nat.one_pos
  | append_singleton cs c ih =>
      rw [List.mapM_append] at h
      obtain ⟨front, hfront, h⟩ := Option.bind_eq_some_iff.1 h
      obtain ⟨last, hlast, h⟩ := Option.bind_eq_some_iff.1 h
      obtain ⟨d, hd, rfl⟩ : ∃ d < radix, last = [d] := by
        rw [List.mapM_cons] at hlast
        obtain ⟨d, hd, hlast⟩ := Option.bind_eq_some_iff.1 hlast
        refine ⟨d, digitValue?_lt hd, (Option.some.inj hlast).symm⟩
      obtain rfl := Option.some.inj h
      have hfold := ih hfront
      rw [List.foldl_append, List.length_append]
      simp only [List.foldl_cons, List.foldl_nil, List.length_singleton]
      calc _ < front.foldl (fun n d => n * radix + d) 0 * radix + radix := Nat.add_lt_add_left hd _
        _ = (front.foldl (fun n d => n * radix + d) 0 + 1) * radix := (Nat.succ_mul ..).symm
        _ ≤ Nat.pow radix cs.length * radix := Nat.mul_le_mul_right radix hfold
        _ = Nat.pow radix (cs.length + 1) := rfl

end

theorem digitValue?_ten : ∀ d < 10, digitValue? 10 (Nat.digitChar d) = some d := by
  decide

theorem digitValue?_sixteen : ∀ d < 16, digitValue? 16 (Nat.digitChar d) = some d := by
  decide

theorem part_toDigits {n : Nat} (h : n < UInt32.size) : part (Nat.toDigits 10 n) = .number n := by
  obtain ⟨digits, hdigits, hsum⟩ := Option.map_eq_some_iff.1 (mapM_toDigits (by decide) digitValue?_ten n)
  have hten : inRadix 10 (Nat.toDigits 10 n) = .number n := by
    rw [inRadix, hdigits]
    simp only [hsum, if_pos h]
  have hzero : (Nat.toDigits 10 n).head? = some '0' → n = 0 := Json.Numeral.head?_toDigits
  unfold part
  split
  · rename_i hnil
    exact absurd hnil Nat.toDigits_ne_nil
  · rename_i hone
    rw [hzero (by rw [hone]; rfl)]
  · rename_i c rest hmore
    rw [hzero (by rw [hmore]; rfl), Nat.toDigits_zero] at hmore
    cases hmore
  · exact hten

/-- The parts of an address in decimal. -/
def bytes (n : Nat) : List Nat :=
  [n / Nat.pow 256 3 % 256, n / Nat.pow 256 2 % 256, n / Nat.pow 256 1 % 256, n / Nat.pow 256 0 % 256]

theorem bytes_lt {n b : Nat} (h : b ∈ bytes n) : b < 256 := by
  simp only [bytes, List.mem_cons, List.not_mem_nil, or_false] at h
  rcases h with rfl | rfl | rfl | rfl <;> exact Nat.mod_lt _ (by decide)

theorem text_eq (n : Nat) : text n = ['.'].intercalate ((bytes n).map (Nat.toDigits 10)) := by
  simp [text, bytes, List.intercalate]

theorem isDigit_of_mem_text {n : Nat} {c : Char} (h : c ∈ text n) : c = '.' ∨ c.isDigit = true := by
  rw [text_eq] at h
  refine (Text.mem_intercalate h).imp_right fun ⟨part, hpart, hc⟩ => ?_
  obtain ⟨b, -, rfl⟩ := List.mem_map.1 hpart
  exact Json.Numeral.isDigit_toDigits hc

theorem splitOn_text (n : Nat) : splitOn '.' (text n) = (bytes n).map (Nat.toDigits 10) := by
  rw [text_eq]
  refine Text.splitOn_intercalate (by simp [bytes]) fun part hpart hdot => ?_
  obtain ⟨b, -, rfl⟩ := List.mem_map.1 hpart
  exact absurd (Json.Numeral.isDigit_toDigits hdot) (by decide)

theorem endsInNumber_text (n : Nat) : endsInNumber (text n) = true := by
  obtain ⟨c, cs, hlast⟩ := List.exists_cons_of_ne_nil
    (Nat.toDigits_ne_nil (b := 10) (n := n / Nat.pow 256 0 % 256))
  have hdigits : (c :: cs).all Char.isDigit = true :=
    List.all_eq_true.2 fun d hd => Json.Numeral.isDigit_toDigits (hlast ▸ hd)
  rw [endsInNumber, splitOn_text]
  simp only [bytes, List.map_cons, List.map_nil, List.reverse_cons, List.reverse_nil, List.nil_append,
    List.cons_append, hlast, hdigits]
  rfl

theorem parse?_text {n : Nat} (h : n < UInt32.size) : parse? (text n) = some n := by
  have hend : ¬((bytes n).map (Nat.toDigits 10)).getLast? = some [] := by
    simp [bytes, Nat.toDigits_ne_nil]
  rw [parse?, splitOn_text]
  simp only [beq_iff_eq, if_neg hend]
  refine Option.bind_eq_some_iff.2 ⟨bytes n, Text.mapM_iff_forall₂.2 ?_, ?_⟩
  · rw [List.forall₂_map_left_iff, List.forall₂_same]
    intro b hb
    rw [part_toDigits ((bytes_lt hb).trans (by decide))]
  · have hvalue : ((n / 16777216 % 256 ≤ 255 ∧ n / 65536 % 256 ≤ 255 ∧ n / 256 % 256 ≤ 255) ∧
        n % 256 < 256) ∧ n / 16777216 % 256 * 16777216 + n / 65536 % 256 * 65536 + n / 256 % 256 * 256 +
          n % 256 = n := by
      simp only [UInt32.size] at h
      omega
    simpa [bytes] using hvalue

/-- Bytes leave room for what a number in the places behind them may be. -/
theorem foldl_bytes_add_le {front : List Nat} (hbytes : ∀ b ∈ front, b ≤ 255) {n i : Nat}
    (hlength : i + front.length ≤ 4) :
    (front.zipIdx i).foldl (fun n (b, i) => n + b * Nat.pow 256 (3 - i)) n +
      Nat.pow 256 (4 - (i + front.length)) ≤ n + Nat.pow 256 (4 - i) := by
  induction front generalizing n i with
  | nil => exact Nat.le_refl _
  | cons b front ih =>
      rw [List.length_cons] at hlength ⊢
      have hplace : Nat.pow 256 (4 - i) = Nat.pow 256 (3 - i) * 256 := by
        rw [show 4 - i = (3 - i) + 1 by omega]
        rfl
      have hb : b * Nat.pow 256 (3 - i) ≤ 255 * Nat.pow 256 (3 - i) :=
        Nat.mul_le_mul_right _ (hbytes b List.mem_cons_self)
      have hrest := ih (fun c hc => hbytes c (List.mem_cons_of_mem b hc))
        (n := n + b * Nat.pow 256 (3 - i)) (i := i + 1) (by omega)
      rw [show 4 - (i + 1) = 3 - i by omega,
        show i + 1 + front.length = i + (front.length + 1) by omega] at hrest
      rw [List.zipIdx_cons, List.foldl_cons]
      exact hrest.trans (by omega)

theorem high_add_last_lt {front : List Nat} {last : Nat} (hlength : front.length ≤ 3)
    (hbytes : ∀ b ∈ front, b ≤ 255) (hlast : last < Nat.pow 256 (4 - front.length)) :
    (front.zipIdx).foldl (fun n (b, i) => n + b * Nat.pow 256 (3 - i)) 0 + last < UInt32.size := by
  have hall := foldl_bytes_add_le hbytes (n := 0) (i := 0) (by omega)
  rw [Nat.zero_add, Nat.zero_add] at hall
  exact (Nat.add_lt_add_left hlast _).trans_le hall

theorem lt_of_parse? {host : List Char} {n : Nat} (h : parse? host = some n) : n < UInt32.size := by
  rw [parse?] at h
  obtain ⟨numbers, -, h⟩ := Option.bind_eq_some_iff.1 h
  obtain ⟨last, -, h⟩ := Option.bind_eq_some_iff.1 h
  dsimp only at h
  split at h
  · cases h
  · rename_i hsmall
    simp only [Bool.or_eq_true, Bool.not_eq_true', decide_eq_true_eq, not_or, Bool.not_eq_false,
      List.all_eq_true, Nat.not_lt, Nat.not_le] at hsmall
    rw [← Option.some.inj h]
    exact high_add_last_lt hsmall.1.1 hsmall.1.2 hsmall.2

end Ipv4

namespace Ipv6

/-- How many values a group may have. -/
def groupSize : Nat := 65536

section

variable {groups : List Nat}

theorem not_mem_toDigits {n : Nat} {c : Char} (h : ∀ d < 16, Nat.digitChar d ≠ c) :
    c ∉ Nat.toDigits 16 n := fun hc => by
  obtain ⟨d, hd, rfl⟩ := Ipv4.mem_toDigits (by decide) hc
  exact h d hd rfl

theorem colon_not_mem_toDigits (n : Nat) : ':' ∉ Nat.toDigits 16 n :=
  not_mem_toDigits (by decide)

theorem dot_not_mem_toDigits (n : Nat) : '.' ∉ Nat.toDigits 16 n :=
  not_mem_toDigits (by decide)

theorem splitOn_groupsText (hfilled : groups ≠ []) :
    splitOn ':' (groupsText groups) = groups.map (Nat.toDigits 16) := by
  refine Text.splitOn_intercalate (by simpa using hfilled) fun part hpart => ?_
  obtain ⟨g, -, rfl⟩ := List.mem_map.1 hpart
  exact colon_not_mem_toDigits g

theorem group?_toDigits {n : Nat} (h : n < groupSize) : group? (Nat.toDigits 16 n) = some n := by
  have hlength : (Nat.toDigits 16 n).length ≤ 4 := (Nat.length_toDigits_le_iff (by decide) (by decide)).2 h
  have hfilled : (Nat.toDigits 16 n).isEmpty = false := by
    simp
  rw [group?, hfilled, if_neg (by simpa using hlength)]
  exact Ipv4.mapM_toDigits (by decide) Ipv4.digitValue?_sixteen n

theorem groups?_map_toDigits (h : ∀ g ∈ groups, g < groupSize) (atEnd : Bool) :
    groups? atEnd (groups.map (Nat.toDigits 16)) = some groups := by
  induction groups with
  | nil => rfl
  | cons g groups ih =>
      have hgroup := group?_toDigits (h g List.mem_cons_self)
      cases groups with
      | nil =>
          have hdot : (Nat.toDigits 16 g).contains '.' = false := by
            simpa using dot_not_mem_toDigits g
          rw [List.map_singleton, groups?, hdot, Bool.and_false, if_neg Bool.false_ne_true, hgroup]
          rfl
      | cons next groups =>
          have hrest := ih fun n hn => h n (List.mem_cons_of_mem g hn)
          rw [List.map_cons] at hrest
          rw [List.map_cons, List.map_cons, groups?, hgroup, hrest]
          · rfl
          · exact List.cons_ne_nil _ _

theorem groupsText_cons (g : Nat) (hfilled : groups ≠ []) :
    groupsText (g :: groups) = Nat.toDigits 16 g ++ ':' :: groupsText groups := by
  obtain ⟨next, rest, rfl⟩ := List.exists_cons_of_ne_nil hfilled
  rw [groupsText, List.map_cons, List.map_cons, List.intercalate_cons_cons, List.append_assoc]
  rfl

/-- Groups that are written out begin with a digit. -/
theorem groupsText_eq_cons (hfilled : groups ≠ []) : ∃ c cs, groupsText groups = c :: cs ∧ c ≠ ':' := by
  obtain ⟨g, rest, rfl⟩ := List.exists_cons_of_ne_nil hfilled
  obtain ⟨c, cs, hdigits⟩ := List.exists_cons_of_ne_nil (Nat.toDigits_ne_nil (b := 16) (n := g))
  have hc : c ≠ ':' := by
    rintro rfl
    exact colon_not_mem_toDigits g (hdigits ▸ List.mem_cons_self)
  by_cases hrest : rest = []
  · refine ⟨c, cs, ?_, hc⟩
    rw [hrest, ← hdigits]
    simp [groupsText, List.intercalate]
  · refine ⟨c, cs ++ ':' :: groupsText rest, ?_, hc⟩
    rw [groupsText_cons g hrest, hdigits]
    rfl

theorem side?_groupsText (h : ∀ g ∈ groups, g < groupSize) (atEnd : Bool) :
    side? atEnd (groupsText groups) = some groups := by
  rw [side?]
  by_cases hfilled : groups = []
  · subst hfilled
    rfl
  · obtain ⟨c, cs, htext, -⟩ := groupsText_eq_cons hfilled
    have hsome : (groupsText groups).isEmpty = false := by
      rw [htext]
      rfl
    rw [hsome, if_neg Bool.false_ne_true, splitOn_groupsText hfilled, groups?_map_toDigits h]

theorem cutAtGap_cons {c : Char} {cs : List Char} (h : c = ':' → cs.head? ≠ some ':') :
    cutAtGap (c :: cs) = (cutAtGap cs).map fun (front, back) => (c :: front, back) := by
  rw [cutAtGap]
  rintro rest rfl rfl
  exact h rfl rfl

theorem cutAtGap_append {digits : List Char} (h : ':' ∉ digits) (rest : List Char) :
    cutAtGap (digits ++ rest) = (cutAtGap rest).map fun (front, back) => (digits ++ front, back) := by
  induction digits with
  | nil => simp
  | cons c digits ih =>
      have hc : c ≠ ':' := by
        rintro rfl
        exact h List.mem_cons_self
      rw [List.cons_append, cutAtGap_cons fun heq => absurd heq hc,
        ih fun hd => h (List.mem_cons_of_mem c hd), Option.map_map]
      rfl

/-- There is no gap between groups that are written out. -/
theorem cutAtGap_groupsText (groups : List Nat) (rest : List Char) :
    cutAtGap (groupsText groups ++ rest) =
      (cutAtGap rest).map fun (front, back) => (groupsText groups ++ front, back) := by
  induction groups with
  | nil =>
      have hnil : groupsText [] = [] := rfl
      simp [hnil]
  | cons g groups ih =>
      by_cases hfilled : groups = []
      · have hone : groupsText [g] = Nat.toDigits 16 g := by
          simp [groupsText, List.intercalate]
        rw [hfilled, hone, cutAtGap_append (colon_not_mem_toDigits g)]
      · obtain ⟨c, cs, htext, hc⟩ := groupsText_eq_cons hfilled
        have hcolon : cutAtGap (':' :: (groupsText groups ++ rest)) =
            (cutAtGap (groupsText groups ++ rest)).map fun (front, back) => (':' :: front, back) :=
          cutAtGap_cons fun _ => by
            rw [htext]
            simpa using hc
        rw [groupsText_cons g hfilled, List.append_assoc, List.cons_append,
          cutAtGap_append (colon_not_mem_toDigits g), hcolon, ih, Option.map_map, Option.map_map]
        congr 1
        funext ⟨front, back⟩
        simp

/-- Zeros that the groups begin with. -/
theorem eq_of_le_zerosAtStart {n : Nat} (h : n ≤ zerosAtStart groups) :
    groups = List.replicate n 0 ++ groups.drop n := by
  induction n generalizing groups with
  | zero => rfl
  | succ n ih =>
      cases groups with
      | nil => exact absurd h (Nat.not_succ_le_zero n)
      | cons g groups =>
          rw [zerosAtStart, List.takeWhile_cons] at h
          split at h
          · rename_i hg
            rw [List.replicate_succ, List.cons_append, List.drop_succ_cons,
              ← ih (Nat.le_of_succ_le_succ h), beq_iff_eq.1 hg]
          · exact absurd h (Nat.not_succ_le_zero n)

theorem longestGap_le (groups : List Nat) :
    (longestGap groups).2 ≤ zerosAtStart (groups.drop (longestGap groups).1) := by
  refine List.foldlRecOn (motive := fun best : Nat × Nat => best.2 ≤ zerosAtStart (groups.drop best.1))
    _ _ ?_ ?_
  · exact Nat.zero_le _
  · intro best hbest i _
    dsimp only
    split
    · exact Nat.le_refl _
    · exact hbest

theorem parse?_text (hlength : groups.length = 8) (h : ∀ g ∈ groups, g < groupSize) :
    parse? (text groups) = some groups := by
  obtain ⟨place, n, hgap⟩ : ∃ place n, longestGap groups = (place, n) := ⟨_, _, rfl⟩
  have hzeros := eq_of_le_zerosAtStart (longestGap_le groups)
  rw [hgap, List.drop_drop] at hzeros
  rw [text, hgap]
  dsimp only at hzeros ⊢
  split
  · have hcut : cutAtGap (groupsText groups) = none := by
      have hall := cutAtGap_groupsText groups []
      rwa [List.append_nil] at hall
    rw [parse?, hcut]
    dsimp only
    rw [side?_groupsText h, Option.bind_eq_bind, Option.bind_some, hlength]
    rfl
  · rename_i hlong
    have hcut : cutAtGap (groupsText (groups.take place) ++ [':', ':'] ++
        groupsText (groups.drop (place + n))) =
          some (groupsText (groups.take place), groupsText (groups.drop (place + n))) := by
      rw [List.append_assoc, cutAtGap_groupsText]
      simp [cutAtGap]
    have hwhole : groups.take place ++ (List.replicate n 0 ++ groups.drop (place + n)) = groups := by
      rw [← hzeros, List.take_append_drop]
    have hcount : (groups.take place).length + (n + (groups.drop (place + n)).length) = 8 := by
      have hsum := congrArg List.length hwhole
      rwa [List.length_append, List.length_append, List.length_replicate, hlength] at hsum
    rw [parse?, hcut]
    dsimp only
    rw [side?_groupsText fun g hg => h g (List.mem_of_mem_take hg),
      side?_groupsText fun g hg => h g (List.mem_of_mem_drop hg), Option.bind_eq_bind, Option.bind_some,
      Option.bind_some, if_pos (by omega)]
    have hn : 8 - (groups.take place).length - (groups.drop (place + n)).length = n := by omega
    rw [hn, List.append_assoc, hwhole]

end

theorem group?_lt {cs : List Char} {n : Nat} (h : group? cs = some n) : n < groupSize := by
  rw [group?] at h
  split at h
  · cases h
  · rename_i hsize
    obtain ⟨digits, hdigits, rfl⟩ := Option.map_eq_some_iff.1 h
    have hlength : cs.length ≤ 4 := by
      simp only [Bool.or_eq_true, decide_eq_true_eq, not_or, Nat.not_lt] at hsize
      exact hsize.2
    exact (Ipv4.foldl_digits_lt hdigits).trans_le (Nat.pow_le_pow_right (by decide) hlength)

theorem byte?_le {cs : List Char} {n : Nat} (h : byte? cs = some n) : n ≤ 255 := by
  unfold byte? at h
  split at h
  · cases h
  · cases h
  · split at h
    · cases h
    · exact of_decide_eq_true (Option.mem_filter_iff.1 h).2

theorem dotted?_lt {cs : List Char} {groups : List Nat} (h : dotted? cs = some groups) :
    ∀ g ∈ groups, g < groupSize := by
  rw [dotted?] at h
  split at h
  · rename_i a b c d hbytes
    have hsmall : ∀ n ∈ [a, b, c, d], n ≤ 255 := fun n hn => by
      obtain ⟨part, -, hpart⟩ := Text.exists_of_mem_right (Text.mapM_iff_forall₂.1 hbytes) hn
      exact byte?_le hpart
    have ha := hsmall a (by simp)
    have hb := hsmall b (by simp)
    have hc := hsmall c (by simp)
    have hd := hsmall d (by simp)
    obtain rfl := Option.some.inj h
    intro g hg
    simp only [List.mem_cons, List.not_mem_nil, or_false] at hg
    rw [groupSize]
    omega
  · cases h

theorem groups?_lt {atEnd : Bool} {parts : List (List Char)} {groups : List Nat}
    (h : groups? atEnd parts = some groups) : ∀ g ∈ groups, g < groupSize := by
  induction parts generalizing groups with
  | nil =>
      obtain rfl := Option.some.inj h
      simp
  | cons part parts ih =>
      cases parts with
      | nil =>
          rw [groups?] at h
          split at h
          · exact dotted?_lt h
          · obtain ⟨n, hn, rfl⟩ := Option.map_eq_some_iff.1 h
            simpa using group?_lt hn
      | cons next parts =>
          rw [groups?] at h
          · obtain ⟨n, hn, h⟩ := Option.bind_eq_some_iff.1 h
            obtain ⟨ns, hns, h⟩ := Option.bind_eq_some_iff.1 h
            obtain rfl := Option.some.inj h
            exact List.forall_mem_cons.2 ⟨group?_lt hn, ih hns⟩
          · exact List.cons_ne_nil _ _

theorem side?_lt {atEnd : Bool} {cs : List Char} {groups : List Nat} (h : side? atEnd cs = some groups) :
    ∀ g ∈ groups, g < groupSize := by
  rw [side?] at h
  split at h
  · obtain rfl := Option.some.inj h
    simp
  · exact groups?_lt h

theorem parse?_sound {cs : List Char} {groups : List Nat} (h : parse? cs = some groups) :
    groups.length = 8 ∧ ∀ g ∈ groups, g < groupSize := by
  rw [parse?] at h
  split at h
  · obtain ⟨all, hall, h⟩ := Option.bind_eq_some_iff.1 h
    split at h
    · rename_i hlength
      obtain rfl := Option.some.inj h
      exact ⟨beq_iff_eq.1 hlength, side?_lt hall⟩
    · cases h
  · obtain ⟨front, hfront, h⟩ := Option.bind_eq_some_iff.1 h
    obtain ⟨back, hback, h⟩ := Option.bind_eq_some_iff.1 h
    split at h
    · rename_i hlength
      obtain rfl := Option.some.inj h
      refine ⟨by simp; omega, fun g hg => ?_⟩
      simp only [List.mem_append, List.mem_replicate] at hg
      rcases hg with (hg | ⟨-, rfl⟩) | hg
      · exact side?_lt hfront g hg
      · decide
      · exact side?_lt hback g hg
    · cases h

/-- What an address is written with. -/
theorem mem_text {groups : List Nat} {c : Char} (h : c ∈ text groups) :
    c = ':' ∨ ∃ d < 16, c = Nat.digitChar d := by
  have hgroups : ∀ groups : List Nat, c ∈ groupsText groups → c = ':' ∨ ∃ d < 16, c = Nat.digitChar d :=
    fun groups hc => by
      refine (Text.mem_intercalate hc).imp_right fun ⟨part, hpart, hc⟩ => ?_
      obtain ⟨g, -, rfl⟩ := List.mem_map.1 hpart
      exact Ipv4.mem_toDigits (by decide) hc
  rw [text] at h
  dsimp only at h
  split at h
  · exact hgroups _ h
  · simp only [List.mem_append] at h
    rcases h with (h | h) | h
    · exact hgroups _ h
    · exact .inl (by simpa using h)
    · exact hgroups _ h

end Ipv6

end Lineage
