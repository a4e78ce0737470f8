import Mathlib
import Lineage.Proofs.Url.Reading

/-! A host that is written but not read back. Of a label of at most a thousand characters, some hundreds of
which are far apart, the Punycode is too long to be read. -/

namespace Lineage

namespace Punycode

theorem length_number_pos (bias fuel place n : Nat) : 0 < (number bias (fuel + 1) place n).length := by
  rw [number]
  split <;> simp

/-- From 936 on a number has three digits, whatever the bias. -/
theorem three_le_length_number (bias : Nat) {fuel n : Nat} (hfuel : 2 ≤ fuel) (hn : 936 ≤ n) :
    3 ≤ (number bias (fuel + 1) base n).length := by
  obtain ⟨fuel, rfl⟩ := Nat.exists_eq_add_of_le' hfuel
  have hone := one_le_threshold base bias
  have hle := threshold_le base bias
  have hnext := threshold_le (base + base) bias
  have hbase : base = 36 := rfl
  have hrest : 26 ≤ (n - threshold base bias) / (base - threshold base bias) := by
    rw [Nat.le_div_iff_mul_le (by omega)]
    omega
  rw [number, if_neg (Nat.not_lt.2 (hle.trans (by omega))), number,
    if_neg (Nat.not_lt.2 (hnext.trans hrest))]
  have hlast := length_number_pos bias fuel (base + base + base)
    (((n - threshold base bias) / (base - threshold base bias) - threshold (base + base) bias) /
      (base - threshold (base + base) bias))
  simp only [List.length_cons]
  omega

/-- Neither what is written nor the count of the characters that are put in gets less. -/
def Encoder.Grows (e e' : Encoder) (digits chars : Nat) : Prop :=
  e.written.length + digits ≤ e'.written.length ∧ e.handled + chars ≤ e'.handled

theorem Encoder.grows_pass (basic m : Nat) (e : Encoder) (c : Char) : e.Grows (e.pass basic m c) 0 0 := by
  rw [pass]
  split
  · exact ⟨Nat.le_refl _, Nat.le_refl _⟩
  · split
    · exact ⟨by simp, Nat.le_succ _⟩
    · exact ⟨Nat.le_refl _, Nat.le_refl _⟩

theorem Encoder.grows_foldl (basic m : Nat) (label : List Char) (e : Encoder) :
    e.Grows (label.foldl (pass basic m) e) 0 0 := by
  induction label generalizing e with
  | nil => exact ⟨Nat.le_refl _, Nat.le_refl _⟩
  | cons c label ih =>
      obtain ⟨hwritten, hhandled⟩ := grows_pass basic m e c
      obtain ⟨hrest, hcount⟩ := ih (e.pass basic m c)
      exact ⟨hwritten.trans hrest, hhandled.trans hcount⟩

/-- The first character at a code point that is far off takes three digits. -/
theorem Encoder.grows_of_mem (basic : Nat) {label : List Char} {c : Char} (h : c ∈ label) {e : Encoder}
    (hdelta : 936 ≤ e.delta) : e.Grows (label.foldl (pass basic c.toNat) e) 3 1 := by
  induction label generalizing e with
  | nil => cases h
  | cons d label ih =>
      rw [List.foldl_cons, pass]
      rcases Nat.lt_trichotomy d.toNat c.toNat with hd | hd | hd
      · have hmem : c ∈ label := (List.mem_cons.1 h).resolve_left (by rintro rfl; omega)
        rw [if_pos hd]
        exact ih (e := { e with delta := e.delta + 1 }) hmem (hdelta.trans (Nat.le_succ _))
      · rw [if_neg (by omega), if_pos (beq_iff_eq.2 hd)]
        obtain ⟨hwritten, hhandled⟩ := grows_foldl basic c.toNat label
          { written := e.written ++ number e.bias (e.delta + 1) base e.delta, delta := 0,
            bias := adapt e.delta (e.handled + 1) (e.handled == basic), handled := e.handled + 1 }
        have hthree := three_le_length_number e.bias (show 2 ≤ e.delta by omega) hdelta
        rw [List.length_append] at hwritten
        exact ⟨by omega, hhandled⟩
      · have hmem : c ∈ label := (List.mem_cons.1 h).resolve_left (by rintro rfl; omega)
        rw [if_neg (by omega), if_neg (by simpa using by omega)]
        exact ih hmem hdelta

/-- Behind enough plain characters, code points that are some way apart take three digits each. -/
theorem length_run {label : List Char} (basic : Nat) {n : Nat} {points : List Nat} {e : Encoder}
    (hmem : ∀ p ∈ points, ∃ c ∈ label, c.toNat = p) (hapart : points.Pairwise (· + 4 ≤ ·))
    (hfirst : ∀ p ∈ points, n + 3 ≤ p) (hhandled : 311 ≤ e.handled) :
    e.written.length + 3 * points.length ≤ (Encoder.run label basic points n e).written.length := by
  induction points generalizing n e with
  | nil => exact Nat.le_refl _
  | cons p points ih =>
      obtain ⟨c, hc, rfl⟩ := hmem p List.mem_cons_self
      have hfar : 936 ≤ e.delta + (c.toNat - n) * (e.handled + 1) := by
        have hgap := hfirst c.toNat List.mem_cons_self
        have hmul : 3 * 312 ≤ (c.toNat - n) * (e.handled + 1) := Nat.mul_le_mul (by omega) (by omega)
        omega
      obtain ⟨hwritten, hcount⟩ := Encoder.grows_of_mem basic hc
        (e := { e with delta := e.delta + (c.toNat - n) * (e.handled + 1) }) hfar
      have hrest := ih (n := c.toNat + 1)
        (e := { label.foldl (Encoder.pass basic c.toNat)
            { e with delta := e.delta + (c.toNat - n) * (e.handled + 1) } with
          delta := (label.foldl (Encoder.pass basic c.toNat)
            { e with delta := e.delta + (c.toNat - n) * (e.handled + 1) }).delta + 1 })
        (fun q hq => hmem q (List.mem_cons_of_mem _ hq)) hapart.of_cons
        (fun q hq => by
          have hnext := List.rel_of_pairwise_cons hapart hq
          omega)
        (by simp only at hcount ⊢; omega)
      rw [Encoder.run, List.length_cons]
      simp only at hwritten hrest ⊢
      omega

end Punycode

namespace Domain

open Text (splitOn)

variable {label : List Char}

/-- A label of characters that the tables leave alone. -/
structure IsPlain (label : List Char) : Prop where
  wide : isAscii label = false
  fixed : ∀ c ∈ label, IsFixed c
  dotless : '.' ∉ label
  allowed : label.any isForbidden = false
  unmarked : isMarked label = false
  length_le : label.length ≤ labelLimit

namespace IsPlain

theorem isValid (h : IsPlain label) : isValid label = true := by
  have hmapped : label.all (fun c => mapChar? c == some [c]) = true :=
    List.all_eq_true.2 fun c hc => beq_iff_eq.2 (mapChar?_of_isFixed (h.fixed c hc))
  have hhead : label.head?.any (mem marks) = false := by
    cases label with
    | nil => rfl
    | cons c cs => exact mem_of_spares spares_marks (h.fixed c List.mem_cons_self)
  have hjoiners : joinersFit label = true := by
    rw [joinersFit, List.all_eq_true]
    intro i hi
    have hlt : i < label.length := List.mem_range.1 hi
    have hfixed := h.fixed label[i] (List.getElem_mem hlt)
    have hne : label[i] ≠ '\u200d' ∧ label[i] ≠ '\u200c' := by
      constructor <;> intro heq <;> rw [heq] at hfixed <;> revert hfixed <;> simp [IsFixed]
    rw [List.getElem?_eq_getElem hlt]
    simp [hne.1, hne.2]
  rw [Domain.isValid, hmapped, normalized_of_isFixed h.fixed, hhead, hjoiners, beq_self_eq_true]
  rfl

theorem unicodeLabel?_self (h : IsPlain label) : unicodeLabel? label = some label := by
  have hreadable : isUnreadable label = false := by rw [isUnreadable, h.unmarked, Bool.false_and]
  rw [unicodeLabel?, hreadable, h.unmarked, h.wide, wideLabel?, h.isValid]
  simp [h.length_le]

theorem toAscii?_self (h : IsPlain label) : toAscii? label = some (mark ++ Punycode.encode label) := by
  have hlabels : [label].mapM unicodeLabel? = some [label] := by
    rw [List.mapM_cons, h.unicodeLabel?_self]
    rfl
  have hbidi : isBidirectional [label] = false := by
    have hnone : ∀ c ∈ label, ¬(mem rightToLeft c || mem arabicNumbers c) = true := fun c hc => by
      rw [mem_of_spares spares_rightToLeft (h.fixed c hc), mem_of_spares spares_arabicNumbers (h.fixed c hc)]
      decide
    rw [isBidirectional, List.any_cons, List.any_eq_false.2 hnone]
    rfl
  rw [toAscii?, h.wide]
  simp only [Bool.false_and, Bool.false_eq_true, if_false]
  rw [mappedAscii?_of_isFixed h.fixed, Text.splitOn_of_not_mem h.dotless, hlabels, Option.bind_some, hbidi,
    List.any_cons, h.allowed]
  simp [joined, asciiLabel, h.wide, List.intercalate_singleton]

theorem ne_of_isForbidden (h : IsPlain label) {c : Char} (hc : isForbidden c = true) : c ∉ label :=
  fun hmem => absurd hc (List.any_eq_false.1 h.allowed c hmem)

theorem ne_nil (h : IsPlain label) : label ≠ [] := by
  rintro rfl
  cases h.wide

theorem splitOn_written (h : IsPlain label) :
    splitOn '.' (mark ++ Punycode.encode label) = [mark ++ Punycode.encode label] := by
  refine Text.splitOn_of_not_mem fun hdot => ?_
  rcases List.mem_append.1 hdot with hdot | hdot
  · exact (isHostChar_written (.inl hdot)).2 rfl
  · rcases Punycode.mem_encode hdot with ⟨hdot, -⟩ | hdot | hdot
    · exact h.dotless hdot
    · cases hdot
    · exact (isHostChar_written (.inr hdot)).2 rfl

/-- What is marked is no address. -/
theorem endsInNumber_written (h : IsPlain label) :
    Ipv4.endsInNumber (mark ++ Punycode.encode label) = false := by
  rw [Ipv4.endsInNumber, h.splitOn_written]
  rfl

/-- The label is a host of its own. -/
theorem parse_self (h : IsPlain label) :
    Host.parse label = .ok (.name ⟨mark ++ Punycode.encode label, label, h.toAscii?_self⟩) := by
  have hhead : ¬(label.head? == some '[') = true := fun hhead =>
    h.ne_of_isForbidden rfl (List.mem_of_head? (beq_iff_eq.1 hhead))
  have hdomain : DomainName.ofChars? label =
      some ⟨mark ++ Punycode.encode label, label, h.toAscii?_self⟩ :=
    DomainName.ofChars?_of_some h.toAscii?_self
  rw [Host.parse, if_neg hhead, Percent.decodeLossy_decode (h.ne_of_isForbidden rfl)]
  simp only [hdomain, h.endsInNumber_written]
  rfl

end IsPlain

end Domain

namespace Url

section

variable {cs : List Char} {host : Host}

theorem not_mem_of_allowed (allowed : ∀ c ∈ cs, Domain.isForbidden c = false) {d : Char}
    (hd : Domain.isForbidden d = true) : d ∉ cs := fun hmem => by
  rw [allowed d hmem] at hd
  cases hd

theorem ne_of_allowed (allowed : ∀ c ∈ cs, Domain.isForbidden c = false) {d : Char}
    (hd : Domain.isForbidden d = true) : ∀ c ∈ cs, c ≠ d := fun _ hc heq =>
  not_mem_of_allowed allowed hd (heq ▸ hc)

theorem low_of_allowed (allowed : ∀ c ∈ cs, Domain.isForbidden c = false) : ∀ c ∈ cs, 0x20 < c.toNat := by
  intro c hc
  have hallowed := allowed c hc
  simp only [Domain.isForbidden, Bool.or_eq_false_iff, decide_eq_false_iff_not, Nat.not_le] at hallowed
  omega

theorem isBlank_of_isFixed {c : Char} (h : Domain.IsFixed c) (low : 0x20 < c.toNat) :
    Text.isBlank c = false := by
  rcases h with ⟨hascii, -⟩ | ⟨hideograph, -⟩
  · exact IsVisible.not_isBlank ⟨low, hascii⟩
  · simp only [Text.isBlank, Bool.or_eq_false_iff, Bool.and_eq_false_iff, decide_eq_false_iff_not,
      beq_eq_false_iff_ne]
    omega

variable (hhost : Host.parse cs = .ok host) (filled : cs ≠ [])
  (allowed : ∀ c ∈ cs, Domain.isForbidden c = false)

include hhost filled allowed

theorem readServer_name : readServer cs = .ok (host, none) := by
  have hsame : ∀ c ∈ cs, c ≠ '[' ∧ c ≠ ']' ∧ (false = false → c ≠ ':') := fun c hc =>
    ⟨ne_of_allowed allowed rfl c hc, ne_of_allowed allowed rfl c hc,
      fun _ => ne_of_allowed allowed rfl c hc⟩
  have hlength : hostLength false cs = cs.length := by
    have hall := hostLength_append hsame []
    rwa [List.append_nil] at hall
  have hcut : cutPort cs = (cs, none) := by
    rw [cutPort, hlength, List.take_length, if_neg (Nat.lt_irrefl _)]
  rw [readServer, hcut]
  simp only [List.isEmpty_iff, if_neg filled, hhost]
  rfl

theorem readHierarchy_name :
    readHierarchy .http ('/' :: '/' :: cs) = .ok ⟨.http, [], none, host, none, [[]]⟩ := by
  have hslash := ne_of_allowed allowed (d := '/') rfl
  have hback := ne_of_allowed allowed (d := '\\') rfl
  have hquery := ne_of_allowed allowed (d := '?') rfl
  have hfragment := ne_of_allowed allowed (d := '#') rfl
  have hgoesOn : ∀ c ∈ cs, (!endsAuthority c) = true := fun c hc => by
    simp [endsAuthority, hslash c hc, hback c hc, hquery c hc, hfragment c hc]
  have hslashes : ('/' :: '/' :: cs).dropWhile (fun c => c == '/' || c == '\\') = cs := by
    have hstop : ∀ c ∈ cs, (c == '/' || c == '\\') = false := fun c hc => by
      simp [hslash c hc, hback c hc]
    exact dropWhile_eq_self hstop
  have hauthority : cs.takeWhile (!endsAuthority ·) = cs := List.takeWhile_eq_self_iff.2 hgoesOn
  have hpath : cs.dropWhile (!endsAuthority ·) = [] := List.dropWhile_eq_nil_iff.2 hgoesOn
  rw [readHierarchy]
  simp only [hslashes, hauthority, hpath, cutUserinfo_of_not_mem (not_mem_of_allowed allowed rfl),
    readServer_name hhost filled allowed]
  rfl

/-- A name alone, of characters that the tables leave alone, is where a server's base is. -/
theorem server_name (fixed : ∀ c ∈ cs, Domain.IsFixed c) :
    server (String.ofList (Scheme.http.text ++ ':' :: '/' :: '/' :: cs)) =
      .ok ⟨.http, [], none, host, none, [[]]⟩ := by
  have hlow := low_of_allowed allowed
  have hblank : ∀ c ∈ cs, Text.isBlank c = false := fun c hc => isBlank_of_isFixed (fixed c hc) (hlow c hc)
  have hfront : ∀ c ∈ Scheme.http.text ++ [':', '/', '/'], IsVisible c := by
    simp [Scheme.text, isVisible_iff]
  have hraw {p : Char → Prop} (hvisible : ∀ c, IsVisible c → p c) (h : ∀ c ∈ cs, p c) :
      ∀ c ∈ Scheme.http.text ++ ':' :: '/' :: '/' :: cs, p c := by
    have hall := List.forall_mem_append.2 ⟨fun c hc => hvisible c (hfront c hc), h⟩
    rwa [List.append_assoc] at hall
  rw [server, String.toList_ofList,
    Text.trimmed_of_not_isBlank (hraw (fun _ => IsVisible.not_isBlank) hblank), parse,
    cleaned_of_low_lt (hraw (fun _ => IsVisible.low) hlow), cutScheme?_text]
  dsimp only
  rw [if_pos (beq_self_eq_true _), readHierarchy_name hhost filled allowed]
  rfl

end

end Url

namespace Domain

/-- Code points of ideographs that are some way apart. -/
def farPoints : List Nat :=
  (List.range 600).map (0x20000 + 4 * ·)

def ideographs : List Char :=
  farPoints.map Char.ofNat

/-- A label of plain letters and of ideographs that are some way apart. -/
def longLabel : List Char :=
  List.replicate 350 'a' ++ ideographs

theorem length_farPoints : farPoints.length = 600 := by
  rw [farPoints, List.length_map, List.length_range]

theorem bounds_farPoints {p : Nat} (h : p ∈ farPoints) : 0x20000 ≤ p ∧ p < 0x20000 + 2400 := by
  obtain ⟨i, hi, rfl⟩ := List.mem_map.1 h
  have hlt := List.mem_range.1 hi
  omega

theorem apart_farPoints : farPoints.Pairwise (· + 4 ≤ ·) :=
  List.pairwise_map.2 (List.pairwise_lt_range.imp fun hlt => by omega)

theorem toNat_ofNat_farPoints {p : Nat} (h : p ∈ farPoints) : (Char.ofNat p).toNat = p := by
  have hbounds := bounds_farPoints h
  rw [Char.toNat_ofNat, if_pos]
  simp only [Nat.isValidChar]
  omega

theorem map_toNat_ideographs : ideographs.map Char.toNat = farPoints := by
  rw [ideographs, List.map_map]
  exact (List.map_congr_left fun p hp => toNat_ofNat_farPoints hp).trans (List.map_id _)

theorem bounds_ideographs {c : Char} (h : c ∈ ideographs) : 0x20000 ≤ c.toNat ∧ c.toNat < 0x20000 + 2400 :=
  bounds_farPoints (map_toNat_ideographs ▸ List.mem_map_of_mem h)

theorem mem_longLabel {c : Char} (h : c ∈ longLabel) :
    c = 'a' ∨ (0x20000 ≤ c.toNat ∧ c.toNat < 0x20000 + 2400) :=
  (List.mem_append.1 h).imp List.eq_of_mem_replicate bounds_ideographs

theorem isFixed_longLabel : ∀ c ∈ longLabel, IsFixed c := by
  intro c hc
  rcases mem_longLabel hc with rfl | hc
  · exact .inl (by decide)
  · refine .inr ?_
    omega

theorem allowed_longLabel : ∀ c ∈ longLabel, isForbidden c = false := by
  intro c hc
  rcases mem_longLabel hc with rfl | hc
  · decide
  · have hne {d : Char} (hd : d.toNat < 0x80) : c ≠ d := by
      rintro rfl
      omega
    simp only [isForbidden, Bool.or_eq_false_iff, beq_eq_false_iff_ne, decide_eq_false_iff_not]
    and_intros
    · omega
    all_goals exact hne (by decide)

theorem isPlain_longLabel : IsPlain longLabel where
  wide := by
    have hmem : Char.ofNat (0x20000 + 4 * 0) ∈ longLabel :=
      List.mem_append_right _ (List.mem_map_of_mem (List.mem_map_of_mem (List.mem_range.2 (by decide))))
    exact List.all_eq_false.2 ⟨_, hmem, by decide⟩
  fixed := isFixed_longLabel
  dotless := fun hdot => by
    rcases mem_longLabel hdot with hdot | hdot
    · cases hdot
    · exact absurd hdot.1 (by decide)
  allowed := List.any_eq_false.2 fun c hc => by simpa using allowed_longLabel c hc
  unmarked := rfl
  length_le := by
    rw [longLabel, List.length_append, List.length_replicate, ideographs, List.length_map, length_farPoints]
    decide

theorem plainPart_longLabel : Punycode.plainPart longLabel = List.replicate 350 'a' := by
  have hnone : ideographs.filter (·.toNat < 128) = [] :=
    List.filter_eq_nil_iff.2 fun c hc => by
      have hbounds := bounds_ideographs hc
      rw [decide_eq_true_eq]
      omega
  rw [Punycode.plainPart, longLabel, List.filter_append, hnone, List.append_nil,
    List.filter_replicate_of_pos (by decide)]

/-- The code points that are not plain, four after four. -/
theorem points_longLabel :
    Punycode.ascending ((longLabel.filter (128 ≤ ·.toNat)).map Char.toNat) = farPoints := by
  have hall : ideographs.filter (128 ≤ ·.toNat) = ideographs :=
    List.filter_eq_self.2 fun c hc => by
      have hbounds := bounds_ideographs hc
      rw [decide_eq_true_eq]
      omega
  rw [longLabel, List.filter_append, hall, List.filter_replicate_of_neg (by decide), List.nil_append,
    map_toNat_ideographs]
  exact Punycode.ascending_eq_self (apart_farPoints.imp fun hle => by omega)

theorem length_encode_longLabel : payloadLimit < (Punycode.encode longLabel).length := by
  have hnumbers : 3 * 600 ≤ (Punycode.numbers longLabel).length := by
    have hmem : ∀ p ∈ farPoints, ∃ c ∈ longLabel, c.toNat = p := fun p hp =>
      ⟨_, List.mem_append_right _ (List.mem_map_of_mem hp), toNat_ofNat_farPoints hp⟩
    have hfirst : ∀ p ∈ farPoints, 128 + 3 ≤ p := fun p hp => by
      have hbounds := bounds_farPoints hp
      omega
    have hrun := Punycode.length_run 350 (e := ⟨[], 0, 72, 350⟩) hmem apart_farPoints hfirst (by decide)
    rw [length_farPoints] at hrun
    rw [Punycode.numbers, points_longLabel, plainPart_longLabel, List.length_replicate]
    exact (Nat.le_add_left ..).trans hrun
  have hplain : (Punycode.plainPart longLabel).isEmpty = false := by
    rw [plainPart_longLabel]
    rfl
  rw [Punycode.encode_eq, hplain, if_neg Bool.false_ne_true, plainPart_longLabel, List.length_append,
    List.length_append, List.length_replicate, List.length_singleton, payloadLimit]
  omega

theorem isUnreadable_longLabel : isUnreadable (mark ++ Punycode.encode longLabel) = true := by
  have hmarked : isMarked (mark ++ Punycode.encode longLabel) = true :=
    List.isPrefixOf_iff_prefix.2 (List.prefix_append ..)
  rw [isUnreadable, hmarked, List.drop_left, Bool.true_and]
  exact decide_eq_true length_encode_longLabel

/-- The host that the label is written as. -/
def longName : DomainName :=
  ⟨mark ++ Punycode.encode longLabel, longLabel, isPlain_longLabel.toAscii?_self⟩

theorem hasUnreadable_longName : HasUnreadable longName.chars :=
  ⟨_, isPlain_longLabel.splitOn_written ▸ List.mem_cons_self, isUnreadable_longLabel⟩

end Domain

end Lineage
