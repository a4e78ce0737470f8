import Mathlib
import Lineage.Proofs.Text.Utf8
import Lineage.Proofs.Url.Address
import Lineage.Proofs.Url.DomainName
import Lineage.Url.Host

/-! A host is read back from its text, be it a name or an address; only a name with more Punycode in a label
than is read is none. -/

namespace Lineage

open Domain (IsHostChar HasUnreadable toAscii? isHostChar_of_toAscii? toAscii?_of_toAscii?)

namespace DomainName

theorem ofChars?_of_some {cs : List Char} {domain : DomainName} (h : toAscii? cs = some domain.chars) :
    ofChars? cs = some domain := by
  unfold ofChars?
  split
  · rename_i chars heq
    exact congrArg some (ext_chars (Option.some.inj (heq.symm.trans h)))
  · rename_i heq
    exact absurd (heq.symm.trans h) (Option.some_ne_none _).symm

theorem ofChars?_of_none {cs : List Char} (h : toAscii? cs = none) : ofChars? cs = none := by
  unfold ofChars?
  split
  · rename_i chars heq
    exact absurd (heq.symm.trans h) (Option.some_ne_none _)
  · rfl

theorem isHostChar (domain : DomainName) : ∀ c ∈ domain.chars, IsHostChar c := by
  obtain ⟨cs, h⟩ := domain.named
  exact isHostChar_of_toAscii? h

theorem ofChars?_chars (domain : DomainName) :
    ofChars? domain.chars = if HasUnreadable domain.chars then none else some domain := by
  obtain ⟨cs, h⟩ := domain.named
  have hagain := toAscii?_of_toAscii? h
  split
  · rename_i hunreadable
    rw [if_pos hunreadable] at hagain
    exact ofChars?_of_none hagain
  · rename_i hreadable
    rw [if_neg hreadable] at hagain
    exact ofChars?_of_some hagain

end DomainName

namespace Percent

theorem decode_of_not_mem {bytes : List UInt8} (h : 37 ∉ bytes) : decode bytes = bytes := by
  induction bytes with
  | nil => rfl
  | cons b bytes ih =>
      rw [decode_cons_of_ne fun hb => h (hb ▸ List.mem_cons_self),
        ih fun hmem => h (List.mem_cons_of_mem b hmem)]

/-- The bytes of a character outside ASCII are none of ASCII's. -/
theorem not_mem_utf8 {c : Char} (h : c ≠ '%') : 37 ∉ String.utf8EncodeChar c := by
  intro hmem
  by_cases hascii : c.toNat < 128
  · rw [Text.Utf8.utf8EncodeChar_of_lt hascii, List.mem_singleton] at hmem
    have hcode := congrArg UInt8.toNat hmem
    rw [UInt8.toNat_ofNat_of_lt' (hascii.trans (by decide))] at hcode
    exact h (Char.toNat_inj.1 hcode.symm)
  · have hhigh {n : Nat} (hn : 128 ≤ n) (hbyte : n < 256) : (37 : UInt8) ≠ UInt8.ofNat n := fun heq => by
      have hcode := congrArg UInt8.toNat heq
      rw [UInt8.toNat_ofNat_of_lt' hbyte] at hcode
      exact absurd hn (hcode ▸ by decide)
    rw [String.utf8EncodeChar, ← Char.toNat, if_neg (by omega)] at hmem
    split_ifs at hmem <;> simp only [List.mem_cons, List.not_mem_nil, or_false] at hmem
    · rcases hmem with hmem | hmem <;> exact hhigh (by omega) (by omega) hmem
    · rcases hmem with hmem | hmem | hmem <;> exact hhigh (by omega) (by omega) hmem
    · rcases hmem with hmem | hmem | hmem | hmem <;> exact hhigh (by omega) (by omega) hmem

/-- Without a percent sign there is nothing to decode. -/
theorem decodeLossy_decode {cs : List Char} (h : '%' ∉ cs) :
    Text.Utf8.decodeLossy (decode (Text.Utf8.encode cs)) = cs := by
  have hpercent : 37 ∉ Text.Utf8.encode cs := fun hmem => by
    obtain ⟨c, hc, hbyte⟩ := List.mem_flatMap.1 hmem
    exact not_mem_utf8 (fun heq => h (heq ▸ hc)) hbyte
  rw [decode_of_not_mem hpercent, Text.Utf8.decodeLossy_encode]

end Percent

namespace Host

/-- A name in ASCII form that has a label with more Punycode than is read. -/
def IsUnreadable : Host → Prop
  | .name domain => HasUnreadable domain.chars
  | _ => False

instance (host : Host) : Decidable host.IsUnreadable :=
  match host with
  | .name domain => inferInstanceAs (Decidable (HasUnreadable domain.chars))
  | .ipv4 _ => isFalse id
  | .ipv6 _ => isFalse id

/-- What a text can be read as. -/
def IsNormal : Host → Prop
  | .name domain => domain.chars ≠ [] ∧ Ipv4.endsInNumber domain.chars = false
  | .ipv4 address => address < UInt32.size
  | .ipv6 groups => groups.length = 8 ∧ ∀ g ∈ groups, g < Ipv6.groupSize

theorem isNormal_of_parse {cs : List Char} {host : Host} (h : parse cs = .ok host) : host.IsNormal := by
  rw [parse] at h
  split at h
  · rw [bracketed] at h
    split at h
    · split at h
      · rename_i groups hgroups
        obtain rfl := Except.ok.inj h
        exact Ipv6.parse?_sound hgroups
      · cases h
    · cases h
  · dsimp only at h
    split at h
    · cases h
    · rename_i domain _
      split at h
      · cases h
      · rename_i hfilled
        split at h
        · split at h
          · rename_i address haddress
            obtain rfl := Except.ok.inj h
            exact Ipv4.lt_of_parse? haddress
          · cases h
        · rename_i hname
          obtain rfl := Except.ok.inj h
          exact ⟨by simpa using hfilled, by simpa using hname⟩

section

variable {cs : List Char} (h : ∀ c ∈ cs, IsHostChar c)

include h

theorem head?_ne_bracket : ¬(cs.head? == some '[') = true := by
  intro hhead
  have hallowed := (h '[' (List.mem_of_head? (beq_iff_eq.1 hhead))).allowed
  exact absurd hallowed (by decide)

theorem percent_not_mem : '%' ∉ cs := fun hmem =>
  absurd (h '%' hmem).allowed (by decide)

end

theorem isHostChar_of_isDigit {c : Char} (h : c.isDigit = true) : IsHostChar c := by
  have hall : c.isDigit = true → IsHostChar c :=
    Text.of_ascii ((Char.isDigit_iff_toNat.1 h).2.trans_lt (by decide)) (by decide)
  exact hall h

theorem isHostChar_ipv4 (n : Nat) : ∀ c ∈ Ipv4.text n, IsHostChar c := by
  intro c hc
  rcases Ipv4.isDigit_of_mem_text hc with rfl | hdigit
  · decide
  · exact isHostChar_of_isDigit hdigit

theorem toAscii?_ipv4 (n : Nat) : toAscii? (Ipv4.text n) = some (Ipv4.text n) := by
  have hunmarked : ((Ipv4.bytes n).map (Nat.toDigits 10)).any Domain.isMarked = false := by
    refine List.any_eq_false.2 fun part hpart hmarked => ?_
    obtain ⟨b, -, rfl⟩ := List.mem_map.1 hpart
    obtain ⟨rest, hrest⟩ := List.isPrefixOf_iff_prefix.1 hmarked
    have hx : 'x' ∈ Nat.toDigits 10 b := by
      rw [← hrest]
      exact List.mem_cons_self
    exact absurd (Json.Numeral.isDigit_toDigits hx) (by decide)
  rw [Domain.toAscii?_of_isHostChar (isHostChar_ipv4 n), Ipv4.splitOn_text, hunmarked,
    if_neg Bool.false_ne_true]

theorem text_ne_nil {host : Host} (h : host.IsNormal) : host.text ≠ [] := by
  cases host with
  | name domain => exact h.1
  | ipv4 address => simp [text, Ipv4.text]
  | ipv6 groups => exact List.cons_ne_nil _ _

/-- A host is read back from its text. -/
theorem parse_text {host : Host} (h : host.IsNormal) :
    parse host.text = if host.IsUnreadable then .error .domain else .ok host := by
  cases host with
  | name domain =>
      have hchars := domain.isHostChar
      rw [text, parse, if_neg (head?_ne_bracket hchars), Percent.decodeLossy_decode (percent_not_mem hchars)]
      dsimp only
      rw [domain.ofChars?_chars]
      by_cases hunreadable : HasUnreadable domain.chars
      · rw [if_pos hunreadable, if_pos (show IsUnreadable (.name domain) from hunreadable)]
      · have hfilled : domain.chars.isEmpty = false := by simpa using h.1
        rw [if_neg hunreadable, if_neg (show ¬IsUnreadable (.name domain) from hunreadable)]
        simp only [hfilled, h.2, Bool.false_eq_true, if_false]
  | ipv4 address =>
      have hchars := isHostChar_ipv4 address
      have hfilled : (Ipv4.text address).isEmpty = false := by
        simp [Ipv4.text]
      have hdomain : DomainName.ofChars? (Ipv4.text address) =
          some ⟨Ipv4.text address, _, toAscii?_ipv4 address⟩ :=
        DomainName.ofChars?_of_some (toAscii?_ipv4 address)
      rw [text, parse, if_neg (head?_ne_bracket hchars), Percent.decodeLossy_decode (percent_not_mem hchars)]
      simp only [hdomain, hfilled, Ipv4.endsInNumber_text, Ipv4.parse?_text h, Bool.false_eq_true,
        if_false, if_true]
      rfl
  | ipv6 groups =>
      have hclosed : ('[' :: Ipv6.text groups ++ [']']).getLast? = some ']' := List.getLast?_concat
      have hinside : (('[' :: Ipv6.text groups ++ [']']).drop 1).dropLast = Ipv6.text groups :=
        List.dropLast_concat
      have hopened : (('[' :: Ipv6.text groups ++ [']']).head? == some '[') = true := rfl
      rw [text, parse, if_pos hopened, bracketed, hclosed, hinside, Ipv6.parse?_text h.1 h.2]
      rfl

end Host

end Lineage
