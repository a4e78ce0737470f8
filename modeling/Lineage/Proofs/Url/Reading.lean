import Mathlib
import Lineage.Proofs.Text.Blank
import Lineage.Proofs.Url.Parts

/-! A base URL is read back from its text. -/

namespace Lineage.Url

open Percent (IsClean inPath inUserinfo)

/-- A URL that a text can be read as. -/
structure IsNormal (u : Url) : Prop where
  userinfo : IsNormalUserinfo u.username u.password
  host : u.host.IsNormal
  port : IsNormalPort u.scheme u.port
  path : IsNormalPath u.path

/-- A step that comes after another was taken with what that gave. -/
theorem exists_of_bind_eq_ok {ε α β : Type} {x : Except ε α} {f : α → Except ε β} {b : β}
    (h : x >>= f = .ok b) : ∃ a, x = .ok a ∧ f a = .ok b := by
  cases x with
  | error fault => cases h
  | ok a => exact ⟨a, rfl, h⟩

section

variable {cs : List Char}

theorem readPort_lt {port : Option Nat} (h : readPort cs = .ok port) : ∀ p ∈ port, p < 65536 := by
  rw [readPort] at h
  split at h
  · cases h
  · split at h
    · obtain rfl := Except.ok.inj h
      simp
    · dsimp only at h
      split at h
      · rename_i hsmall
        obtain rfl := Except.ok.inj h
        simpa using hsmall
      · cases h

theorem isNormal_readServer {server : Host × Option Nat} (h : readServer cs = .ok server) :
    server.1.IsNormal ∧ ∀ p ∈ server.2, p < 65536 := by
  rw [readServer] at h
  split at h
  rename_i text port _
  split at h
  · cases h
  · obtain ⟨host, hhost, h⟩ := exists_of_bind_eq_ok h
    have hnormal := Host.isNormal_of_parse hhost
    split at h
    · obtain rfl := Except.ok.inj h
      exact ⟨hnormal, by simp⟩
    · obtain ⟨port, hport, h⟩ := exists_of_bind_eq_ok h
      obtain rfl := Except.ok.inj h
      exact ⟨hnormal, readPort_lt hport⟩

theorem isNormal_readHierarchy {scheme : Scheme} {u : Url} (h : readHierarchy scheme cs = .ok u) :
    u.IsNormal := by
  obtain ⟨server, hserver, h⟩ := exists_of_bind_eq_ok h
  obtain rfl := Except.ok.inj h
  obtain ⟨hhost, hport⟩ := isNormal_readServer hserver
  refine ⟨isNormalUserinfo_readUserinfo _, hhost, fun p hp => ?_, isNormalPath_readPath _⟩
  obtain ⟨hp, hdefault⟩ := Option.mem_filter_iff.1 hp
  exact ⟨hport p hp, by simpa using hdefault⟩

theorem isNormal_of_parse {u : Url} (h : parse cs = .ok u) : u.IsNormal := by
  rw [parse] at h
  split at h
  · cases h
  · split_ifs at h
    · exact isNormal_readHierarchy h
    · exact isNormal_readHierarchy h

/-- ASCII that is neither blank nor control. -/
@[mk_iff] structure IsVisible (c : Char) : Prop where
  low : 0x20 < c.toNat
  high : c.toNat < 0x80

instance (c : Char) : Decidable (IsVisible c) := decidable_of_iff' _ (isVisible_iff c)

/-- A character that belongs to an authority. -/
@[mk_iff] structure IsInside (c : Char) : Prop extends IsVisible c where
  goesOn : endsAuthority c = false

instance (c : Char) : Decidable (IsInside c) := decidable_of_iff' _ (isInside_iff c)

theorem isVisible_of_isClean (h : IsClean inPath cs) : ∀ c ∈ cs, IsVisible c := by
  intro c hc
  have hall : inPath c = false → IsVisible c := Text.of_ascii (h c hc).1 (by decide)
  exact hall (h c hc).2

theorem isInside_of_isHostChar {c : Char} (h : Domain.IsHostChar c) : IsInside c ∧ c ≠ '@' := by
  have hall : Domain.isForbidden c = false → IsInside c ∧ c ≠ '@' := Text.of_ascii h.ascii (by decide)
  exact hall h.allowed

theorem isInside_host (host : Host) : ∀ c ∈ host.text, IsInside c ∧ c ≠ '@' := by
  cases host with
  | name domain => exact fun c hc => isInside_of_isHostChar (domain.isHostChar c hc)
  | ipv4 address => exact fun c hc => isInside_of_isHostChar (Host.isHostChar_ipv4 address c hc)
  | ipv6 groups =>
      have hdigit : ∀ d < 16, IsInside (Nat.digitChar d) ∧ Nat.digitChar d ≠ '@' := by decide
      intro c hc
      rw [Host.text, List.mem_append, List.mem_cons, List.mem_singleton] at hc
      rcases hc with (rfl | hc) | rfl
      · decide
      · rcases Ipv6.mem_text hc with rfl | ⟨d, hd, rfl⟩
        · decide
        · exact hdigit d hd
      · decide

theorem isInside_port (u : Url) : ∀ c ∈ u.portText, IsInside c ∧ c ≠ '@' := by
  intro c hc
  rw [portText] at hc
  split at hc
  · rcases List.mem_cons.1 hc with rfl | hc
    · decide
    · exact isInside_of_isHostChar (Host.isHostChar_of_isDigit (Json.Numeral.isDigit_toDigits hc))
  · cases hc

theorem isInside_userinfo {u : Url} (h : IsNormalUserinfo u.username u.password) :
    ∀ c ∈ u.userinfoText, IsInside c := by
  have hclean {cs : List Char} (h : IsClean inUserinfo cs) : ∀ c ∈ cs, IsInside c := fun c hc => by
    have hall : inUserinfo c = false → IsInside c := Text.of_ascii (h c hc).1 (by decide +kernel)
    exact hall (h c hc).2
  have hcolon : IsInside ':' := by decide
  have hat : IsInside '@' := by decide
  have hpassword : ∀ c ∈ passwordText u.password, IsInside c := by
    cases hsome : u.password with
    | none => simp [passwordText]
    | some p => exact List.forall_mem_cons.2 ⟨hcolon, hclean (h.password p hsome).2⟩
  rw [userinfoText_eq]
  split
  · simp
  · rw [List.forall_mem_append, List.forall_mem_append]
    exact ⟨⟨hclean h.username, hpassword⟩, by simpa using hat⟩

end

/-- All between the slashes of the scheme and those of the path. -/
def authority (u : Url) : List Char :=
  u.userinfoText ++ (u.host.text ++ u.portText)

theorem chars_eq_authority (u : Url) :
    u.chars = u.scheme.text ++ ':' :: ('/' :: '/' :: (u.authority ++ pathText u.path)) := by
  simp [chars, authority]

section

variable {u : Url}

theorem isInside_authority (h : u.IsNormal) : ∀ c ∈ u.authority, IsInside c := by
  intro c hc
  rw [authority, List.mem_append, List.mem_append] at hc
  rcases hc with hc | hc | hc
  · exact isInside_userinfo h.userinfo c hc
  · exact (isInside_host u.host c hc).1
  · exact (isInside_port u c hc).1

theorem isVisible_path {path : List (List Char)} (h : IsNormalPath path) :
    ∀ c ∈ pathText path, IsVisible c ∧ c ≠ '?' ∧ c ≠ '#' := by
  intro c hc
  obtain ⟨segment, hsegment, hc⟩ := List.mem_flatMap.1 hc
  rcases List.mem_cons.1 hc with rfl | hc
  · decide
  · have hclean := (h.each segment hsegment).clean
    refine ⟨isVisible_of_isClean hclean c hc, ?_, ?_⟩ <;> rintro rfl <;>
      exact absurd (hclean _ hc).2 (by decide)

theorem isVisible_chars (h : u.IsNormal) : ∀ c ∈ u.chars, IsVisible c := by
  have hscheme : ∀ c ∈ u.scheme.text, IsVisible c := by
    cases u.scheme <;> simp [Scheme.text, isVisible_iff]
  have hcolon : IsVisible ':' := by decide
  have hslash : IsVisible '/' := by decide
  rw [chars_eq_authority, List.forall_mem_append]
  refine ⟨hscheme, List.forall_mem_cons.2 ⟨hcolon, List.forall_mem_cons.2 ⟨hslash,
    List.forall_mem_cons.2 ⟨hslash, List.forall_mem_append.2 ⟨?_, ?_⟩⟩⟩⟩⟩
  · exact fun c hc => (isInside_authority h c hc).toIsVisible
  · exact fun c hc => (isVisible_path h.path c hc).1

theorem dropWhile_eq_self {p : Char → Bool} {cs : List Char} (h : ∀ c ∈ cs, p c = false) :
    cs.dropWhile p = cs := by
  cases cs with
  | nil => rfl
  | cons c cs => rw [List.dropWhile_cons, h c List.mem_cons_self, if_neg Bool.false_ne_true]

/-- Nothing is dropped from a text without blanks and control characters. -/
theorem cleaned_of_low_lt {cs : List Char} (h : ∀ c ∈ cs, 0x20 < c.toNat) : cleaned cs = cs := by
  have houter : ∀ c ∈ cs, decide (c.toNat ≤ 0x20) = false := fun c hc => by
    simpa using h c hc
  have hback : ∀ c ∈ cs.reverse, decide (c.toNat ≤ 0x20) = false := fun c hc =>
    houter c (List.mem_reverse.1 hc)
  rw [cleaned, dropWhile_eq_self houter, dropWhile_eq_self hback, List.reverse_reverse,
    List.filter_eq_self]
  intro c hc
  by_cases hdropped : (c == '\t' || c == '\n' || c == '\r') = true
  · have hlow := h c hc
    simp only [Bool.or_eq_true, beq_iff_eq] at hdropped
    rcases hdropped with (rfl | rfl) | rfl <;> exact absurd hlow (by decide)
  · simpa using hdropped

theorem IsVisible.not_isBlank {c : Char} (h : IsVisible c) : Text.isBlank c = false := by
  have hall : 0x20 < c.toNat → Text.isBlank c = false := Text.of_ascii h.high (by decide)
  exact hall h.low

theorem cutScheme?_text (scheme : Scheme) (rest : List Char) :
    cutScheme? (scheme.text ++ ':' :: rest) = some (scheme.text, rest) := by
  cases scheme <;> simp [cutScheme?, Scheme.text]

theorem readHierarchy_text (h : u.IsNormal) :
    readHierarchy u.scheme ('/' :: '/' :: (u.authority ++ pathText u.path)) =
      if u.host.IsUnreadable then .error .domain else .ok u := by
  obtain ⟨c, rest, hauthority⟩ : ∃ c rest, u.authority = c :: rest :=
    List.exists_cons_of_ne_nil (by simp [authority, Host.text_ne_nil h.host])
  obtain ⟨segment, segments, hpath⟩ := List.exists_cons_of_ne_nil h.path.filled
  have hinside := isInside_authority h
  have hgoesOn : ∀ c ∈ u.authority, (!endsAuthority c) = true := fun c hc => by
    rw [(hinside c hc).goesOn]
    rfl
  have hslashes : ('/' :: '/' :: (u.authority ++ pathText u.path)).dropWhile
      (fun c => c == '/' || c == '\\') = u.authority ++ pathText u.path := by
    have hc := (hinside c (hauthority ▸ List.mem_cons_self)).goesOn
    simp only [endsAuthority, Bool.or_eq_false_iff] at hc
    rw [hauthority]
    simp [hc.1.1.1, hc.1.1.2]
  have htake : (u.authority ++ pathText u.path).takeWhile (!endsAuthority ·) = u.authority := by
    rw [List.takeWhile_append_of_pos hgoesOn, hpath]
    exact List.append_nil _
  have hdrop : (u.authority ++ pathText u.path).dropWhile (!endsAuthority ·) = pathText u.path := by
    rw [List.dropWhile_append_of_pos hgoesOn, hpath]
    rfl
  have hwhole : (pathText u.path).takeWhile (fun c => c != '?' && c != '#') = pathText u.path := by
    refine List.takeWhile_eq_self_iff.2 fun c hc => ?_
    simpa using (isVisible_path h.path c hc).2
  have hat : '@' ∉ u.host.text ++ u.portText := by
    rw [List.mem_append, not_or]
    exact ⟨fun hc => (isInside_host u.host _ hc).2 rfl, fun hc => (isInside_port u _ hc).2 rfl⟩
  obtain ⟨hserver, huserinfo⟩ := readUserinfo_cutUserinfo h.userinfo hat
  rw [readHierarchy]
  simp only [hslashes, htake, hdrop, hwhole]
  rw [authority, hserver, huserinfo, readServer_text h.host h.port, readPath_pathText h.path]
  split
  · rfl
  · have hport : u.port.filter (· != u.scheme.defaultPort) = u.port := by
      cases hsome : u.port with
      | none => rfl
      | some p => simpa using (h.port p hsome).2
    change Except.ok _ = _
    rw [hport]

/-- A URL is read back from its text, if its host can be read at all. -/
theorem parse_chars (h : u.IsNormal) :
    parse u.chars = if u.host.IsUnreadable then .error .domain else .ok u := by
  rw [parse, cleaned_of_low_lt fun c hc => (isVisible_chars h c hc).low, chars_eq_authority, cutScheme?_text]
  have hread := readHierarchy_text h
  dsimp only
  cases hscheme : u.scheme with
  | http =>
      rw [hscheme] at hread
      rw [if_pos (beq_self_eq_true _), hread]
  | https =>
      rw [hscheme] at hread
      rw [if_neg (by decide), if_pos (beq_self_eq_true _), hread]

end

end Lineage.Url
