import Mathlib
import Lineage.Proofs.Url.Unreadable

/-! Base URLs of servers are a normal form. Main statement: a base is the URL that was read, with a slash at
the end of its path and nothing behind that, and it is read back from its own text, unless its host has a
label with more Punycode than is read. -/

namespace Lineage.Url

/-- What a base has in common with the URL that was read, and what is its own. -/
structure IsBaseOf (base parsed : Url) : Prop where
  scheme : base.scheme = parsed.scheme
  username : base.username = parsed.username
  password : base.password = parsed.password
  host : base.host = parsed.host
  port : base.port = parsed.port
  path : pathText base.path = pathText parsed.path ∨ pathText base.path = pathText parsed.path ++ ['/']
  directory : (pathText base.path).getLast? = some '/'
  /-- Reading the path once more changes nothing. -/
  settled : readPath ((pathText base.path).drop 1) = base.path
  web : Scheme.http.text ++ [':', '/', '/'] <+: base.chars ∨
    Scheme.https.text ++ [':', '/', '/'] <+: base.chars
  /-- Neither query nor fragment. -/
  ends : '?' ∉ base.chars ∧ '#' ∉ base.chars

theorem chars_eq_append (u : Url) :
    u.chars = u.scheme.text ++ [':', '/', '/'] ++ (u.authority ++ pathText u.path) := by
  simp [chars, authority]

theorem not_mem_chars {u : Url} (h : u.IsNormal) : '?' ∉ u.chars ∧ '#' ∉ u.chars := by
  have hfront : '?' ∉ u.scheme.text ++ [':', '/', '/'] ∧ '#' ∉ u.scheme.text ++ [':', '/', '/'] := by
    cases u.scheme <;> decide
  have hauthority : '?' ∉ u.authority ∧ '#' ∉ u.authority :=
    ⟨fun hc => absurd (isInside_authority h _ hc).goesOn (by decide),
      fun hc => absurd (isInside_authority h _ hc).goesOn (by decide)⟩
  have hpath : '?' ∉ pathText u.path ∧ '#' ∉ pathText u.path :=
    ⟨fun hc => (isVisible_path h.path _ hc).2.1 rfl, fun hc => (isVisible_path h.path _ hc).2.2 rfl⟩
  rw [chars_eq_append]
  simp only [List.mem_append, not_or] at hfront ⊢
  tauto

/-- Once in normal form, a base is read back from its text. -/
theorem server_text {base : Url} (h : base.IsNormal) (directory : base.path.getLast? = some []) :
    server base.text = if base.host.IsUnreadable then .error .domain else .ok base := by
  have hvisible := isVisible_chars h
  rw [server, text, String.toList_ofList,
    Text.trimmed_of_not_isBlank fun c hc => (hvisible c hc).not_isBlank, parse_chars h]
  split
  · rfl
  · have hpath : asDirectory base.path = base.path := if_pos (beq_iff_eq.2 directory)
    change Except.ok { base with path := asDirectory base.path } = _
    rw [hpath]

theorem exists_parsed {raw : String} {base : Url} (h : server raw = .ok base) :
    ∃ parsed, parse (Text.trimmed raw.toList) = .ok parsed ∧
      { parsed with path := asDirectory parsed.path } = base := by
  rw [server] at h
  cases hparsed : parse (Text.trimmed raw.toList) with
  | error fault =>
      rw [hparsed] at h
      cases h
  | ok parsed =>
      rw [hparsed] at h
      exact ⟨parsed, rfl, Except.ok.inj h⟩

theorem isNormal_of_server {raw : String} {base : Url} (h : server raw = .ok base) : base.IsNormal := by
  obtain ⟨parsed, hparsed, rfl⟩ := exists_parsed h
  have hread := isNormal_of_parse hparsed
  exact { hread with path := isNormalPath_asDirectory hread.path }

theorem isBaseOf_asDirectory {parsed base : Url}
    (hbase : { parsed with path := asDirectory parsed.path } = base) (h : base.IsNormal)
    (directory : base.path.getLast? = some []) : base.IsBaseOf parsed where
  scheme := by rw [← hbase]
  username := by rw [← hbase]
  password := by rw [← hbase]
  host := by rw [← hbase]
  port := by rw [← hbase]
  path := by
    rw [← hbase]
    dsimp only
    rw [asDirectory]
    split
    · exact .inl rfl
    · exact .inr (pathText_append ..)
  directory := by
    obtain ⟨front, hfront⟩ := List.getLast?_eq_some_iff.1 directory
    rw [hfront, pathText_append]
    exact List.getLast?_concat
  settled := readPath_pathText h.path
  web := by
    have hprefix : base.scheme.text ++ [':', '/', '/'] <+: base.chars := ⟨_, (chars_eq_append base).symm⟩
    cases hscheme : base.scheme with
    | http => exact .inl (hscheme ▸ hprefix)
    | https => exact .inr (hscheme ▸ hprefix)
  ends := not_mem_chars h

/-- A base is the URL that was read, as a directory, and is read back from its text if its host can be read
at all. -/
theorem server_normal_form {raw : String} {base : Url} (h : server raw = .ok base) :
    (∃ parsed, parse (Text.trimmed raw.toList) = .ok parsed ∧ base.IsBaseOf parsed) ∧
      server base.text = if base.host.IsUnreadable then .error .domain else .ok base := by
  have hnormal := isNormal_of_server h
  have directory := server_directory h
  obtain ⟨parsed, hparsed, hbase⟩ := exists_parsed h
  exact ⟨⟨parsed, hparsed, isBaseOf_asDirectory hbase hnormal directory⟩, server_text hnormal directory⟩

/-- A base with all that a base can have but a port of its own. -/
def loopback : Url :=
  ⟨.http, ['m', 'e'], some ['p', 'w'], .ipv4 2130706433, none, [['b'], []]⟩

theorem server_normal_form_of_loopback :
    server " HTTP://me:pw@0x7F.1:80/a/../b?q#f " = .ok loopback ∧
      server "http://me:pw@127.0.0.1/b/" = .ok loopback := by
  have h : server " HTTP://me:pw@0x7F.1:80/a/../b?q#f " = .ok loopback := by rfl
  have htext : loopback.text = "http://me:pw@127.0.0.1/b/" := by decide
  refine ⟨h, ?_⟩
  have hagain := (server_normal_form h).2
  rw [htext] at hagain
  exact hagain.trans (if_neg (by decide))

/-- A base whose host is written but not read. -/
theorem server_text_is_refused :
    ¬∀ (raw : String) (base : Url), server raw = .ok base → server base.text = .ok base := by
  intro hall
  have hbase := server_name Domain.isPlain_longLabel.parse_self Domain.isPlain_longLabel.ne_nil
    Domain.allowed_longLabel Domain.isFixed_longLabel
  have hunreadable : Host.IsUnreadable (.name Domain.longName) := Domain.hasUnreadable_longName
  have hagain := server_text (isNormal_of_server hbase) (server_directory hbase)
  cases (hall _ _ hbase).symm.trans (hagain.trans (if_pos hunreadable))

end Lineage.Url
