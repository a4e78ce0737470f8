import Mathlib
import Lineage.Proofs.Text.Split
import Lineage.Proofs.Url.Host
import Lineage.Proofs.Url.Object

/-! The parts of a URL in normal form, and that each is read back from how it is written. -/

namespace Lineage

namespace Percent

/-- Nothing is left to be encoded. -/
def IsClean (reserved : Char → Bool) (cs : List Char) : Prop :=
  ∀ c ∈ cs, c.toNat < 128 ∧ reserved c = false

section

variable {reserved : Char → Bool}

theorem encode_of_isClean {cs : List Char} (h : IsClean reserved cs) : encode reserved cs = cs := by
  have hchar : ∀ c ∈ cs, encodeChar reserved c = [c] := fun c hc => by
    obtain ⟨hascii, hfree⟩ := h c hc
    rw [encodeChar, hfree, if_pos (by simpa using hascii)]
  rw [encode, List.flatMap_congr hchar]
  exact List.flatMap_singleton' cs

theorem not_mem_encode {c : Char} (hpercent : c ≠ '%') (hdigits : ∀ n < 16, c ≠ hexDigit n)
    {cs : List Char} (h : c ∉ cs) : c ∉ encode reserved cs := fun hc => by
  rcases mem_encode hc with ⟨hc, -⟩ | hc | ⟨n, hn, hc⟩
  · exact h hc
  · exact hpercent hc
  · exact hdigits n hn hc

theorem isClean_encode (hpercent : reserved '%' = false) (hdigits : ∀ n < 16, reserved (hexDigit n) = false)
    (cs : List Char) : IsClean reserved (encode reserved cs) := by
  have hsmall : ∀ n < 16, (hexDigit n).toNat < 128 := by decide
  intro c hc
  rcases mem_encode hc with ⟨-, hascii, hfree⟩ | rfl | ⟨n, hn, rfl⟩
  · exact ⟨hascii, hfree⟩
  · exact ⟨by decide, hpercent⟩
  · exact ⟨hsmall n hn, hdigits n hn⟩

end

theorem isClean_userinfo (cs : List Char) : IsClean inUserinfo (encode inUserinfo cs) :=
  isClean_encode rfl (by decide) cs

theorem isClean_path (cs : List Char) : IsClean inPath (encode inPath cs) :=
  isClean_encode rfl (by decide) cs

end Percent

namespace Url

open Percent (IsClean inPath inUserinfo encode)
open Text (splitOn)

/-! ### Path -/

/-- A segment that a path is read into. -/
structure IsSegmentRead (segment : List Char) : Prop where
  clean : IsClean inPath segment
  slashless : '/' ∉ segment ∧ '\\' ∉ segment
  dotless : dots? segment = none

/-- A path that can be read. -/
structure IsNormalPath (path : List (List Char)) : Prop where
  filled : path ≠ []
  each : ∀ segment ∈ path, IsSegmentRead segment

theorem isSegmentRead_nil : IsSegmentRead [] where
  clean := by simp [IsClean]
  slashless := by simp
  dotless := rfl

/-- What a path is cut into. -/
theorem slashless_encode {cs segment : List Char}
    (h : segment ∈ splitOn '/' (cs.map fun c => if c == '\\' then '/' else c)) :
    '/' ∉ encode inPath segment ∧ '\\' ∉ encode inPath segment := by
  have hsegment : '/' ∉ segment ∧ '\\' ∉ segment := by
    refine ⟨fun hc => (Text.mem_of_mem_splitOn h _ hc).2 rfl, fun hc => ?_⟩
    obtain ⟨c, -, hback⟩ := List.mem_map.1 (Text.mem_of_mem_splitOn h _ hc).1
    split at hback
    · cases hback
    · rename_i hne
      exact hne (beq_iff_eq.2 hback)
  exact ⟨Percent.not_mem_encode (by decide) (by decide) hsegment.1,
    Percent.not_mem_encode (by decide) (by decide) hsegment.2⟩

section

variable {done : List (List Char)} {segment : List Char}

theorem mem_parent (h : ∀ s ∈ done, IsSegmentRead s) : ∀ s ∈ parent done, IsSegmentRead s := by
  intro s hs
  rw [parent] at hs
  split at hs
  · split at hs
    · exact h s hs
    · exact h s (List.mem_of_mem_dropLast hs)
  · cases hs

variable (clean : IsClean inPath segment) (slashless : '/' ∉ segment ∧ '\\' ∉ segment)

include clean slashless

theorem mem_addDirectory (h : ∀ s ∈ done, IsSegmentRead s) :
    ∀ s ∈ addDirectory done segment, IsSegmentRead s := by
  rw [addDirectory]
  split
  · exact mem_parent h
  · exact h
  · rename_i dotless
    rw [List.forall_mem_append]
    exact ⟨h, by simpa using ⟨clean, slashless, dotless⟩⟩

theorem isNormalPath_addLast (h : ∀ s ∈ done, IsSegmentRead s) : IsNormalPath (addLast done segment) := by
  rw [addLast]
  split
  · exact ⟨by simp, List.forall_mem_append.2 ⟨mem_parent h, by simpa using isSegmentRead_nil⟩⟩
  · exact ⟨by simp, List.forall_mem_append.2 ⟨h, by simpa using isSegmentRead_nil⟩⟩
  · rename_i dotless
    exact ⟨by simp, List.forall_mem_append.2 ⟨h, by simpa using ⟨clean, slashless, dotless⟩⟩⟩

end

theorem isNormalPath_normalPath {done segments : List (List Char)} (h : ∀ s ∈ done, IsSegmentRead s)
    (hsegments : ∀ s ∈ segments, IsClean inPath s ∧ '/' ∉ s ∧ '\\' ∉ s) :
    IsNormalPath (normalPath done segments) := by
  induction segments generalizing done with
  | nil => exact isNormalPath_addLast isSegmentRead_nil.clean isSegmentRead_nil.slashless h
  | cons segment rest ih =>
      obtain ⟨clean, slashless⟩ := hsegments segment List.mem_cons_self
      cases rest with
      | nil => exact isNormalPath_addLast clean slashless h
      | cons next rest =>
          exact ih (mem_addDirectory clean slashless h) fun s hs => hsegments s (List.mem_cons_of_mem _ hs)

theorem isNormalPath_readPath (cs : List Char) : IsNormalPath (readPath cs) := by
  refine isNormalPath_normalPath (by simp) fun s hs => ?_
  obtain ⟨segment, hsegment, rfl⟩ := List.mem_map.1 hs
  exact ⟨Percent.isClean_path segment, slashless_encode hsegment⟩

theorem isNormalPath_asDirectory {path : List (List Char)} (h : IsNormalPath path) :
    IsNormalPath (asDirectory path) := by
  rw [asDirectory]
  split
  · exact h
  · exact ⟨by simp, List.forall_mem_append.2 ⟨h.each, by simpa using isSegmentRead_nil⟩⟩

theorem normalPath_of_dotless {done segments : List (List Char)} (hfilled : segments ≠ [])
    (h : ∀ s ∈ segments, dots? s = none) : normalPath done segments = done ++ segments := by
  induction segments generalizing done with
  | nil => exact absurd rfl hfilled
  | cons segment rest ih =>
      have hsegment := h segment List.mem_cons_self
      cases rest with
      | nil => rw [normalPath, addLast, hsegment]
      | cons next rest =>
          rw [normalPath, addDirectory, hsegment]
          · dsimp only
            rw [ih (by simp) fun s hs => h s (List.mem_cons_of_mem _ hs), List.append_assoc,
              List.singleton_append]
          · simp

theorem drop_one_pathText {path : List (List Char)} (hfilled : path ≠ []) :
    (pathText path).drop 1 = ['/'].intercalate path := by
  obtain ⟨segment, rest, rfl⟩ := List.exists_cons_of_ne_nil hfilled
  induction rest generalizing segment with
  | nil => simp [List.intercalate]
  | cons next rest ih =>
      have hrest := ih next (by simp)
      rw [List.intercalate_cons_cons, ← hrest]
      simp

/-- A path is read back from its text. -/
theorem readPath_pathText {path : List (List Char)} (h : IsNormalPath path) :
    readPath ((pathText path).drop 1) = path := by
  have hsame : (['/'].intercalate path).map (fun c => if c == '\\' then '/' else c) =
      ['/'].intercalate path := by
    refine (List.map_congr_left fun c hc => if_neg fun hback => ?_).trans (List.map_id _)
    obtain rfl := beq_iff_eq.1 hback
    rcases Text.mem_intercalate hc with hc | ⟨segment, hsegment, hc⟩
    · cases hc
    · exact (h.each segment hsegment).slashless.2 hc
  have hencoded : path.map (encode inPath) = path :=
    (List.map_congr_left fun s hs => Percent.encode_of_isClean (h.each s hs).clean).trans (List.map_id _)
  have hcut : splitOn '/' (['/'].intercalate path) = path :=
    Text.splitOn_intercalate h.filled fun s hs => (h.each s hs).slashless.1
  rw [readPath, drop_one_pathText h.filled, hsame, hcut, hencoded,
    normalPath_of_dotless h.filled fun s hs => (h.each s hs).dotless, List.nil_append]

/-! ### User name and password -/

/-- How a password is written behind the user name. -/
def passwordText : Option (List Char) → List Char
  | some password => ':' :: password
  | none => []

theorem userinfoText_eq (u : Url) :
    u.userinfoText =
      if (u.username ++ passwordText u.password).isEmpty then []
      else u.username ++ passwordText u.password ++ ['@'] := by
  rw [userinfoText]
  cases u.password <;> rfl

/-- User name and password in normal form. -/
structure IsNormalUserinfo (username : List Char) (password : Option (List Char)) : Prop where
  username : IsClean inUserinfo username
  password : ∀ p ∈ password, p ≠ [] ∧ IsClean inUserinfo p

theorem isNormalUserinfo_readUserinfo (cs : List Char) :
    IsNormalUserinfo (readUserinfo cs).1 (readUserinfo cs).2 := by
  refine ⟨Percent.isClean_userinfo _, fun p hp => ?_⟩
  rw [readUserinfo] at hp
  dsimp only at hp
  split at hp
  · cases hp
  · rename_i hfilled
    obtain rfl := Option.some.inj hp
    exact ⟨fun hnil => hfilled (List.isEmpty_iff.2 (Percent.eq_nil_of_encode hnil)),
      Percent.isClean_userinfo _⟩

section

variable {username : List Char} {password : Option (List Char)}

theorem ne_of_isClean {c : Char} (hc : inUserinfo c = true) {cs : List Char} (h : IsClean inUserinfo cs) :
    c ∉ cs := fun hmem => by
  rw [(h c hmem).2] at hc
  cases hc

/-- User name and password are read back from how they are written. -/
theorem readUserinfo_text (h : IsNormalUserinfo username password) :
    readUserinfo (username ++ passwordText password) = (username, password) := by
  have hname := Text.bne_of_not_mem (ne_of_isClean (c := ':') rfl h.username)
  cases hpassword : password with
  | none =>
      rw [passwordText, List.append_nil, readUserinfo, List.takeWhile_eq_self_iff.2 hname]
      simp [Percent.encode_of_isClean h.username]
  | some p =>
      obtain ⟨hfilled, hclean⟩ := h.password p hpassword
      rw [passwordText, readUserinfo, List.takeWhile_append_of_pos hname]
      simp [Percent.encode_of_isClean h.username, Percent.encode_of_isClean hclean, hfilled]

theorem cutUserinfo_of_not_mem {host : List Char} (h : '@' ∉ host) : cutUserinfo host = (none, host) := by
  have hall := Text.bne_of_not_mem (mt List.mem_reverse.1 h)
  rw [cutUserinfo, List.takeWhile_eq_self_iff.2 hall]
  simp

theorem cutUserinfo_append {userinfo host : List Char} (h : '@' ∉ host) :
    cutUserinfo (userinfo ++ '@' :: host) = (some userinfo, host) := by
  have hall := Text.bne_of_not_mem (mt List.mem_reverse.1 h)
  have hhost : ((userinfo ++ '@' :: host).reverse.takeWhile (· != '@')).reverse = host := by
    rw [List.reverse_append, List.reverse_cons, List.append_assoc, List.takeWhile_append_of_pos hall]
    simp
  have hlength : ¬(host.length == (userinfo ++ '@' :: host).length) = true := by
    simp
    omega
  have hcount : (userinfo ++ '@' :: host).length - host.length - 1 = userinfo.length := by
    simp
    omega
  rw [cutUserinfo, hhost, if_neg hlength, hcount, List.take_left]

end

/-- Both are read back from an authority. -/
theorem readUserinfo_cutUserinfo {u : Url} (h : IsNormalUserinfo u.username u.password) {host : List Char}
    (hhost : '@' ∉ host) :
    (cutUserinfo (u.userinfoText ++ host)).2 = host ∧
      readUserinfo ((cutUserinfo (u.userinfoText ++ host)).1.getD []) = (u.username, u.password) := by
  have hread := readUserinfo_text h
  rw [userinfoText_eq]
  split
  · rename_i hempty
    rw [List.isEmpty_iff.1 hempty] at hread
    rw [List.nil_append, cutUserinfo_of_not_mem hhost]
    exact ⟨rfl, hread⟩
  · rw [List.append_assoc, List.singleton_append, cutUserinfo_append hhost]
    exact ⟨rfl, hread⟩

/-! ### Host and port -/

theorem hostLength_append {inside : Bool} {cs : List Char}
    (h : ∀ c ∈ cs, c ≠ '[' ∧ c ≠ ']' ∧ (inside = false → c ≠ ':')) (rest : List Char) :
    hostLength inside (cs ++ rest) = cs.length + hostLength inside rest := by
  induction cs with
  | nil => simp
  | cons c cs ih =>
      obtain ⟨hopen, hclose, hcolon⟩ := h c List.mem_cons_self
      have hstop : ¬(c == ':' && !inside) = true := by
        cases inside
        · simpa using hcolon rfl
        · simp
      have hsame : (if c == '[' then true else if c == ']' then false else inside) = inside := by
        simp [hopen, hclose]
      rw [List.cons_append, hostLength, if_neg hstop, hsame,
        ih fun d hd => h d (List.mem_cons_of_mem c hd), List.length_cons]
      omega

theorem hostLength_of_isHostChar {cs : List Char} (h : ∀ c ∈ cs, Domain.IsHostChar c) (rest : List Char) :
    hostLength false (cs ++ rest) = cs.length + hostLength false rest := by
  refine hostLength_append (fun c hc => ?_) rest
  have hallowed := (h c hc).allowed
  refine ⟨?_, ?_, fun _ => ?_⟩ <;> rintro rfl <;> exact absurd hallowed (by decide)

theorem hostLength_text (host : Host) (rest : List Char) :
    hostLength false (host.text ++ rest) = host.text.length + hostLength false rest := by
  cases host with
  | name domain => exact hostLength_of_isHostChar domain.isHostChar rest
  | ipv4 address => exact hostLength_of_isHostChar (Host.isHostChar_ipv4 address) rest
  | ipv6 groups =>
      have hinside : ∀ c ∈ Ipv6.text groups, c ≠ '[' ∧ c ≠ ']' ∧ (true = false → c ≠ ':') := fun c hc => by
        have hdigit : ∀ d < 16, Nat.digitChar d ≠ '[' ∧ Nat.digitChar d ≠ ']' := by decide
        rcases Ipv6.mem_text hc with rfl | ⟨d, hd, rfl⟩
        · decide
        · exact ⟨(hdigit d hd).1, (hdigit d hd).2, fun hne => absurd hne (by decide)⟩
      have hopen : hostLength false ('[' :: (Ipv6.text groups ++ ']' :: rest)) =
          hostLength true (Ipv6.text groups ++ ']' :: rest) + 1 := rfl
      have hclose : hostLength true (']' :: rest) = hostLength false rest + 1 := rfl
      rw [Host.text, List.cons_append, List.cons_append, List.append_assoc, List.singleton_append, hopen,
        hostLength_append hinside, hclose]
      simp
      omega

/-- A port in normal form. -/
def IsNormalPort (scheme : Scheme) (port : Option Nat) : Prop :=
  ∀ p ∈ port, p < 65536 ∧ p ≠ scheme.defaultPort

theorem readPort_toDigits {n : Nat} (h : n < 65536) : readPort (Nat.toDigits 10 n) = .ok (some n) := by
  have hdigits : (Nat.toDigits 10 n).all Char.isDigit = true :=
    List.all_eq_true.2 fun c hc => Json.Numeral.isDigit_toDigits hc
  have hsum := Json.Numeral.ofDigits_toDigits n
  rw [Json.Numeral.ofDigits, List.foldl_map] at hsum
  rw [readPort, hdigits]
  have hfilled : (Nat.toDigits 10 n).isEmpty = false := by simp
  simp only [hfilled, Bool.not_true, Bool.false_eq_true, if_false]
  rw [show (Nat.toDigits 10 n).foldl (fun n c => n * 10 + (c.toNat - '0'.toNat)) 0 = n from hsum, if_pos h]

theorem cutPort_text (u : Url) :
    cutPort (u.host.text ++ u.portText) =
      (u.host.text, u.port.map (Nat.toDigits 10)) := by
  have hport : hostLength false u.portText = 0 := by
    rw [portText]
    cases u.port <;> rfl
  rw [cutPort, hostLength_text, hport, Nat.add_zero, List.take_left, portText]
  cases u.port <;> simp

theorem readServer_text {u : Url} (hhost : u.host.IsNormal) (hport : IsNormalPort u.scheme u.port) :
    readServer (u.host.text ++ u.portText) =
      if u.host.IsUnreadable then .error .domain else .ok (u.host, u.port) := by
  have hfilled : u.host.text.isEmpty = false := by simpa using Host.text_ne_nil hhost
  rw [readServer, cutPort_text]
  simp only [hfilled, Bool.false_eq_true, if_false, Host.parse_text hhost]
  split
  · rfl
  · cases hsome : u.port with
    | none => rfl
    | some p =>
        have hread := readPort_toDigits (hport p hsome).1
        simp only [Option.map_some, hread]
        rfl

end Url

end Lineage
