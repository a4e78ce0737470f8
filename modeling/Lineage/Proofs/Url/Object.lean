import Mathlib
import Lineage.Proofs.Url.Percent
import Lineage.Url.Server

/-! Where the objects of a server are asked for. A hash is one segment below the base, and read back
from there, unless it is made of dots or holds a character that is dropped; a base whose path is two
slashes loses one of them. Main statement: these exceptions are all there are. -/

namespace Lineage.Url

open Text (Utf8.encode)

/-- All of a URL that stands before its path. -/
def stem (u : Url) : List Char :=
  u.scheme.text ++ [':', '/', '/'] ++ u.userinfoText ++ u.host.text ++ u.portText

theorem chars_eq (u : Url) : u.chars = u.stem ++ pathText u.path := rfl

@[simp] theorem pathText_nil : pathText [] = [] := rfl

@[simp] theorem pathText_cons (segment : List Char) (path : List (List Char)) :
    pathText (segment :: path) = '/' :: segment ++ pathText path := rfl

@[simp] theorem pathText_append (path rest : List (List Char)) :
    pathText (path ++ rest) = pathText path ++ pathText rest :=
  List.flatMap_append

/-- What is left of a segment without the characters that are dropped. -/
def kept (segment : List Char) : List Char :=
  segment.filter fun c => !(c == '\t' || c == '\n' || c == '\r')

/-- Nothing but dots is special in itself. -/
def IsLiteral (segment : List Char) : Prop :=
  segment ≠ ['.'] ∧ segment ≠ ['.', '.'] ∧ ∀ c ∈ segment, c ≠ '\t' ∧ c ≠ '\n' ∧ c ≠ '\r'

theorem kept_eq_self_iff {segment : List Char} :
    kept segment = segment ↔ ∀ c ∈ segment, c ≠ '\t' ∧ c ≠ '\n' ∧ c ≠ '\r' := by
  simp [kept, List.filter_eq_self, and_assoc]

/-- A dot that only shows is read back as a dot. -/
theorem decode_of_plainDots {segment rest : List Char} (h : plainDots segment = '.' :: rest) :
    ∃ behind, plainDots behind = rest ∧
      Percent.decode (Utf8.encode segment) = 46 :: Percent.decode (Utf8.encode behind) := by
  unfold plainDots at h
  split at h
  · rename_i c behind
    split at h
    · rename_i hc
      refine ⟨behind, List.tail_eq_of_cons_eq h, ?_⟩
      rcases Bool.or_eq_true _ _ ▸ hc with hc | hc
      · rw [beq_iff_eq] at hc
        subst hc
        rfl
      · rw [beq_iff_eq] at hc
        subst hc
        rfl
    · cases h
  · rename_i c behind _
    obtain ⟨rfl, hrest⟩ := List.cons_eq_cons.1 h
    exact ⟨behind, hrest, Percent.decode_cons_of_ne (by decide) _⟩
  · cases h

theorem decode_of_plainDots_replicate {segment : List Char} {n : Nat}
    (h : plainDots segment = List.replicate n '.') :
    Percent.decode (Utf8.encode segment) = Utf8.encode (List.replicate n '.') := by
  induction n generalizing segment with
  | zero =>
      unfold plainDots at h
      split at h
      · split at h <;> cases h
      · cases h
      · rfl
  | succ n ih =>
      obtain ⟨behind, hbehind, hdecode⟩ := decode_of_plainDots h
      rw [hdecode, ih hbehind, List.replicate_succ, Text.Utf8.encode_cons]
      rfl

theorem plainDots_encode_replicate (n : Nat) :
    plainDots (Percent.encode Percent.inSegment (List.replicate n '.')) = List.replicate n '.' := by
  induction n with
  | zero => rfl
  | succ n ih => exact congrArg (List.cons '.') ih

/-- Encoding leaves dots as they are, and makes none. -/
theorem plainDots_encode_iff (segment : List Char) (n : Nat) :
    plainDots (Percent.encode Percent.inSegment segment) = List.replicate n '.' ↔
      segment = List.replicate n '.' := by
  constructor
  · intro h
    have hdecode := decode_of_plainDots_replicate h
    rw [Percent.decode_encode rfl] at hdecode
    exact Text.Utf8.encode_injective hdecode
  · rintro rfl
    exact plainDots_encode_replicate n

theorem dots?_encode (segment : List Char) :
    dots? (Percent.encode Percent.inSegment segment) =
      if segment = ['.'] then some .stay else if segment = ['.', '.'] then some .up else none := by
  have hone := plainDots_encode_iff segment 1
  have htwo := plainDots_encode_iff segment 2
  simp only [List.replicate] at hone htwo
  simp only [dots?, beq_iff_eq, hone, htwo]

theorem addLast_encode (path : List (List Char)) (segment : List Char) :
    addLast path (Percent.encode Percent.inSegment segment) =
      if segment = ['.'] then path ++ [[]]
      else if segment = ['.', '.'] then parent path ++ [[]]
      else path ++ [Percent.encode Percent.inSegment segment] := by
  rw [addLast, dots?_encode]
  by_cases hone : segment = ['.']
  · rw [if_pos hone, if_pos hone]
  by_cases htwo : segment = ['.', '.']
  · rw [if_neg hone, if_pos htwo, if_neg hone, if_pos htwo]
  · rw [if_neg hone, if_neg htwo, if_neg hone, if_neg htwo]

theorem parent_append {last : List Char} (h : isDriveLetter last = false) (path : List (List Char)) :
    parent (path ++ [last]) = path := by
  rw [parent, List.getLast?_concat]
  simp [h]

theorem appendSegment_dots {segment : List Char} (h : segment = ['.'] ∨ segment = ['.', '.'])
    (path : List (List Char)) : appendSegment path segment = path := by
  rcases h with rfl | rfl <;> rfl

/-- A path that is `/` alone gives way. -/
theorem appendSegment_eq {segment : List Char} (h : ¬(segment = ['.'] ∨ segment = ['.', '.']))
    (path : List (List Char)) :
    appendSegment path segment =
      addLast (if path = [[]] then [] else path) (Percent.encode Percent.inSegment (kept segment)) := by
  rw [appendSegment, if_neg (by simpa using h)]
  simp only [beq_iff_eq, kept]

/-- The path of a base without the empty segment at its end; two slashes count as one. -/
def trunk (base : Url) : List (List Char) :=
  if base.path = [[], []] then [] else base.path.dropLast

/-- What a hash adds to the trunk of a base. -/
def placed (hash : List Char) : List (List Char) :=
  if hash = ['.'] ∨ hash = ['.', '.'] then [['o', 'b', 'j']]
  else if kept hash = ['.'] then [['o', 'b', 'j'], []]
  else if kept hash = ['.', '.'] then [[]]
  else [['o', 'b', 'j'], Percent.encode Percent.inSegment (kept hash)]

section

variable {base : Url} (directory : base.path.getLast? = some [])

include directory

theorem below_path {segment : List Char} (h : ¬(segment = ['.'] ∨ segment = ['.', '.']))
    (segments : List (List Char)) :
    (base.below (segment :: segments)).path =
      segments.foldl appendSegment
        (addLast base.trunk (Percent.encode Percent.inSegment (kept segment))) := by
  obtain ⟨front, hfront⟩ := List.getLast?_eq_some_iff.1 directory
  rw [below, List.foldl_cons, appendSegment_eq h, trunk, hfront]
  cases front with
  | nil => rfl
  | cons first front =>
      have hempty : ((first :: front ++ [[]]).getLast? == some [] &&
          1 < (first :: front ++ [[]]).length) = true := by
        rw [List.getLast?_concat]
        simp
      have hroot : first :: front ++ [[]] = [[], []] ↔ first :: front = [[]] := by simp
      rw [if_pos hempty, List.dropLast_concat]
      simp only [hroot]

omit directory in
theorem trunk_append_ne {segment : List Char} (h : segment ≠ []) : base.trunk ++ [segment] ≠ [[]] := by
  intro heq
  have hlast := congrArg List.getLast? heq
  rw [List.getLast?_concat] at hlast
  exact h (Option.some.inj hlast)

theorem object_path (hash : String) : (base.object hash).path = base.trunk ++ placed hash.toList := by
  rw [object, below_path directory (by decide)]
  change appendSegment (base.trunk ++ [['o', 'b', 'j']]) hash.toList = _
  rw [placed]
  by_cases hdots : hash.toList = ['.'] ∨ hash.toList = ['.', '.']
  · rw [appendSegment_dots hdots, if_pos hdots]
  rw [appendSegment_eq hdots, if_neg hdots, if_neg (trunk_append_ne (by decide)), addLast_encode]
  by_cases hone : kept hash.toList = ['.']
  · rw [if_pos hone, if_pos hone, List.append_assoc]
    rfl
  by_cases htwo : kept hash.toList = ['.', '.']
  · rw [if_neg hone, if_neg hone, if_pos htwo, if_pos htwo, parent_append (by decide)]
  · rw [if_neg hone, if_neg hone, if_neg htwo, if_neg htwo, List.append_assoc]
    rfl

theorem refs_path : base.refs.path = base.trunk ++ [['r', 'e', 'f'], []] := by
  rw [refs, below_path directory (by decide)]
  change appendSegment (base.trunk ++ [['r', 'e', 'f']]) [] = _
  rw [appendSegment_eq (by decide), if_neg (trunk_append_ne (by decide))]
  exact List.append_assoc ..

theorem chars_eq_trunk :
    base.chars =
      base.stem ++ pathText base.trunk ++ (if base.path = [[], []] then ['/', '/'] else ['/']) := by
  obtain ⟨front, hfront⟩ := List.getLast?_eq_some_iff.1 directory
  rw [chars_eq, trunk, List.append_assoc]
  by_cases hslashes : base.path = [[], []]
  · rw [if_pos hslashes, if_pos hslashes, hslashes]
    rfl
  · rw [if_neg hslashes, if_neg hslashes, hfront, List.dropLast_concat, pathText_append]
    rfl

theorem object_chars (hash : String) :
    (base.object hash).chars = base.stem ++ pathText base.trunk ++ pathText (placed hash.toList) := by
  rw [List.append_assoc, ← pathText_append, ← object_path directory]
  rfl

theorem refs_chars :
    base.refs.chars = base.stem ++ pathText base.trunk ++ ['/', 'r', 'e', 'f', '/'] := by
  have htext : ['/', 'r', 'e', 'f', '/'] = pathText [['r', 'e', 'f'], []] := rfl
  rw [List.append_assoc, htext, ← pathText_append, ← refs_path directory]
  rfl

end

/-- One segment that is not empty. -/
def IsSegment (cs : List Char) : Prop :=
  cs ≠ [] ∧ ∀ c ∈ cs, c ≠ '/' ∧ c ≠ '\\' ∧ c ≠ '?' ∧ c ≠ '#'

/-- The object's URL is one segment below the base's `obj`, and the segment tells the hash. -/
def HoldsObject (base : Url) (hash : String) : Prop :=
  ∃ segment, IsSegment segment ∧
    (base.object hash).chars = base.chars ++ ['o', 'b', 'j', '/'] ++ segment ∧
    Percent.decode (Utf8.encode segment) = Utf8.encode hash.toList

theorem asDirectory_getLast? (path : List (List Char)) : (asDirectory path).getLast? = some [] := by
  rw [asDirectory]
  split
  · rename_i h
    exact beq_iff_eq.1 h
  · exact List.getLast?_concat

theorem server_directory {raw : String} {base : Url} (h : server raw = .ok base) :
    base.path.getLast? = some [] := by
  rw [server] at h
  cases hparse : parse (Text.trimmed raw.toList) with
  | error fault => rw [hparse] at h; cases h
  | ok u =>
      rw [hparse] at h
      cases h
      exact asDirectory_getLast? u.path

theorem isSegment_encode {hash : List Char} (h : hash ≠ []) :
    IsSegment (Percent.encode Percent.inSegment hash) := by
  have hdigit : ∀ n < 16, Percent.hexDigit n ≠ '/' ∧ Percent.hexDigit n ≠ '\\' ∧
      Percent.hexDigit n ≠ '?' ∧ Percent.hexDigit n ≠ '#' := by
    decide
  refine ⟨mt Percent.eq_nil_of_encode h, fun c hc => ?_⟩
  rcases Percent.mem_encode hc with ⟨-, -, hkept⟩ | rfl | ⟨n, hn, rfl⟩
  · refine ⟨?_, ?_, ?_, ?_⟩ <;> rintro rfl <;> cases hkept
  · decide
  · exact hdigit n hn

theorem placed_of_isLiteral {hash : List Char} (h : IsLiteral hash) :
    placed hash = [['o', 'b', 'j'], Percent.encode Percent.inSegment hash] := by
  obtain ⟨hone, htwo, hkept⟩ := h
  rw [placed, kept_eq_self_iff.2 hkept, if_neg (not_or.2 ⟨hone, htwo⟩), if_neg hone, if_neg htwo]

section

variable {base : Url} {hash : String} (directory : base.path.getLast? = some [])

include directory

theorem holdsObject_of_isLiteral (slashes : base.path ≠ [[], []]) (named : hash ≠ "")
    (literal : IsLiteral hash.toList) : base.HoldsObject hash := by
  refine ⟨Percent.encode Percent.inSegment hash.toList, isSegment_encode ?_, ?_,
    Percent.decode_encode rfl _⟩
  · exact fun hnil => named (String.toList_eq_nil_iff.1 hnil)
  · rw [object_chars directory, chars_eq_trunk directory, if_neg slashes, placed_of_isLiteral literal]
    simp

theorem isLiteral_of_holdsObject (h : base.HoldsObject hash) :
    base.path ≠ [[], []] ∧ IsLiteral hash.toList := by
  obtain ⟨segment, ⟨hne, -⟩, hchars, hdecode⟩ := h
  rw [object_chars directory, chars_eq_trunk directory] at hchars
  simp only [List.append_assoc, List.append_cancel_left_eq] at hchars
  by_cases hslashes : base.path = [[], []]
  -- Behind the first slash the base goes on with another one, and no object does.
  · rw [if_pos hslashes, placed] at hchars
    split_ifs at hchars <;> simp at hchars
  rw [if_neg hslashes, placed] at hchars
  split_ifs at hchars with hdots hone htwo
  · simp at hchars
  · simp at hchars
    exact absurd hchars hne
  · simp at hchars
  · have hsegment : Percent.encode Percent.inSegment (kept hash.toList) = segment := by
      simpa using hchars
    rw [← hsegment, Percent.decode_encode rfl] at hdecode
    obtain ⟨hone', htwo'⟩ := not_or.1 hdots
    exact ⟨hslashes, hone', htwo', kept_eq_self_iff.1 (Text.Utf8.encode_injective hdecode)⟩

/-- Two objects have one URL exactly if their hashes are placed alike. -/
theorem object_chars_eq_iff (other : String) :
    (base.object hash).chars = (base.object other).chars ↔
      placed hash.toList = placed other.toList := by
  rw [object_chars directory, object_chars directory, List.append_cancel_left_eq]
  constructor
  · intro h
    unfold placed at h ⊢
    split_ifs at h ⊢ <;> simp_all
  · intro h
    rw [h]

/-- What it takes to leave the base's `obj`: dots, a tab aside, or a base of two slashes. -/
theorem object_below_iff :
    base.chars ++ ['o', 'b', 'j', '/'] <+: (base.object hash).chars ↔
      base.path ≠ [[], []] ∧ hash.toList ≠ ['.'] ∧ hash.toList ≠ ['.', '.'] ∧
        kept hash.toList ≠ ['.', '.'] := by
  rw [object_chars directory, chars_eq_trunk directory, List.append_assoc,
    List.prefix_append_right_inj]
  by_cases hslashes : base.path = [[], []]
  · unfold placed
    split_ifs <;> simp [hslashes]
  · unfold placed
    split_ifs with hdots hone htwo
    · rcases hdots with hdots | hdots <;> simp [hdots, hslashes]
    · simp [hslashes, not_or.1 hdots, hone]
    · simp [hslashes, htwo]
    · simp [hslashes, not_or.1 hdots, htwo]

theorem refs_chars_eq_iff :
    base.refs.chars = base.chars ++ ['r', 'e', 'f', '/'] ↔ base.path ≠ [[], []] := by
  rw [refs_chars directory, chars_eq_trunk directory, List.append_assoc, List.append_assoc,
    List.append_assoc, List.append_cancel_left_eq, List.append_cancel_left_eq]
  by_cases hslashes : base.path = [[], []]
  · simp [hslashes]
  · simp [hslashes]

end

theorem eq_of_placed_eq {hash other : List Char} (literal : IsLiteral hash)
    (otherLiteral : IsLiteral other) (h : placed hash = placed other) : hash = other := by
  rw [placed_of_isLiteral literal, placed_of_isLiteral otherLiteral] at h
  have hpercent : Percent.inSegment '%' = true := rfl
  exact Percent.encode_injective hpercent (by simpa using h)

/-- The exceptions are all there are: when a hash stays in its segment, when it stays below the base's
`obj`, and when another hash has its URL. -/
theorem object_in_segment_iff {raw : String} {base : Url} (h : server raw = .ok base) {hash : String}
    (named : hash ≠ "") :
    (base.HoldsObject hash ↔ base.path ≠ [[], []] ∧ IsLiteral hash.toList) ∧
      (base.refs.chars = base.chars ++ ['r', 'e', 'f', '/'] ↔ base.path ≠ [[], []]) ∧
      (base.chars ++ ['o', 'b', 'j', '/'] <+: (base.object hash).chars ↔
        base.path ≠ [[], []] ∧ hash.toList ≠ ['.'] ∧ hash.toList ≠ ['.', '.'] ∧
          kept hash.toList ≠ ['.', '.']) ∧
      (∀ other : String, (base.object hash).chars = (base.object other).chars ↔
        placed hash.toList = placed other.toList) ∧
      ∀ other : String, IsLiteral hash.toList → IsLiteral other.toList →
        (base.object hash).chars = (base.object other).chars → hash = other := by
  have directory := server_directory h
  refine ⟨⟨isLiteral_of_holdsObject directory, fun ⟨slashes, literal⟩ =>
    holdsObject_of_isLiteral directory slashes named literal⟩, refs_chars_eq_iff directory,
    object_below_iff directory, object_chars_eq_iff directory, ?_⟩
  intro other literal otherLiteral hchars
  have hplaced := (object_chars_eq_iff directory other).1 hchars
  exact String.toList_injective (eq_of_placed_eq literal otherLiteral hplaced)

/-- A base with a path of its own. -/
def retroBase : Url :=
  ⟨.http, [], none, .ipv6 [0, 0, 0, 0, 0, 0, 0, 1], none, [['r', 'e', 't', 'r', 'o'], []]⟩

theorem object_in_segment_iff_for_slash :
    server "http://[::1]/retro" = .ok retroBase ∧ "a/b?c" ≠ "" ∧
      (retroBase.HoldsObject "a/b?c" ↔ retroBase.path ≠ [[], []] ∧ IsLiteral "a/b?c".toList) ∧
      (retroBase.object "a/b?c").text = "http://[::1]/retro/obj/a%2Fb%3Fc" := by
  have h : server "http://[::1]/retro" = .ok retroBase := by rfl
  have named : "a/b?c" ≠ "" := by decide
  exact ⟨h, named, (object_in_segment_iff h named).1, by decide⟩

/-- A tab that is dropped makes two dots go up. -/
theorem object_escapes :
    ¬∀ (raw : String) (base : Url), server raw = .ok base →
      ∀ hash : String, hash ≠ "" → base.HoldsObject hash := by
  intro h
  obtain ⟨segment, -, hchars, -⟩ := h "http://[::1]/retro" retroBase (by rfl) "\t.." (by decide)
  have hbase : (retroBase.object "\t..").chars = retroBase.chars := by decide
  have hlength := congrArg List.length (hbase.symm.trans hchars)
  simp at hlength

end Lineage.Url
