import Mathlib
import Lineage.Command.Browse
import Lineage.Proofs.Json.Numeral
import Lineage.Proofs.Text.Blank

/-! Line breaks in the lines of checkpoints. An age is spelled with digits and letters, and a description
is joined from words by spaces, so that neither holds a line break; the hash and the session are shown as
they are. Main statement: the line breaks in a checkpoint's line are those of its abbreviated hash and
session, so that it takes up one line of a terminal exactly if these have none. -/

namespace Lineage

namespace Text

/-- The characters behind which a new line begins. -/
def isLineBreak (c : Char) : Bool :=
  let n := c.toNat
  (0x0A ≤ n && n ≤ 0x0D) || n == 0x85 || n == 0x2028 || n == 0x2029

def lineBreaks (s : String) : List Char := s.toList.filter isLineBreak

variable {c : Char} {cs : List Char} {s : String}

theorem isBlank_of_isLineBreak (h : isLineBreak c = true) : isBlank c = true := by
  simp only [isLineBreak, isBlank, Bool.or_eq_true, Bool.and_eq_true, decide_eq_true_eq, beq_iff_eq] at h ⊢
  omega

theorem isLineBreak_of_isNumberChar (h : Json.Token.isNumberChar c = true) : isLineBreak c = false := by
  have hzero : '0'.toNat = 48 := rfl
  have hnine : '9'.toNat = 57 := rfl
  simp only [Json.Token.isNumberChar, Bool.or_eq_true, beq_iff_eq, Char.isDigit_iff_toNat] at h
  rcases h with ((((⟨hlow, hhigh⟩ | rfl) | rfl) | rfl) | rfl) | rfl
  · simp only [isLineBreak, Bool.or_eq_false_iff, Bool.and_eq_false_iff, decide_eq_false_iff_not,
      beq_eq_false_iff_ne]
    omega
  all_goals rfl

theorem lineBreaks_eq_nil_iff : lineBreaks s = [] ↔ ∀ c ∈ s.toList, isLineBreak c = false := by
  simp [lineBreaks, List.filter_eq_nil_iff]

@[simp] theorem lineBreaks_append (s t : String) : lineBreaks (s ++ t) = lineBreaks s ++ lineBreaks t := by
  rw [lineBreaks, String.toList_append, List.filter_append]
  rfl

theorem lineBreaks_join (l : List String) : lineBreaks (String.join l) = l.flatMap lineBreaks := by
  rw [lineBreaks, String.toList_join, List.filter_flatMap]
  rfl

theorem lineBreaks_toString (n : Int) : lineBreaks (toString n) = [] :=
  lineBreaks_eq_nil_iff.2 fun c hc => isLineBreak_of_isNumberChar
    (Json.Numeral.isNumberChar_of_spells (Json.Numeral.spells_integer n) c hc)

@[simp] theorem lineBreaks_spaces (n : Nat) : lineBreaks (String.ofList (List.replicate n ' ')) = [] := by
  rw [lineBreaks_eq_nil_iff, String.toList_ofList]
  intro c hc
  rw [List.eq_of_mem_replicate hc]
  rfl

theorem isLineBreak_of_mem_collapsed (h : c ∈ collapsed cs) : isLineBreak c = false := by
  rw [← Bool.not_eq_true]
  intro hbreak
  rw [(isNormal_collapsed cs).spaces c h (isBlank_of_isLineBreak hbreak)] at hbreak
  cases hbreak

end Text

open Text (lineBreaks lineBreaks_eq_nil_iff)

theorem Instant.lineBreaks_age (date now : Instant) : lineBreaks (date.age now) = [] := by
  have hcount (n : Int) {unit : String} (h : lineBreaks unit = []) :
      lineBreaks (toString n ++ toString unit) = [] := by
    rw [Text.lineBreaks_append, Text.lineBreaks_toString]
    exact h
  rw [Instant.age]
  split_ifs
  · decide +kernel
  · decide +kernel
  · exact hcount _ (by decide +kernel)
  · exact hcount _ (by decide +kernel)
  · exact hcount _ (by decide +kernel)

theorem Checkpoint.lineBreaks_oneLine (c : Checkpoint) : lineBreaks c.oneLine = [] := by
  have hfault : lineBreaks "<undecodable command description>" = [] := by decide +kernel
  rw [Checkpoint.oneLine]
  cases c.description with
  | error fault => exact hfault
  | ok text =>
      rw [lineBreaks_eq_nil_iff, String.toList_ofList, Checkpoint.shortened]
      split_ifs with hfits
      · exact fun _ => Text.isLineBreak_of_mem_collapsed
      · intro c hc
        rcases List.mem_append.1 hc with hc | hc
        · exact Text.isLineBreak_of_mem_collapsed (List.mem_of_mem_take hc)
        · obtain rfl := List.mem_singleton.1 hc
          rfl

namespace Listing

open Command.Transcript (linesText)

/-- Neither what is shown of the hash nor what is shown of the session holds a line break. -/
structure IsUnbroken (c : Checkpoint) : Prop where
  hash : lineBreaks (Hash.abbreviate c.hash) = []
  session : ∀ session ∈ c.session?, lineBreaks (Hash.abbreviate session) = []

/-- The line breaks in what is shown of the session. -/
def sessionBreaks (c : Checkpoint) : List Char :=
  c.session?.elim [] fun session => lineBreaks (Hash.abbreviate session)

@[simp] theorem lineBreaks_padEnd (width : Nat) (s : String) : lineBreaks (padEnd width s) = lineBreaks s := by
  rw [padEnd, Text.lineBreaks_append, Text.lineBreaks_spaces, List.append_nil]

@[simp] theorem lineBreaks_padStart (width : Nat) (s : String) :
    lineBreaks (padStart width s) = lineBreaks s := by
  rw [padStart, Text.lineBreaks_append, Text.lineBreaks_spaces, List.nil_append]

theorem lineBreaks_checkpointLine (now : Instant) (c : Checkpoint) :
    lineBreaks (checkpointLine now c) = lineBreaks (Hash.abbreviate c.hash) ++ sessionBreaks c := by
  have hgap : lineBreaks "  " = [] := by decide +kernel
  have hmark : lineBreaks "?" = [] ∧ lineBreaks "-" = [] := by decide +kernel
  simp only [checkpointLine, Text.lineBreaks_append, lineBreaks_padEnd, lineBreaks_padStart, hgap,
    c.lineBreaks_oneLine, List.append_nil, Checkpoint.shortHash, sessionBreaks]
  cases c.date? <;> cases c.session? <;>
    simp only [hmark, Instant.lineBreaks_age, Option.elim, List.append_nil]

theorem isUnbroken_iff {c : Checkpoint} :
    IsUnbroken c ↔ lineBreaks (Hash.abbreviate c.hash) ++ sessionBreaks c = [] := by
  have hsession : (∀ session ∈ c.session?, lineBreaks (Hash.abbreviate session) = []) ↔
      sessionBreaks c = [] := by
    rw [sessionBreaks]
    cases c.session? <;> simp
  rw [List.append_eq_nil_iff, ← hsession]
  exact ⟨fun h => ⟨h.hash, h.session⟩, fun h => ⟨h.1, h.2⟩⟩

/-- Each text that is printed is ended by a line feed. -/
theorem length_lineBreaks_linesText (texts : List String) :
    (lineBreaks (linesText texts)).length = texts.length + (texts.flatMap lineBreaks).length := by
  have hend : lineBreaks "\n" = ['\n'] := by decide +kernel
  rw [linesText, Text.lineBreaks_join]
  induction texts with
  | nil => rfl
  | cons text texts ih =>
      rw [List.map_cons, List.flatMap_cons, List.length_append, ih, Text.lineBreaks_append, hend,
        List.length_append, List.length_singleton, List.length_cons, List.flatMap_cons, List.length_append]
      omega

/-- For every checkpoint at any time, and for all that are listed together. -/
theorem one_terminal_line_iff (now : Instant) (cs : List Checkpoint) :
    (∀ c : Checkpoint,
      lineBreaks (checkpointLine now c) = lineBreaks (Hash.abbreviate c.hash) ++ sessionBreaks c ∧
        (lineBreaks (checkpointLine now c) = [] ↔ IsUnbroken c)) ∧
      (Report.printed (cs.map (checkpointLine now))).output = linesText (cs.map (checkpointLine now)) ∧
      ((lineBreaks (linesText (cs.map (checkpointLine now)))).length = cs.length ↔
        ∀ c ∈ cs, IsUnbroken c) := by
  have hline (c : Checkpoint) : lineBreaks (checkpointLine now c) = [] ↔ IsUnbroken c := by
    rw [lineBreaks_checkpointLine, isUnbroken_iff]
  refine ⟨fun c => ⟨lineBreaks_checkpointLine now c, hline c⟩, rfl, ?_⟩
  rw [length_lineBreaks_linesText, List.length_map, Nat.add_eq_left, List.length_eq_zero_iff,
    List.flatMap_eq_nil_iff, List.forall_mem_map]
  exact forall₂_congr fun c _ => hline c

/-- A line feed in the session stays in the line, and so does one in the hash. -/
theorem session_breaks_line :
    checkpointLine ⟨0, 0, 0⟩ { Checkpoint.bare "sha256:a" with fields := .ofList [("session", "s\nt")] } =
        "a                 ?  s\nt       " ∧
      lineBreaks (checkpointLine ⟨0, 0, 0⟩
        { Checkpoint.bare "sha256:a" with fields := .ofList [("session", "s\nt")] }) = ['\n'] ∧
      lineBreaks (checkpointLine ⟨0, 0, 0⟩ (.bare "sha256:a\nb")) = ['\n'] := by
  decide +kernel

end Listing

end Lineage
