import Mathlib
import Lineage.Proofs.Checkpoint.Description

/-! Descriptions on one line. Cutting a text off leaves no blank at its end, as an ellipsis stands there.
Main statement: the line is the decoded text with each run of blanks as one space, trimmed and cut off
where it is too long; it has no other blanks and at most 96 characters, and as the description of a
checkpoint it is shown as it is. -/

namespace Lineage

open Text (IsNormal isBlank collapsed squeezed trimmed)

namespace Checkpoint

variable {cs : List Char}

theorem length_shortened_le (cs : List Char) : (shortened cs).length ≤ maxShown := by
  rw [shortened]
  split
  · assumption
  · rw [List.length_append, List.length_take, List.length_singleton, maxShown]
    omega

theorem shortened_of_length_le (h : cs.length ≤ maxShown) : shortened cs = cs := if_pos h

theorem isNormal_shortened (h : IsNormal cs) : IsNormal (shortened cs) := by
  have hmark : isBlank '…' = false := by decide
  rw [shortened]
  split
  · exact h
  · rename_i hlong
    have hinit : cs.take (maxShown - 1) <+: cs := List.take_prefix _ cs
    refine
      { spaces := fun c hc hblank => ?_
        single := ?_
        first := fun c hc => ?_
        last := fun c hc => ?_ }
    · rcases List.mem_append.1 hc with hc | hc
      · exact h.spaces c (hinit.subset hc) hblank
      · rw [List.mem_singleton.1 hc, hmark] at hblank
        cases hblank
    · have hsingle := h.single.prefix hinit
      refine List.isChain_append.2 ⟨hsingle, List.isChain_singleton _, ?_⟩
      intro c _ d hd
      obtain rfl := Option.some.inj hd
      exact .inr hmark
    · refine h.first c ?_
      cases cs with
      | nil => exact absurd (Nat.zero_le _) hlong
      | cons d cs => exact hc
    · rw [List.getLast?_append_of_ne_nil _ (List.cons_ne_nil _ _)] at hc
      obtain rfl := Option.some.inj hc
      exact hmark

theorem oneLine_of_description {c : Checkpoint} {text : String} (h : c.description = .ok text) :
    c.oneLine = String.ofList (shortened (collapsed text.toList)) := by
  rw [oneLine, h]

/-- For every checkpoint whose description decodes. -/
theorem oneLine_is_normal {c : Checkpoint} {text : String} (decodes : c.description = .ok text) :
    let line := trimmed (squeezed text.toList)
    c.oneLine.toList = (if line.length ≤ 96 then line else line.take 95 ++ ['…']) ∧
      c.oneLine.length ≤ 96 ∧ IsNormal c.oneLine.toList ∧
      ∀ d : Checkpoint, d.commandDesc = Text.Base64.written (Text.Utf8.encode c.oneLine.toList) →
        d.oneLine = c.oneLine := by
  intro line
  have hline : c.oneLine.toList = shortened line := by
    rw [oneLine_of_description decodes, String.toList_ofList, ← Text.trimmed_squeezed]
  have hlength : c.oneLine.length ≤ 96 := by
    rw [← String.length_toList, hline]
    exact length_shortened_le line
  have hnormal : IsNormal c.oneLine.toList := by
    rw [hline]
    exact isNormal_shortened (Text.isNormal_trimmed_squeezed text.toList)
  refine ⟨hline, hlength, hnormal, fun d hd => ?_⟩
  have hdescription : d.description = .ok c.oneLine :=
    description_of_trim (by rw [hd, Text.Base64.trim_written])
  rw [oneLine_of_description hdescription, hnormal.collapsed_eq, shortened_of_length_le,
    String.ofList_toList]
  rwa [String.length_toList]

/-- The text is cut off behind a space, which stays before the ellipsis. -/
theorem oneLine_is_normal_behind_space :
    ∃ c : Checkpoint, c.description = .ok (String.ofList (List.replicate 94 'x') ++ "\n \tyz\n") ∧
      c.oneLine = String.ofList (List.replicate 94 'x') ++ " …" ∧ IsNormal c.oneLine.toList := by
  let text := String.ofList (List.replicate 94 'x') ++ "\n \tyz\n"
  let c : Checkpoint :=
    { bare "sha256:a" with commandDesc := Text.Base64.written (Text.Utf8.encode text.toList) }
  have decodes : c.description = .ok text := description_of_trim (Text.Base64.trim_written _)
  obtain ⟨hline, -, hnormal, -⟩ := oneLine_is_normal decodes
  refine ⟨c, decodes, ?_, hnormal⟩
  rw [← String.toList_inj, hline]
  decide +kernel

end Checkpoint

end Lineage
