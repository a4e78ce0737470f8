import Mathlib
import Lineage.Command.Show
import Lineage.Proofs.Text.Base64

/-! The command that a checkpoint describes. Main statement: the description is the text of some bytes
exactly if what is left after trimming is these bytes in base64. Any other description cannot be decoded;
a placeholder stands for it in a line, and no command is shown with the object. -/

namespace Lineage

open Text (Base64.written isAllBlank trim)
open Text.Utf8 (decodeLossy)

namespace Checkpoint

/-- An empty description needs no case of its own, as no bytes are written as the empty text. -/
theorem decodeDescription_eq (encoded : String) :
    decodeDescription encoded =
      (Text.Base64.decode (Text.Utf8.encode (Text.trimmed encoded.toList))).map fun bytes =>
        String.ofList (decodeLossy bytes) := by
  rw [decodeDescription]
  split
  · rename_i hempty
    rw [List.isEmpty_iff.1 hempty]
    rfl
  · rfl

theorem decodeDescription_eq_ok_iff {encoded text : String} :
    decodeDescription encoded = .ok text ↔
      ∃ bytes, trim encoded = Base64.written bytes ∧ text = String.ofList (decodeLossy bytes) := by
  rw [decodeDescription_eq, trim]
  simp only [← Text.Base64.encode_eq_iff_written, ← Text.Base64.decode_eq_ok_iff]
  cases Text.Base64.decode (Text.Utf8.encode (Text.trimmed encoded.toList)) with
  | error fault => simp [Except.map]
  | ok bytes => simp [Except.map, eq_comm]

theorem description_of_trim {c : Checkpoint} {text : String}
    (h : trim c.commandDesc = Base64.written (Text.Utf8.encode text.toList)) :
    c.description = .ok text := by
  refine decodeDescription_eq_ok_iff.2 ⟨_, h, ?_⟩
  rw [Text.Utf8.decodeLossy_encode, String.ofList_toList]

end Checkpoint

/-- Only an object with parents has its description decoded. -/
theorem Command.describe?_eq {object : Json} {encoded : String}
    (h : object.member? "commandDesc" = some (.text encoded)) :
    describe? object =
      (object.member? "parentHashes").bind fun _ => (Checkpoint.decodeDescription encoded).toOption := by
  rw [describe?, h]
  rfl

namespace Checkpoint

/-- Nothing is said of the command, wherever the checkpoint is shown. -/
structure IsUndecodable (c : Checkpoint) : Prop where
  refused : ∃ fault, c.description = .error fault
  oneLine : c.oneLine = "<undecodable command description>"
  unshown : ∀ object : Json, object.member? "commandDesc" = some (.text c.commandDesc) →
    Command.describe? object = none ∧ Command.objectTexts object = [object.pretty]

variable {c : Checkpoint}

theorem isUndecodable_of_error {fault : Text.Base64.DecodeError} (h : c.description = .error fault) :
    c.IsUndecodable where
  refused := ⟨fault, h⟩
  oneLine := by rw [oneLine, h]
  unshown object hobject := by
    have hnone : Command.describe? object = none := by
      rw [Command.describe?_eq hobject, ← description, h]
      cases object.member? "parentHashes" <;> rfl
    refine ⟨hnone, ?_⟩
    rw [Command.objectTexts, hnone]
    rfl

/-- For every checkpoint. -/
theorem description_is_base64 (c : Checkpoint) :
    (∀ before text after : String, isAllBlank before = true → isAllBlank after = true →
      c.commandDesc = before ++ Base64.written (Text.Utf8.encode text.toList) ++ after →
        c.description = .ok text) ∧
    (∀ text, c.description = .ok text ↔ ∃ bytes,
      trim c.commandDesc = Base64.written bytes ∧ text = String.ofList (decodeLossy bytes)) ∧
    (c.IsUndecodable ↔ ∀ bytes, trim c.commandDesc ≠ Base64.written bytes) := by
  have hread (text : String) : c.description = .ok text ↔ ∃ bytes,
      trim c.commandDesc = Base64.written bytes ∧ text = String.ofList (decodeLossy bytes) :=
    decodeDescription_eq_ok_iff
  refine ⟨fun before text after hbefore hafter hdesc => ?_, hread, fun h bytes hbytes => ?_, fun h => ?_⟩
  · refine description_of_trim ?_
    rw [hdesc, Text.trim_around hbefore hafter, Text.Base64.trim_written]
  · obtain ⟨fault, hfault⟩ := h.refused
    rw [(hread _).2 ⟨bytes, hbytes, rfl⟩] at hfault
    cases hfault
  · cases hdescription : c.description with
    | error fault => exact isUndecodable_of_error hdescription
    | ok text =>
        obtain ⟨bytes, hbytes, -⟩ := (hread text).1 hdescription
        exact absurd hbytes (h bytes)

/-- A letter of two bytes between blanks. With bits set that belong to no byte, the same is refused. -/
theorem description_is_base64_between_blanks :
    ({ bare "sha256:a" with commandDesc := "\u00A0w6k=\r\n" } : Checkpoint).description = .ok "é" ∧
      ({ bare "sha256:a" with commandDesc := "\u00A0w6l=\r\n" } : Checkpoint).IsUndecodable := by
  refine ⟨(description_is_base64 _).1 "\u00A0" "é" "\r\n" (by decide) (by decide) (by decide +kernel),
    (description_is_base64 _).2.2.2 fun bytes hbytes => ?_⟩
  have hread := ((description_is_base64 { bare "sha256:a" with commandDesc := "\u00A0w6l=\r\n" }).2.1 _).2
    ⟨bytes, hbytes, rfl⟩
  have hrefused : ({ bare "sha256:a" with commandDesc := "\u00A0w6l=\r\n" } : Checkpoint).description =
      .error (.invalidLastSymbol 2 108) := by decide +kernel
  rw [hrefused] at hread
  cases hread

end Checkpoint

end Lineage
