import Mathlib
import Lineage.Proofs.Text.Split
import Lineage.Proofs.Url.Characters
import Lineage.Proofs.Url.Punycode

/-! A domain name in its ASCII form is read back as itself, unless one of its labels holds more Punycode
than is read: then it is no domain name. -/

namespace Lineage.Domain

open Punycode (IsDigit)
open Text (splitOn)

/-- A character that the ASCII form of a name may hold. -/
@[mk_iff] structure IsHostChar (c : Char) : Prop where
  ascii : c.toNat < 0x80
  notCapital : NotCapital c.toNat
  allowed : isForbidden c = false

instance (c : Char) : Decidable (IsHostChar c) := decidable_of_iff' _ (isHostChar_iff c)

theorem IsHostChar.isFixed {c : Char} (h : IsHostChar c) : IsFixed c :=
  .inl ⟨h.ascii, h.notCapital⟩

/-- What Punycode adds to a label. -/
theorem isHostChar_written {c : Char} (h : c ∈ mark ∨ IsDigit c) : IsHostChar c ∧ c ≠ '.' := by
  have hdigit : ∀ d < Punycode.base, IsHostChar (Punycode.digitChar d) ∧ Punycode.digitChar d ≠ '.' := by
    decide
  rcases h with h | ⟨d, hd, rfl⟩
  · simp only [mark, List.mem_cons, List.not_mem_nil, or_false] at h
    rcases h with rfl | rfl | rfl | rfl <;> decide
  · exact hdigit d hd

theorem mem_asciiLabel {label : List Char} {c : Char} (h : c ∈ asciiLabel label) :
    (c ∈ label ∧ c.toNat < 0x80) ∨ c ∈ mark ∨ IsDigit c := by
  rw [asciiLabel] at h
  split at h
  · rename_i hascii
    exact .inl ⟨h, by simpa using List.all_eq_true.1 hascii c h⟩
  · rcases List.mem_append.1 h with h | h
    · exact .inr (.inl h)
    · rcases Punycode.mem_encode h with h | rfl | h
      · exact .inl h
      · exact .inr (.inl (by decide))
      · exact .inr (.inr h)

theorem wideLabel?_eq_some {part label : List Char} (h : wideLabel? part = some label) :
    part = label ∧ part.length ≤ labelLimit ∧ isValid part = true := by
  rw [wideLabel?] at h
  split at h
  · rename_i hvalid
    rw [Bool.and_eq_true, decide_eq_true_eq] at hvalid
    exact ⟨Option.some.inj h, hvalid⟩
  · cases h

/-- A label that a name is read into. -/
structure IsRead (label : List Char) : Prop where
  dotless : '.' ∉ label
  small : ∀ c ∈ label, NotCapital c.toNat
  fits : (isAscii label = true ∧ isMarked label = false) ∨
    (isAscii label = false ∧ wideLabel? label = some label)

theorem isRead_of_wideLabel? {part label : List Char} (dotless : '.' ∉ part) (wide : isAscii part = false)
    (h : wideLabel? part = some label) : IsRead label := by
  obtain ⟨rfl, -, hvalid⟩ := wideLabel?_eq_some h
  refine ⟨dotless, fun c hc => ?_, .inr ⟨wide, h⟩⟩
  simp only [isValid, Bool.and_eq_true, List.all_eq_true] at hvalid
  exact notCapital_mapChar? (beq_iff_eq.1 (hvalid.1.1.1 c hc)) List.mem_cons_self

theorem isRead_of_unicodeLabel? {part label : List Char} (dotless : '.' ∉ part)
    (small : ∀ c ∈ part, NotCapital c.toNat) (h : unicodeLabel? part = some label) : IsRead label := by
  rw [unicodeLabel?] at h
  split_ifs at h with hunreadable hmarked hascii
  · obtain ⟨decoded, hdecoded, h⟩ := Option.bind_eq_some_iff.1 h
    split at h
    · cases h
    · rename_i hwide
      refine isRead_of_wideLabel? (fun hdot => ?_) (by simpa using hwide) h
      exact dotless (List.mem_of_mem_drop (Punycode.mem_of_mem_decode? hdecoded hdot (by decide)))
  · obtain rfl := Option.some.inj h
    exact ⟨dotless, small, .inl ⟨hascii, by simpa using hmarked⟩⟩
  · exact isRead_of_wideLabel? dotless (by simpa using hascii) h

namespace IsRead

variable {label : List Char}

theorem dotless_asciiLabel (h : IsRead label) : '.' ∉ asciiLabel label := fun hdot => by
  rcases mem_asciiLabel hdot with ⟨hdot, -⟩ | hdot
  · exact h.dotless hdot
  · exact (isHostChar_written hdot).2 rfl

theorem isHostChar_asciiLabel (h : IsRead label) (allowed : label.any isForbidden = false) :
    ∀ c ∈ asciiLabel label, IsHostChar c := by
  intro c hc
  rcases mem_asciiLabel hc with ⟨hc, hascii⟩ | hc
  · exact ⟨hascii, h.small c hc, by simpa using List.any_eq_false.1 allowed c hc⟩
  · exact (isHostChar_written hc).1

theorem isMarked_asciiLabel (h : IsRead label) : isMarked (asciiLabel label) = !isAscii label := by
  rw [asciiLabel]
  rcases h.fits with ⟨hascii, hmarked⟩ | ⟨hwide, -⟩
  · rw [hascii, if_pos rfl, hmarked]
    rfl
  · rw [hwide, if_neg Bool.false_ne_true]
    exact List.isPrefixOf_iff_prefix.2 (List.prefix_append ..)

/-- What is written for a label is read as that label. -/
theorem unicodeLabel?_asciiLabel (h : IsRead label) (readable : isUnreadable (asciiLabel label) = false) :
    unicodeLabel? (asciiLabel label) = some label := by
  rw [unicodeLabel?, readable, h.isMarked_asciiLabel, if_neg Bool.false_ne_true]
  rcases h.fits with ⟨hascii, hmarked⟩ | ⟨hwide, hlabel⟩
  · have hsame : asciiLabel label = label := if_pos hascii
    rw [hsame, hascii]
    rfl
  · have hlength : label.length ≤ Punycode.maxLength := (wideLabel?_eq_some hlabel).2.1
    have hpayload : (asciiLabel label).drop mark.length = Punycode.encode label := by
      rw [asciiLabel, hwide, if_neg Bool.false_ne_true]
      exact List.drop_left
    rw [hpayload, Punycode.decode?_encode hlength, Option.bind_some, hwide, Bool.not_false, if_pos rfl,
      if_neg Bool.false_ne_true, hlabel]

end IsRead

/-- The ASCII form of a name of these labels. -/
def joined (labels : List (List Char)) : List Char :=
  ['.'].intercalate (labels.map asciiLabel)

/-- Labels that make a domain name. -/
structure AreRead (labels : List (List Char)) : Prop where
  filled : labels ≠ []
  each : ∀ label ∈ labels, IsRead label
  allowed : (labels.any (·.any isForbidden) || (isBidirectional labels && !labels.all directionFits)) = false

theorem areRead_of_mappedAscii? {cs out : List Char} (h : mappedAscii? cs = some out) :
    ∃ labels, AreRead labels ∧ out = joined labels := by
  obtain ⟨chars, hchars, h⟩ := Option.bind_eq_some_iff.1 h
  obtain ⟨labels, hlabels, h⟩ := Option.bind_eq_some_iff.1 h
  split at h
  · cases h
  · rename_i hallowed
    have hread := Text.mapM_iff_forall₂.1 hlabels
    refine ⟨labels, ⟨?_, ?_, by simpa using hallowed⟩, (Option.some.inj h).symm⟩
    · rintro rfl
      exact Text.splitOn_ne_nil _ _ (List.forall₂_nil_right_iff.1 hread)
    · intro label hlabel
      obtain ⟨part, hpart, hunicode⟩ := Text.exists_of_mem_right hread hlabel
      have hmem := Text.mem_of_mem_splitOn hpart
      refine isRead_of_unicodeLabel? (fun hdot => (hmem '.' hdot).2 rfl) (fun c hc => ?_) hunicode
      refine notCapital_normalized (fun d hd => ?_) c (hmem c hc).1
      obtain ⟨mapped, hmapped, hd⟩ := List.mem_flatten.1 hd
      obtain ⟨e, -, he⟩ := Text.exists_of_mem_right (Text.mapM_iff_forall₂.1 hchars) hmapped
      exact notCapital_mapChar? he hd

/-- Of fixed characters nothing is mapped, so that only the labels are read. -/
theorem mappedAscii?_of_isFixed {cs : List Char} (h : ∀ c ∈ cs, IsFixed c) :
    mappedAscii? cs = ((splitOn '.' cs).mapM unicodeLabel?).bind fun labels =>
      if labels.any (·.any isForbidden) || (isBidirectional labels && !labels.all directionFits) then none
      else some (joined labels) := by
  have hflatten : (cs.map ([·])).flatten = cs :=
    (List.flatMap_def ..).symm.trans (List.flatMap_singleton' _)
  rw [mappedAscii?, mapM_mapChar?_of_isFixed h, Option.bind_eq_bind, Option.bind_some, hflatten,
    normalized_of_isFixed h]
  rfl

namespace AreRead

variable {labels : List (List Char)}

theorem splitOn_joined (h : AreRead labels) : splitOn '.' (joined labels) = labels.map asciiLabel :=
  Text.splitOn_intercalate (by simpa using h.filled) (by
    simpa using fun label hlabel => (h.each label hlabel).dotless_asciiLabel)

theorem isHostChar_joined (h : AreRead labels) : ∀ c ∈ joined labels, IsHostChar c := by
  intro c hc
  rcases Text.mem_intercalate hc with rfl | ⟨part, hpart, hc⟩
  · decide
  · obtain ⟨label, hlabel, rfl⟩ := List.mem_map.1 hpart
    have hallowed := List.any_eq_false.1 (Bool.or_eq_false_iff.1 h.allowed).1 label hlabel
    exact (h.each label hlabel).isHostChar_asciiLabel (by simpa using hallowed) c hc

theorem mapM_unicodeLabel? (h : AreRead labels) :
    (labels.map asciiLabel).mapM unicodeLabel? =
      if labels.any (isUnreadable <| asciiLabel ·) then none else some labels := by
  split
  · rename_i hany
    obtain ⟨label, hlabel, hunreadable⟩ := List.any_eq_true.1 hany
    refine Option.eq_none_iff_forall_ne_some.2 fun read hread => ?_
    obtain ⟨found, -, hsome⟩ := Text.exists_of_mem_right (Text.mapM_iff_forall₂.1 hread).flip
      (List.mem_map_of_mem hlabel)
    have hnone : unicodeLabel? (asciiLabel label) = none := if_pos hunreadable
    exact Option.some_ne_none _ (hsome.symm.trans hnone)
  · rename_i hnone
    rw [Text.mapM_iff_forall₂, List.forall₂_map_left_iff, List.forall₂_same]
    intro label hlabel
    have hreadable := List.any_eq_false.1 (Bool.not_eq_true _ ▸ hnone) label hlabel
    exact (h.each label hlabel).unicodeLabel?_asciiLabel (by simpa using hreadable)

theorem mappedAscii?_joined (h : AreRead labels) :
    mappedAscii? (joined labels) =
      if labels.any (isUnreadable <| asciiLabel ·) then none else some (joined labels) := by
  have hfixed : ∀ c ∈ joined labels, IsFixed c := fun c hc => (h.isHostChar_joined c hc).isFixed
  rw [mappedAscii?_of_isFixed hfixed, h.splitOn_joined, h.mapM_unicodeLabel?]
  split
  · rfl
  · rw [Option.bind_some, h.allowed, if_neg Bool.false_ne_true]

end AreRead

theorem toLower_of_notCapital {c : Char} (h : NotCapital c.toNat) : c.toLower = c :=
  dif_neg h

/-- The lower case of ASCII is ASCII without capital letters. -/
theorem toLower_of_ascii {c : Char} (h : c.toNat < 0x80) :
    c.toLower.toNat < 0x80 ∧ NotCapital c.toLower.toNat :=
  Text.of_ascii h (by decide)

/-- ASCII that is in lower case and of which nothing is forbidden. -/
theorem toAscii?_of_isHostChar {cs : List Char} (h : ∀ c ∈ cs, IsHostChar c) :
    toAscii? cs = if (splitOn '.' cs).any isMarked then mappedAscii? cs else some cs := by
  have hascii : isAscii cs = true :=
    List.all_eq_true.2 fun c hc => decide_eq_true (h c hc).ascii
  have hlower : cs.map Char.toLower = cs :=
    (List.map_congr_left fun c hc => toLower_of_notCapital (h c hc).notCapital).trans (List.map_id cs)
  have hallowed : cs.any isForbidden = false :=
    List.any_eq_false.2 fun c hc => by simpa using (h c hc).allowed
  rw [toAscii?]
  simp only [hlower, hascii, hallowed, Bool.true_and, Bool.not_eq_true', Bool.false_eq_true, if_false]
  cases (splitOn '.' cs).any isMarked <;> rfl

/-- A name in ASCII form that has a label with more Punycode than is read. -/
def HasUnreadable (cs : List Char) : Prop :=
  ∃ label ∈ splitOn '.' cs, isUnreadable label = true

instance (cs : List Char) : Decidable (HasUnreadable cs) := inferInstanceAs (Decidable (∃ _ ∈ _, _))

section

variable {cs out : List Char}

/-- A name is put in lower case or read into labels. -/
theorem toAscii?_eq_some (h : toAscii? cs = some out) :
    ((∀ c ∈ out, IsHostChar c) ∧ (splitOn '.' out).any isMarked = false) ∨
      ∃ labels, AreRead labels ∧ out = joined labels := by
  rw [toAscii?] at h
  split_ifs at h with hplain hforbidden
  · obtain rfl := Option.some.inj h
    rw [Bool.and_eq_true, Bool.not_eq_true'] at hplain
    refine .inl ⟨fun c hc => ?_, hplain.2⟩
    obtain ⟨d, hd, rfl⟩ := List.mem_map.1 hc
    have hascii := toLower_of_ascii (of_decide_eq_true (List.all_eq_true.1 hplain.1 d hd))
    exact ⟨hascii.1, hascii.2, by simpa using List.any_eq_false.1 (Bool.not_eq_true _ ▸ hforbidden) _ hc⟩
  · exact .inr (areRead_of_mappedAscii? h)

theorem isHostChar_of_toAscii? (h : toAscii? cs = some out) : ∀ c ∈ out, IsHostChar c := by
  rcases toAscii?_eq_some h with ⟨hchars, -⟩ | ⟨labels, hread, rfl⟩
  · exact hchars
  · exact hread.isHostChar_joined

theorem any_isMarked_of_hasUnreadable (h : HasUnreadable cs) : (splitOn '.' cs).any isMarked = true := by
  obtain ⟨label, hlabel, hunreadable⟩ := h
  rw [isUnreadable, Bool.and_eq_true] at hunreadable
  exact List.any_eq_true.2 ⟨label, hlabel, hunreadable.1⟩

/-- The ASCII form is its own ASCII form, if it can be read at all. -/
theorem toAscii?_of_toAscii? (h : toAscii? cs = some out) :
    toAscii? out = if HasUnreadable out then none else some out := by
  rw [toAscii?_of_isHostChar (isHostChar_of_toAscii? h)]
  rcases toAscii?_eq_some h with ⟨-, hunmarked⟩ | ⟨labels, hread, rfl⟩
  · have hreadable : ¬HasUnreadable out := fun hunreadable => by
      rw [any_isMarked_of_hasUnreadable hunreadable] at hunmarked
      cases hunmarked
    rw [hunmarked, if_neg Bool.false_ne_true, if_neg hreadable]
  · have hiff : HasUnreadable (joined labels) ↔ labels.any (isUnreadable <| asciiLabel ·) = true := by
      rw [HasUnreadable, hread.splitOn_joined]
      simp
    rw [hread.mappedAscii?_joined]
    by_cases hunreadable : HasUnreadable (joined labels)
    · rw [if_pos (any_isMarked_of_hasUnreadable hunreadable), if_pos (hiff.1 hunreadable),
        if_pos hunreadable]
    · rw [if_neg (mt hiff.2 hunreadable), if_neg hunreadable, ite_self]

end

end Lineage.Domain
