import Mathlib
import Lineage.Text.Split

/-! Parts without the separator are got back by cutting what joins them, and are read one by one. -/

namespace Lineage.Text

theorem splitOn_eq (separator : Char) (cs : List Char) : splitOn separator cs = cs.splitOn separator := by
  induction cs with
  | nil => rfl
  | cons c cs ih =>
      have hcons : (c :: cs).splitOn separator = if (c == separator) = true then
          [] :: cs.splitOn separator else (cs.splitOn separator).modifyHead (List.cons c) :=
        List.splitOnP_cons_eq_if_modifyHead c cs
      rw [hcons, ← ih]
      cases hparts : splitOn separator cs with
      | nil => exact absurd hparts (splitOn_ne_nil separator cs)
      | cons part parts => simp only [splitOn, hparts, List.modifyHead_cons]

theorem bne_of_not_mem {separator : Char} {cs : List Char} (h : separator ∉ cs) :
    ∀ c ∈ cs, (c != separator) = true := fun c hc => by
  refine bne_iff_ne.2 ?_
  rintro rfl
  exact h hc

theorem splitOn_intercalate {separator : Char} {parts : List (List Char)} (hfilled : parts ≠ [])
    (h : ∀ part ∈ parts, separator ∉ part) :
    splitOn separator ([separator].intercalate parts) = parts := by
  rw [splitOn_eq]
  exact List.splitOn_intercalate separator h hfilled

theorem splitOn_of_not_mem {separator : Char} {cs : List Char} (h : separator ∉ cs) :
    splitOn separator cs = [cs] := by
  have hone := splitOn_intercalate (List.cons_ne_nil cs []) (by simpa using h)
  rwa [List.intercalate_singleton] at hone

theorem mem_of_mem_splitOn {separator : Char} {cs part : List Char} (h : part ∈ splitOn separator cs) :
    ∀ c ∈ part, c ∈ cs ∧ c ≠ separator := by
  induction cs generalizing part with
  | nil =>
      obtain rfl := List.mem_singleton.1 h
      simp
  | cons d cs ih =>
      intro c hc
      obtain ⟨head, parts, hparts⟩ := List.exists_cons_of_ne_nil (splitOn_ne_nil separator cs)
      have hkept : part ∈ head :: parts → c ∈ d :: cs ∧ c ≠ separator := fun hpart =>
        (ih (hparts ▸ hpart) c hc).imp_left (List.mem_cons_of_mem d)
      rw [splitOn, hparts] at h
      dsimp only at h
      split at h
      · rcases List.mem_cons.1 h with rfl | h
        · cases hc
        · exact hkept h
      · rename_i hd
        rcases List.mem_cons.1 h with rfl | h
        · rcases List.mem_cons.1 hc with rfl | hc
          · exact ⟨List.mem_cons_self, fun heq => hd (beq_iff_eq.2 heq)⟩
          · exact (ih (hparts ▸ List.mem_cons_self) c hc).imp_left (List.mem_cons_of_mem d)
        · exact hkept (List.mem_cons_of_mem _ h)

theorem mem_intercalate {separator c : Char} {parts : List (List Char)}
    (h : c ∈ [separator].intercalate parts) : c = separator ∨ ∃ part ∈ parts, c ∈ part := by
  induction parts with
  | nil => cases h
  | cons part parts ih =>
      cases parts with
      | nil => exact .inr ⟨part, List.mem_cons_self, by simpa [List.intercalate] using h⟩
      | cons next parts =>
          rw [List.intercalate_cons_cons, List.mem_append, List.mem_append] at h
          rcases h with (h | h) | h
          · exact .inr ⟨part, List.mem_cons_self, h⟩
          · exact .inl (List.mem_singleton.1 h)
          · exact (ih h).imp_right fun ⟨q, hq, hc⟩ => ⟨q, List.mem_cons_of_mem part hq, hc⟩

theorem mapM_iff_forall₂ {α β : Type} {read : α → Option β} {as : List α} {bs : List β} :
    as.mapM read = some bs ↔ List.Forall₂ (read · = some ·) as bs := by
  induction as generalizing bs with
  | nil => cases bs <;> simp
  | cons a as ih =>
      rw [List.mapM_cons]
      constructor
      · intro h
        obtain ⟨b, hb, h⟩ := Option.bind_eq_some_iff.1 h
        obtain ⟨rest, hrest, h⟩ := Option.bind_eq_some_iff.1 h
        cases h
        exact .cons hb (ih.1 hrest)
      · rintro (_ | ⟨hb, hrest⟩)
        rw [hb, ih.2 hrest]
        rfl

/-- What is read comes from one of the parts. -/
theorem exists_of_mem_right {α β : Type} {related : α → β → Prop} {as : List α} {bs : List β}
    (h : List.Forall₂ related as bs) {b : β} (hb : b ∈ bs) : ∃ a ∈ as, related a b := by
  induction h with
  | nil => cases hb
  | @cons a b' as bs hhead _ ih =>
      rcases List.mem_cons.1 hb with rfl | hb
      · exact ⟨a, List.mem_cons_self, hhead⟩
      · obtain ⟨c, hc, hrelated⟩ := ih hb
        exact ⟨c, List.mem_cons_of_mem a hc, hrelated⟩

end Lineage.Text
