import Mathlib
import Lineage.Json.Record
import Lineage.Proofs.Json.Scan
import Lineage.Text.Blank

/-! The members of an object by their names, what is read from each kind of document, and what is written
where there is nothing to read. Main statement: the value of a name does not depend on the order of the
members. -/

namespace Lineage.Json

section

variable {name : String} {members others : List (Option String × Document)} {d : Document}

theorem mem_valuesOf : d ∈ valuesOf name members ↔ (some name, d) ∈ members := by
  simp [valuesOf]

theorem length_valuesOf (name : String) (members : List (Option String × Document)) :
    (valuesOf name members).length = (members.map Prod.fst).count (some name) := by
  rw [valuesOf, List.length_map, ← List.countP_eq_length_filter, List.count, List.countP_map]
  rfl

theorem valuesOf_cons_self (d : Document) :
    valuesOf name ((some name, d) :: members) = d :: valuesOf name members := by
  simp [valuesOf]

theorem valuesOf_cons_of_ne {other : Option String} (h : other ≠ some name) (d : Document) :
    valuesOf name ((other, d) :: members) = valuesOf name members := by
  simp [valuesOf, h]

theorem valuesOf_eq_nil (h : some name ∉ members.map Prod.fst) : valuesOf name members = [] := by
  rw [← List.length_eq_zero_iff, length_valuesOf, List.count_eq_zero]
  exact h

/-- A name has one value wherever its member stands, and a repeated one has none in any order. -/
theorem valueOf?_perm (h : members.Perm others) (name : String) :
    valueOf? members name = valueOf? others name := by
  have hvalues : (valuesOf name members).Perm (valuesOf name others) := (h.filter _).map _
  rw [valueOf?, valueOf?]
  rcases hmembers : valuesOf name members with _ | ⟨d, _ | ⟨e, ds⟩⟩
  · rw [hmembers] at hvalues
    rw [hvalues.nil_eq]
  · rw [hmembers] at hvalues
    rw [List.singleton_perm.1 hvalues]
  · rw [hmembers] at hvalues
    rcases hothers : valuesOf name others with _ | ⟨f, _ | ⟨g, es⟩⟩
    · rw [hothers] at hvalues
      cases hvalues.length_eq
    · rw [hothers] at hvalues
      cases hvalues.length_eq
    · rfl

end

/-- A list is read item by item from what writes it item by item. -/
theorem mapM_eq_some_iff {α β : Type} {read : α → Option β} {write : β → α}
    (h : ∀ a b, read a = some b ↔ a = write b) {as : List α} {bs : List β} :
    as.mapM read = some bs ↔ as = bs.map write := by
  induction as generalizing bs with
  | nil => cases bs <;> simp
  | cons a as ih =>
      rw [List.mapM_cons]
      constructor
      · intro hread
        obtain ⟨b, hb, hread⟩ := Option.bind_eq_some_iff.1 hread
        obtain ⟨bs, hbs, hread⟩ := Option.bind_eq_some_iff.1 hread
        cases hread
        rw [(h a b).1 hb, ih.1 hbs, List.map_cons]
      · intro hwrite
        cases bs with
        | nil => cases hwrite
        | cons b bs =>
            obtain ⟨ha, has⟩ := List.cons_eq_cons.1 hwrite
            rw [(h a b).2 ha, ih.2 has]
            rfl

namespace Document

variable {d : Document}

theorem text?_eq_some {s : String} : d.text? = some s ↔ d = .text (some s) := by
  cases d <;> simp [text?]

theorem texts?_eq_some {texts : List String} :
    d.texts? = some texts ↔ d = .array (texts.map fun s => .text (some s)) := by
  cases d with
  | array items =>
      rw [texts?, mapM_eq_some_iff fun _ _ => text?_eq_some, Document.array.injEq]
  | _ => simp [texts?]

theorem members?_eq_some {members : List (String × Document)} :
    d.members? = some members ↔ d = .object (members.map fun m => (some m.1, m.2)) := by
  have hmember (m : Option String × Document) (n : String × Document) :
      (m.1.map fun name => (name, m.2)) = some n ↔ m = (some n.1, n.2) := by
    obtain ⟨name, d⟩ := m
    cases name <;> simp [Prod.ext_iff]
  cases d with
  | object all => rw [members?, mapM_eq_some_iff hmember, Document.object.injEq]
  | _ => simp [members?]

end Document

namespace Token

variable {c : Char} {cs : List Char} {earlier : List Token}

/-- Of the blanks only white space may stand between tokens. -/
theorem start_of_isBlank (h : Text.isBlank c = true) (tokens : List Token) :
    start tokens c = if isSpace c then some ⟨.between, tokens⟩ else none := by
  have hcode : c.toNat ≤ 0x20 ∨ 0x85 ≤ c.toNat := by
    simp only [Text.isBlank, Bool.or_eq_true, Bool.and_eq_true, decide_eq_true_eq, beq_iff_eq] at h
    omega
  have hdigit : c.isDigit = false := by
    simp only [Char.isDigit, Bool.and_eq_false_iff, decide_eq_false_iff_not, ge_iff_le,
      UInt32.le_iff_toNat_le, Char.toNat_val, Char.reduceToNat]
    omega
  have hlower : c.isLower = false := by
    simp only [Char.isLower, Bool.and_eq_false_iff, decide_eq_false_iff_not, ge_iff_le,
      UInt32.le_iff_toNat_le, Char.toNat_val, Char.reduceToNat]
    omega
  have apart (e : Char) (he : Text.isBlank e = false) : (c == e) = false := by
    rw [beq_eq_false_iff_ne]
    rintro rfl
    rw [h] at he
    cases he
  simp only [start, hdigit, hlower, apart '{' rfl, apart '}' rfl, apart '[' rfl, apart ']' rfl,
    apart ':' rfl, apart ',' rfl, apart '"' rfl, apart '-' rfl, Bool.or_false, Bool.false_eq_true,
    if_false]

/-- Blanks have no tokens, if they can be read at all. -/
theorem run_blank (h : ∀ c ∈ cs, Text.isBlank c = true) :
    Scanner.run ⟨.between, earlier⟩ cs = some earlier.reverse ∨
      Scanner.run ⟨.between, earlier⟩ cs = none := by
  induction cs with
  | nil => exact .inl rfl
  | cons c cs ih =>
      rw [List.forall_mem_cons] at h
      rw [Scanner.run_cons, Scanner.step, start_of_isBlank h.1]
      cases isSpace c with
      | true => exact ih h.2
      | false => exact .inr rfl

theorem scan_blank (h : ∀ c ∈ cs, Text.isBlank c = true) : scan cs = some [] ∨ scan cs = none :=
  run_blank h

end Token

/-- Nothing is written by blanks alone. -/
theorem Document.isAllBlank_of_parse? {text : String} {d : Document} (h : parse? text = some d) :
    Text.isAllBlank text = false := by
  rw [← Bool.not_eq_true]
  intro hblank
  rw [parse?] at h
  rcases Token.scan_blank (List.all_eq_true.1 hblank) with hscan | hscan
  · rw [hscan] at h
    cases h
  · rw [hscan] at h
    cases h

end Lineage.Json
