import Mathlib
import Lineage.Json.Document

/-! The reader takes the tokens that write a tree for that tree, in whatever place the tree stands. Main
statement: a tree is read back from its tokens. -/

namespace Lineage.Json

namespace Document

/-- Over the tokens the reader gets from one state to the next. -/
def Reader.Gets (r : Reader) (tokens : List Token) (next : Reader) : Prop :=
  tokens.foldlM Reader.step r = some next

namespace Reader

variable {r middle next : Reader} {t : Token} {tokens more : List Token}

theorem Gets.cons (h : r.step t = some middle) (rest : middle.Gets tokens next) :
    r.Gets (t :: tokens) next := by
  rw [Gets, List.foldlM_cons, h]
  exact rest

theorem Gets.single (h : r.step t = some next) : r.Gets [t] next := .cons h rfl

theorem Gets.append (first : r.Gets tokens middle) (last : middle.Gets more next) :
    r.Gets (tokens ++ more) next := by
  rw [Gets, List.foldlM_append, first]
  exact last

/-- A value may stand where the first item of an array is awaited. -/
theorem Gets.itemOrEnd {outer : Context} (h : (value (.item [] outer)).Gets (t :: tokens) next)
    (ht : t ≠ .endArray) : (Reader.itemOrEnd outer).Gets (t :: tokens) next := by
  have hstep : step (.itemOrEnd outer) t = step (.value (.item [] outer)) t := by
    cases t with
    | endArray => exact absurd rfl ht
    | _ => rfl
  rw [Gets, List.foldlM_cons, hstep]
  exact h

end Reader

/-- No value begins with a closing bracket. -/
theorem exists_tokens_eq_cons (d : Document) : ∃ t more, d.tokens = t :: more ∧ t ≠ .endArray := by
  cases d <;> rw [tokens] <;> exact ⟨_, _, rfl, nofun⟩

theorem exists_itemTokens_eq_cons (d : Document) (rest : List Document) :
    ∃ t more, itemTokens (d :: rest) = t :: more ∧ t ≠ .endArray := by
  obtain ⟨t, more, htokens, ht⟩ := d.exists_tokens_eq_cons
  cases rest with
  | nil => exact ⟨t, more, htokens, ht⟩
  | cons e rest => exact ⟨t, more ++ .comma :: itemTokens (e :: rest), by simp [itemTokens, htokens], ht⟩

mutual

/-- After the tokens of a tree the tree is in its place. -/
theorem gets_tokens : (d : Document) → (place : Context) →
    (Reader.value place).Gets d.tokens (place.supply d)
  | .null, _ | .bool _, _ | .number _, _ | .text _, _ => rfl
  | .array [], _ => rfl
  | .array (d :: rest), place => by
      have hitems := gets_itemTokens (d :: rest) nofun [] place
      obtain ⟨t, more, htokens, ht⟩ := exists_itemTokens_eq_cons d rest
      rw [List.append_nil, htokens] at hitems
      rw [tokens, htokens, List.cons_append]
      refine .cons rfl ((hitems.itemOrEnd ht).append (.single ?_))
      rw [Reader.step, List.reverse_reverse]
  | .object [], _ => rfl
  | .object (m :: rest), place => by
      have hmembers := gets_memberTokens (m :: rest) nofun [] place
      have hnames : (Reader.nameOrEnd place).Gets (memberTokens (m :: rest))
          (.afterMember ((m :: rest).reverse ++ []) place) := by
        cases rest <;> exact hmembers
      rw [List.append_nil] at hnames
      rw [tokens, List.cons_append]
      refine .cons rfl (hnames.append (.single ?_))
      rw [Reader.step, List.reverse_reverse]

theorem gets_itemTokens : (items : List Document) → items ≠ [] → (before : List Document) →
    (outer : Context) → (Reader.value (.item before outer)).Gets (itemTokens items)
      (.afterItem (items.reverse ++ before) outer)
  | [], h, _, _ => absurd rfl h
  | [d], _, before, outer => gets_tokens d (.item before outer)
  | d :: e :: rest, _, before, outer => by
      have hrest := gets_itemTokens (e :: rest) nofun (d :: before) outer
      rw [List.reverse_cons, List.append_assoc]
      exact (gets_tokens d (.item before outer)).append (.cons rfl hrest)

theorem gets_memberTokens : (members : List (Option String × Document)) → members ≠ [] →
    (before : List (Option String × Document)) → (outer : Context) →
    (Reader.nextName before outer).Gets (memberTokens members)
      (.afterMember (members.reverse ++ before) outer)
  | [], h, _, _ => absurd rfl h
  | [(name, d)], _, before, outer => .cons rfl (.cons rfl (gets_tokens d (.member before name outer)))
  | (name, d) :: m :: rest, _, before, outer => by
      have hrest := gets_memberTokens (m :: rest) nofun ((name, d) :: before) outer
      rw [List.reverse_cons, List.append_assoc]
      exact .cons rfl (.cons rfl ((gets_tokens d (.member before name outer)).append (.cons rfl hrest)))

end

theorem ofTokens?_tokens (d : Document) : ofTokens? d.tokens = some d := by
  rw [ofTokens?, d.gets_tokens .top]
  rfl

end Document

end Lineage.Json
