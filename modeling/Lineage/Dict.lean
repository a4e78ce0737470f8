/-! Dictionaries with text keys, listed in the order of their keys. Characters compare by code point,
which is also the order of the keys as UTF-8. -/

namespace Lineage

structure Dict (β : Type) where
  entries : List (String × β)
  sorted : entries.Pairwise (fun a b => a.1 < b.1)
  deriving DecidableEq, Repr

namespace Dict

variable {β γ : Type}

def empty : Dict β := ⟨[], .nil⟩

instance : Inhabited (Dict β) := ⟨empty⟩

/-- Into a sorted list. A value already there under the key is replaced. -/
def insertEntry (key : String) (value : β) : List (String × β) → List (String × β)
  | [] => [(key, value)]
  | (k, v) :: rest =>
    if key < k then (key, value) :: (k, v) :: rest
    else if key = k then (key, value) :: rest
    else (k, v) :: insertEntry key value rest

theorem mem_insertEntry {key : String} {value : β} {entry : String × β} :
    ∀ {l : List (String × β)}, entry ∈ insertEntry key value l → entry = (key, value) ∨ entry ∈ l
  | [], h => by simpa [insertEntry] using h
  | (k, v) :: rest, h => by
    unfold insertEntry at h
    split at h
    · simpa using h
    · split at h
      · rcases List.mem_cons.1 h with h | h
        · exact .inl h
        · exact .inr (List.mem_cons_of_mem _ h)
      · rcases List.mem_cons.1 h with h | h
        · exact .inr (h ▸ List.mem_cons_self)
        · rcases mem_insertEntry h with h | h
          · exact .inl h
          · exact .inr (List.mem_cons_of_mem _ h)

theorem sorted_insertEntry (key : String) (value : β) :
    ∀ {l : List (String × β)}, l.Pairwise (fun a b => a.1 < b.1) →
      (insertEntry key value l).Pairwise (fun a b => a.1 < b.1)
  | [], _ => by simp [insertEntry]
  | (k, v) :: rest, h => by
    have ⟨hk, hrest⟩ := List.pairwise_cons.1 h
    unfold insertEntry
    split
    · rename_i hlt
      refine List.pairwise_cons.2 ⟨fun entry hm => ?_, h⟩
      rcases List.mem_cons.1 hm with rfl | hm
      · exact hlt
      · exact String.lt_trans hlt (hk _ hm)
    · split
      · rename_i heq
        exact List.pairwise_cons.2 ⟨fun entry hm => heq ▸ hk _ hm, hrest⟩
      · rename_i hlt hne
        refine List.pairwise_cons.2 ⟨fun entry hm => ?_, sorted_insertEntry key value hrest⟩
        rcases mem_insertEntry hm with rfl | hm
        · exact Decidable.byContradiction fun hge =>
            hne (String.le_antisymm (String.not_lt.1 hge) (String.not_lt.1 hlt))
        · exact hk _ hm

def insert (d : Dict β) (key : String) (value : β) : Dict β :=
  ⟨insertEntry key value d.entries, sorted_insertEntry key value d.sorted⟩

/-- Of entries with one key the last counts. -/
def ofList (l : List (String × β)) : Dict β :=
  l.foldl (fun d entry => d.insert entry.1 entry.2) empty

def toList (d : Dict β) : List (String × β) := d.entries

def values (d : Dict β) : List β := d.entries.map Prod.snd

/-- The first entry, in key order, whose key passes the test. -/
def find? (d : Dict β) (p : String → Bool) : Option β :=
  (d.entries.find? fun entry => p entry.1).map Prod.snd

def get? (d : Dict β) (key : String) : Option β :=
  d.find? (· == key)

def map (f : β → γ) (d : Dict β) : Dict γ :=
  ⟨d.entries.map fun entry => (entry.1, f entry.2), List.pairwise_map.2 d.sorted⟩

theorem ext_entries {a b : Dict β} (h : a.entries = b.entries) : a = b := by
  cases a; cases b; cases h; rfl

@[simp] theorem toList_empty : (empty : Dict β).toList = [] := rfl

@[simp] theorem toList_insert (d : Dict β) (key : String) (value : β) :
    (d.insert key value).toList = insertEntry key value d.toList := rfl

end Dict

end Lineage
