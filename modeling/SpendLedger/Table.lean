/-!
# Tables

Values under names, the names in increasing order of their code points and each of them once.
-/

namespace SpendLedger

/-- Values under names. -/
structure Table (β : Type) where
  entries : List (String × β)
  increasing : entries.Pairwise fun a b => a.1 < b.1
deriving DecidableEq

namespace Table

variable {β γ : Type}

/-- Puts a value under a name into increasing entries, in the place of an earlier value. -/
def insertEntry (key : String) (value : β) : List (String × β) → List (String × β)
  | [] => [(key, value)]
  | (k, v) :: rest =>
    if key < k then (key, value) :: (k, v) :: rest
    else if key = k then (key, value) :: rest
    else (k, v) :: insertEntry key value rest

/-- Only the new entry and old ones come out of an insertion. -/
theorem mem_insertEntry {key : String} {value : β} {l : List (String × β)} {e : String × β}
    (h : e ∈ insertEntry key value l) : e = (key, value) ∨ e ∈ l := by
  induction l with
  | nil => exact Or.inl (by simpa [insertEntry] using h)
  | cons x rest ih =>
    obtain ⟨k, v⟩ := x
    simp only [insertEntry] at h
    split at h
    · rcases List.mem_cons.1 h with h | h
      · exact Or.inl h
      · exact Or.inr h
    · split at h
      · rcases List.mem_cons.1 h with h | h
        · exact Or.inl h
        · exact Or.inr (List.mem_cons_of_mem _ h)
      · rcases List.mem_cons.1 h with h | h
        · exact Or.inr (h ▸ List.mem_cons_self)
        · rcases ih h with h | h
          · exact Or.inl h
          · exact Or.inr (List.mem_cons_of_mem _ h)

/-- Insertion keeps the names increasing. -/
theorem increasing_insertEntry {key : String} {value : β} {l : List (String × β)}
    (h : l.Pairwise fun a b => a.1 < b.1) : (insertEntry key value l).Pairwise fun a b => a.1 < b.1 := by
  induction l with
  | nil => simp [insertEntry]
  | cons x rest ih =>
    obtain ⟨k, v⟩ := x
    obtain ⟨hx, hrest⟩ := List.pairwise_cons.1 h
    simp only [insertEntry]
    split
    · next hlt =>
      refine List.pairwise_cons.2 ⟨fun e he => ?_, h⟩
      rcases List.mem_cons.1 he with he | he
      · exact he ▸ hlt
      · exact String.lt_trans hlt (hx e he)
    · next hnlt =>
      split
      · next heq =>
        subst heq
        exact List.pairwise_cons.2 ⟨fun e he => hx e he, hrest⟩
      · next hne =>
        refine List.pairwise_cons.2 ⟨fun e he => ?_, ih hrest⟩
        rcases mem_insertEntry he with he | he
        · subst he
          have hle : k ≤ key := String.not_lt.1 hnlt
          exact Decidable.byContradiction fun hn => hne (String.le_antisymm (String.not_lt.1 hn) hle)
        · exact hx e he

/-- No values. -/
def empty : Table β := ⟨[], List.Pairwise.nil⟩

/-- A table with a value under a name, in the place of an earlier one. -/
def insert (t : Table β) (key : String) (value : β) : Table β :=
  ⟨insertEntry key value t.entries, increasing_insertEntry t.increasing⟩

/-- A table without the value under a name. -/
def erase (t : Table β) (key : String) : Table β :=
  ⟨t.entries.filter fun e => e.1 ≠ key, t.increasing.filter _⟩

/-- The table of given entries; of a name that comes twice the last value counts. -/
def ofList (entries : List (String × β)) : Table β :=
  entries.foldl (fun t e => t.insert e.1 e.2) empty

/-- The value under a name. -/
def get? (t : Table β) (key : String) : Option β :=
  (t.entries.find? fun e => e.1 = key).map Prod.snd

/-- The names. -/
def keys (t : Table β) : List String :=
  t.entries.map Prod.fst

/-- The values, in the order of their names. -/
def values (t : Table β) : List β :=
  t.entries.map Prod.snd

/-- Whether a table has no values. -/
def isEmpty (t : Table β) : Bool :=
  t.entries.isEmpty

/-- The number of values. -/
def size (t : Table β) : Nat :=
  t.entries.length

end Table

end SpendLedger
