import SpendLedger.Table

/-!
# Looking up in tables

A table holds each name once, answers for a name with the value last put under it, and holds exactly the values that it
answers with. Entries whose names increase are a table as they are.
-/

namespace SpendLedger

namespace Table

variable {β γ : Type}

/-- The first entry of a name after an insertion. -/
theorem find?_insertEntry (key : String) (value : β) (l : List (String × β)) (k : String) :
    (insertEntry key value l).find? (fun e => e.1 = k) =
      if k = key then some (key, value) else l.find? fun e => e.1 = k := by
  induction l with
  | nil =>
    by_cases hk : k = key
    · simp [insertEntry, hk]
    · simp [insertEntry, hk, Ne.symm hk]
  | cons e rest ih =>
    obtain ⟨name, old⟩ := e
    simp only [insertEntry]
    by_cases hk : k = key
    · subst hk
      split
      · simp
      · split
        · simp
        · next hne => simp [Ne.symm hne, ih]
    · split
      · simp [Ne.symm hk]
      · split
        · next heq => simp [Ne.symm hk, ← heq]
        · simp [hk, ih, List.find?_cons]

/-- A name has the value that was put under it; the other names keep theirs. -/
theorem get?_insert (t : Table β) (key : String) (value : β) (k : String) :
    (t.insert key value).get? k = if k = key then some value else t.get? k := by
  unfold get? insert
  rw [find?_insertEntry]
  split <;> rfl

theorem nodup_keys (t : Table β) : t.keys.Nodup :=
  List.Pairwise.map _ (fun _ _ hlt heq => String.lt_irrefl _ (heq ▸ hlt)) t.increasing

/-- A table holds exactly what it answers with. -/
theorem mem_entries_iff {t : Table β} {key : String} {value : β} :
    (key, value) ∈ t.entries ↔ t.get? key = some value := by
  obtain ⟨entries, increasing⟩ := t
  show (key, value) ∈ entries ↔ (entries.find? fun e => e.1 = key).map Prod.snd = some value
  induction entries with
  | nil => simp
  | cons e rest ih =>
    obtain ⟨hfirst, hrest⟩ := List.pairwise_cons.1 increasing
    obtain ⟨name, first⟩ := e
    by_cases hname : name = key
    · subst hname
      have hnot : (name, value) ∉ rest := fun hmem => String.lt_irrefl name (hfirst _ hmem)
      simp [hnot, eq_comm]
    · simp [hname, Ne.symm hname, ih hrest]

theorem mem_keys_iff {t : Table β} {key : String} : key ∈ t.keys ↔ ∃ value, t.get? key = some value := by
  unfold keys
  rw [List.mem_map]
  constructor
  · rintro ⟨⟨name, value⟩, hmem, rfl⟩
    exact ⟨value, mem_entries_iff.1 hmem⟩
  · rintro ⟨value, hget⟩
    exact ⟨(key, value), mem_entries_iff.2 hget, rfl⟩

/-- A name after all others is put at the end. -/
theorem insertEntry_of_lt {key : String} {l : List (String × β)} (h : ∀ e ∈ l, e.1 < key) (value : β) :
    insertEntry key value l = l ++ [(key, value)] := by
  induction l with
  | nil => rfl
  | cons e rest ih =>
    obtain ⟨k, v⟩ := e
    have hk : k < key := h (k, v) List.mem_cons_self
    have hne : key ≠ k := fun heq => String.lt_irrefl k (heq ▸ hk)
    rw [insertEntry, if_neg (String.lt_asymm hk), if_neg hne, ih fun e he => h e (List.mem_cons_of_mem _ he),
      List.cons_append]

/-- A table that is filled with increasing names, all after its own, has the new entries behind the old ones. -/
theorem entries_foldl_insert {t : Table β} {l : List (String × β)}
    (h : (t.entries ++ l).Pairwise fun a b => a.1 < b.1) :
    (l.foldl (fun t e => t.insert e.1 e.2) t).entries = t.entries ++ l := by
  induction l generalizing t with
  | nil => exact (List.append_nil _).symm
  | cons e rest ih =>
    have hlast : ∀ x ∈ t.entries, x.1 < e.1 := fun x hx => (List.pairwise_append.1 h).2.2 x hx e List.mem_cons_self
    have hentries : (t.insert e.1 e.2).entries = t.entries ++ [e] := insertEntry_of_lt hlast e.2
    rw [← List.singleton_append, ← List.append_assoc, ← hentries] at h
    rw [List.foldl_cons, ih h, hentries, List.append_assoc, List.singleton_append]

theorem entries_ofList {l : List (String × β)} (h : l.Pairwise fun a b => a.1 < b.1) : (ofList l).entries = l :=
  entries_foldl_insert h

/-- Filling a table with values of other names leaves what it has under a name. -/
theorem get?_foldl_insert {l : List (String × β)} {key : String} (h : key ∉ l.map Prod.fst) (t : Table β) :
    (l.foldl (fun t e => t.insert e.1 e.2) t).get? key = t.get? key := by
  induction l generalizing t with
  | nil => rfl
  | cons e rest ih =>
    rw [List.map_cons, List.mem_cons, not_or] at h
    rw [List.foldl_cons, ih h.2, get?_insert, if_neg h.1]

/-- The table of entries with different names answers with each of them. -/
theorem get?_ofList {l : List (String × β)} (hnames : (l.map Prod.fst).Nodup) {key : String} {value : β}
    (hmem : (key, value) ∈ l) : (ofList l).get? key = some value := by
  unfold ofList
  generalize (empty : Table β) = t
  induction l generalizing t with
  | nil => cases hmem
  | cons e rest ih =>
    rw [List.map_cons, List.nodup_cons] at hnames
    rw [List.foldl_cons]
    rcases List.mem_cons.1 hmem with rfl | hrest
    · rw [get?_foldl_insert hnames.1, get?_insert, if_pos rfl]
    · exact ih hnames.2 hrest _

/-- A table with each of its values replaced. -/
def map (f : β → γ) (t : Table β) : Table γ where
  entries := t.entries.map fun e => (e.1, f e.2)
  increasing := List.pairwise_map.2 t.increasing

/-- A table of replaced values answers with them. -/
@[simp] theorem get?_map (f : β → γ) (t : Table β) (key : String) : (t.map f).get? key = (t.get? key).map f := by
  unfold get? map
  rw [List.find?_map, Option.map_map, Option.map_map]
  rfl

/-- The table of a table's own entries is that table. -/
@[simp] theorem ofList_entries (t : Table β) : ofList t.entries = t := by
  have hentries := entries_ofList t.increasing
  cases hmade : ofList t.entries with
  | mk entries increasing =>
    rw [hmade] at hentries
    cases t
    cases hentries
    rfl

end Table

end SpendLedger
