import SpendLedger.Toml.Reader

/-!
# Names that stand once

In a document that can be read every group has each of its names once, at any depth: a value is put under a new name only, and a
group that is there already is filled up and not put down again. This holds of groups under headers, of groups in braces and of
groups that names with dots make, and of any mixture of them.
-/

namespace SpendLedger

/-- Each name of a group stands once, and so it is in the groups inside. -/
inductive Tree.NamesOnce : Tree → Prop where
  | plain {t : Tree} (flat : t.depth = 0) : NamesOnce t
  | list {items : List Tree} (inner : ∀ t ∈ items, NamesOnce t) : NamesOnce (.list items)
  | fields {entries : List (String × Tree)} (once : (entries.map Prod.fst).Nodup) (inner : ∀ e ∈ entries, NamesOnce e.2) :
    NamesOnce (.fields entries)

theorem Tree.namesOnce_fields {entries : List (String × Tree)} :
    (Tree.fields entries).NamesOnce ↔ (entries.map Prod.fst).Nodup ∧ ∀ e ∈ entries, e.2.NamesOnce := by
  constructor
  · intro h
    cases h with
    | plain flat => simp [depth] at flat
    | fields once inner => exact ⟨once, inner⟩
  · exact fun ⟨once, inner⟩ => .fields once inner

theorem Tree.namesOnce_list {items : List Tree} : (Tree.list items).NamesOnce ↔ ∀ t ∈ items, t.NamesOnce := by
  constructor
  · intro h
    cases h with
    | plain flat => simp [depth] at flat
    | list inner => exact inner
  · exact .list

namespace Toml

/-! ## Groups -/

/-- The values of a group, name by name. -/
theorem entriesTrees_eq (entries : Entries) : entriesTrees entries = entries.map fun e => (e.1, e.2.tree) := by
  induction entries with
  | nil => rfl
  | cons e rest ih => rw [entriesTrees, ih, List.map_cons]

theorem elementsTrees_eq (elements : List Entries) :
    elementsTrees elements = elements.map fun entries => .fields (entriesTrees entries) := by
  induction elements with
  | nil => rfl
  | cons entries rest ih => rw [elementsTrees, ih, List.map_cons]

namespace Entries

/-- Each name of a group that is being filled stands once, and so it is in the groups inside. -/
structure NamesOnce (entries : Entries) : Prop where
  once : (entries.map Prod.fst).Nodup
  inner : ∀ e ∈ entries, e.2.tree.NamesOnce

variable {entries inner : Entries} {elements : List Entries} {name : String} {node : Node}

/-- A group has its names once exactly if its values do as a tree. -/
theorem namesOnce_iff : entries.NamesOnce ↔ (Tree.fields (entriesTrees entries)).NamesOnce := by
  have hnames : (entries.map fun e => (e.1, e.2.tree)).map Prod.fst = entries.map Prod.fst := by
    rw [List.map_map]
    rfl
  rw [Tree.namesOnce_fields, entriesTrees_eq, hnames, List.forall_mem_map]
  exact ⟨fun h => ⟨h.once, h.inner⟩, fun h => ⟨h.1, h.2⟩⟩

theorem NamesOnce.nil : NamesOnce [] := ⟨List.nodup_nil, nofun⟩

theorem NamesOnce.find? (h : entries.NamesOnce) (hfound : entries.find? name = some node) : node.tree.NamesOnce := by
  obtain ⟨before, after, hentries, _⟩ := List.lookup_eq_some_iff.1 hfound
  exact h.inner (name, node) (hentries ▸ List.mem_append_right before List.mem_cons_self)

theorem NamesOnce.find?_group (h : entries.NamesOnce) {making : Making}
    (hfound : entries.find? name = some (.group making inner)) : inner.NamesOnce :=
  namesOnce_iff.2 (h.find? hfound)

/-- Groups in a row have their names once exactly if each of them does. -/
theorem namesOnce_groups_iff : (Node.groups elements).tree.NamesOnce ↔ ∀ inner ∈ elements, NamesOnce inner := by
  rw [Node.tree, Tree.namesOnce_list, elementsTrees_eq, List.forall_mem_map]
  exact forall₂_congr fun _ _ => namesOnce_iff.symm

theorem NamesOnce.find?_groups (h : entries.NamesOnce) (hfound : entries.find? name = some (.groups elements)) :
    ∀ inner ∈ elements, NamesOnce inner :=
  namesOnce_groups_iff.1 (h.find? hfound)

/-- The newest of groups in a row, or a group without names where there is none. -/
theorem NamesOnce.newest (h : ∀ inner ∈ elements, NamesOnce inner) : NamesOnce (elements.getLast?.getD []) := by
  cases hlast : elements.getLast? with
  | none => exact NamesOnce.nil
  | some newest => exact h newest (List.mem_of_getLast? hlast)

/-- Groups in a row with another one at the end. -/
theorem NamesOnce.append (h : ∀ inner ∈ elements, NamesOnce inner) (hinner : NamesOnce inner) :
    (Node.groups (elements ++ [inner])).tree.NamesOnce := by
  rw [namesOnce_groups_iff]
  intro element helement
  rcases List.mem_append.1 helement with hold | hnew
  · exact h element hold
  · exact List.mem_singleton.1 hnew ▸ hinner

/-- Something is put under a name: what stood there goes, and all else stays. -/
theorem mem_put {e : String × Node} (h : e ∈ put name node entries) : e = (name, node) ∨ e ∈ entries := by
  induction entries with
  | nil => exact Or.inl (List.mem_singleton.1 h)
  | cons first rest ih =>
    rw [put] at h
    split at h
    · next hname =>
      rcases List.mem_cons.1 h with hfirst | hrest
      · exact Or.inl (by rw [hfirst, hname])
      · exact Or.inr (List.mem_cons_of_mem _ hrest)
    · rcases List.mem_cons.1 h with hfirst | hrest
      · exact Or.inr (hfirst ▸ List.mem_cons_self)
      · exact (ih hrest).imp_right (List.mem_cons_of_mem _)

/-- A group keeps its names once when something is put under one. -/
theorem NamesOnce.put (h : entries.NamesOnce) (hnode : node.tree.NamesOnce) : (put name node entries).NamesOnce := by
  refine ⟨?_, fun e he => ?_⟩
  · obtain ⟨once, -⟩ := h
    induction entries with
    | nil => exact List.pairwise_singleton _ _
    | cons first rest ih =>
      rw [Entries.put]
      rw [List.map_cons, List.nodup_cons] at once
      split
      · exact List.nodup_cons.2 once
      · next hname =>
        refine List.nodup_cons.2 ⟨fun hmem => ?_, ih once.2⟩
        obtain ⟨e, he, hsame⟩ := List.mem_map.1 hmem
        rcases mem_put he with rfl | hrest
        · exact hname hsame.symm
        · exact once.1 (List.mem_map.2 ⟨e, hrest, hsame⟩)
  · rcases mem_put he with rfl | hold
    · exact hnode
    · exact h.inner e hold

/-- A group keeps its names once when a group is put under one that has. -/
theorem NamesOnce.putGroup (h : entries.NamesOnce) (hinner : NamesOnce inner) (making : Making) :
    (Entries.put name (.group making inner) entries).NamesOnce :=
  h.put (namesOnce_iff.1 hinner)

/-- A group keeps its names once when the newest of groups in a row is put in the place of another. -/
theorem NamesOnce.putNewest (h : entries.NamesOnce) (hfound : entries.find? name = some (.groups elements))
    (hinner : NamesOnce inner) : (Entries.put name (.groups (elements.dropLast ++ [inner])) entries).NamesOnce :=
  h.put (NamesOnce.append (fun element helement => h.find?_groups hfound element (List.dropLast_subset _ helement)) hinner)

/-! ## What a line does -/

/-- A step that a line takes in a group keeps its names once. -/
def KeepsNames (f : Entries → Option Entries) : Prop :=
  ∀ entries after, f entries = some after → entries.NamesOnce → after.NamesOnce

/-- What keeps the names of one group once, keeps those of all when it is done in a group at a path. -/
theorem KeepsNames.change {f : Entries → Option Entries} (hf : KeepsNames f) (path : List String) :
    KeepsNames (Entries.change f path) := by
  -- along the path; each group on the way is put back under the name where it was found
  induction path with
  | nil => exact hf
  | cons name path ih =>
    intro entries after h hentries
    rw [Entries.change] at h
    split at h
    · obtain ⟨inner, hinner, rfl⟩ := Option.map_eq_some_iff.1 h
      exact hentries.putGroup (ih _ _ hinner .nil) _
    · next hfound =>
      obtain ⟨inner, hinner, rfl⟩ := Option.map_eq_some_iff.1 h
      exact hentries.putGroup (ih _ _ hinner (hentries.find?_group hfound)) _
    · next hfound =>
      obtain ⟨inner, hinner, rfl⟩ := Option.map_eq_some_iff.1 h
      exact hentries.putNewest hfound (ih _ _ hinner (.newest (hentries.find?_groups hfound)))
    · cases h

/-- A header keeps names once. -/
theorem keepsNames_openGroup (name : String) : KeepsNames (openGroup name) := by
  intro entries after h hentries
  rw [openGroup] at h
  split at h
  · cases h
    exact hentries.putGroup .nil _
  · next hfound =>
    cases h
    exact hentries.putGroup (hentries.find?_group hfound) _
  · cases h

/-- A header of groups in a row keeps names once. -/
theorem keepsNames_openNext (name : String) : KeepsNames (openNext name) := by
  intro entries after h hentries
  rw [openNext] at h
  split at h
  · cases h
    exact hentries.put (namesOnce_groups_iff.2 fun inner hinner => List.mem_singleton.1 hinner ▸ .nil)
  · next hfound =>
    cases h
    exact hentries.put (NamesOnce.append (hentries.find?_groups hfound) .nil)
  · cases h

/-- A value under a name with dots keeps names once. -/
theorem keepsNames_give {value : Tree} (hvalue : value.NamesOnce) (making : Making) (path : List String) :
    KeepsNames (give making value path) := by
  induction path generalizing making with
  | nil => exact nofun
  | cons name path ih =>
    intro entries after h hentries
    cases path with
    | nil =>
      rw [give] at h
      split at h
      · cases h
      · split at h
        · cases h
          exact hentries.put hvalue
        · cases h
    | cons part path =>
      rw [give] at h
      · split at h
        · obtain ⟨inner, hinner, rfl⟩ := Option.map_eq_some_iff.1 h
          exact hentries.putGroup (ih _ _ _ hinner .nil) _
        · cases h
        · next hfound =>
          obtain ⟨inner, hinner, rfl⟩ := Option.map_eq_some_iff.1 h
          exact hentries.putGroup (ih _ _ _ hinner (hentries.find?_group hfound)) _
        · next hfound =>
          split at h
          · cases h
          · obtain ⟨inner, hinner, rfl⟩ := Option.map_eq_some_iff.1 h
            exact hentries.putNewest hfound (ih _ _ _ hinner (.newest (hentries.find?_groups hfound)))
        · cases h
      · exact nofun

end Entries

/-! ## Values -/

/-- A whole number has nothing inside. -/
theorem depth_word64? {n : Int} {t : Tree} (h : word64? n = some t) : t.depth = 0 := by
  unfold word64? at h
  split at h
  · cases h
    rfl
  · cases h

/-- A number in another base has nothing inside. -/
theorem depth_basedNumber? {base : Nat} {isDigit : Char → Bool} {cs rest : List Char} {t : Tree}
    (h : basedNumber? base isDigit cs = some (t, rest)) : t.depth = 0 := by
  simp only [basedNumber?, Option.bind_eq_bind, Option.pure_def] at h
  split at h
  · cases h
  · obtain ⟨number, hnumber, hread⟩ := Option.bind_eq_some_iff.1 h
    cases hread
    exact depth_word64? hnumber

/-- A decimal number has nothing inside. -/
theorem depth_decimalNumber? {negative : Bool} {cs rest : List Char} {t : Tree}
    (h : decimalNumber? negative cs = some (t, rest)) : t.depth = 0 := by
  simp only [decimalNumber?, Option.bind_eq_bind, Option.pure_def] at h
  split at h
  · cases h
  · obtain ⟨⟨fraction, later⟩, -, h⟩ := Option.bind_eq_some_iff.1 h
    obtain ⟨⟨exponent, latest⟩, -, h⟩ := Option.bind_eq_some_iff.1 h
    dsimp only at h
    split at h
    · obtain ⟨number, hnumber, hread⟩ := Option.bind_eq_some_iff.1 h
      cases hread
      exact depth_word64? hnumber
    · split at h
      · cases h
      · cases h
        rfl

/-- A number has nothing inside. -/
theorem depth_number? {cs rest : List Char} {t : Tree} (h : number? cs = some (t, rest)) : t.depth = 0 := by
  unfold number? at h
  split at h
  · exact depth_basedNumber? h
  · exact depth_basedNumber? h
  · exact depth_basedNumber? h
  · dsimp only at h
    split at h
    · cases h
      rfl
    · cases h
      rfl
    · exact depth_decimalNumber? h

/-- A time has nothing inside. -/
theorem depth_time? {cs rest : List Char} {t : Tree} (h : time? cs = some (t, rest)) : t.depth = 0 := by
  have hforeign : ∀ {found : Option (List Char)}, (found.map fun rest => (Tree.foreign, rest)) = some (t, rest) →
      t.depth = 0 := by
    intro found h
    obtain ⟨_, _, hread⟩ := Option.map_eq_some_iff.1 h
    cases hread
    rfl
  unfold time? at h
  split at h
  · split at h
    · split at h
      · exact hforeign h
      · cases h
        rfl
    · cases h
      rfl
  · exact hforeign h

/-- What is read has its names once: values, the values of a list, and the members of a group that had them once before. -/
structure ValuesOnce (fuel : Nat) : Prop where
  value : ∀ cs t rest, value? fuel cs = some (t, rest) → t.NamesOnce
  items : ∀ cs items rest, items? fuel cs = some (items, rest) → ∀ t ∈ items, t.NamesOnce
  members : ∀ entries cs after rest, members? fuel entries cs = some (after, rest) → entries.NamesOnce → after.NamesOnce

/-- With one part more the values have their names once. -/
theorem ValuesOnce.value_succ {fuel : Nat} (h : ValuesOnce fuel) {cs rest : List Char} {t : Tree}
    (hread : value? (fuel + 1) cs = some (t, rest)) : t.NamesOnce := by
  unfold value? at hread
  split at hread
  · obtain ⟨⟨items, later⟩, hitems, heq⟩ := Option.map_eq_some_iff.1 hread
    cases heq
    exact .list (h.items _ _ _ hitems)
  · split at hread
    · cases hread
      exact .fields List.nodup_nil nofun
    · obtain ⟨⟨entries, later⟩, hmembers, heq⟩ := Option.map_eq_some_iff.1 hread
      cases heq
      exact Entries.namesOnce_iff.1 (h.members _ _ _ _ hmembers .nil)
  · cases hread
    exact .plain rfl
  · cases hread
    exact .plain rfl
  · obtain ⟨_, _, heq⟩ := Option.map_eq_some_iff.1 hread
    cases heq
    exact .plain rfl
  · obtain ⟨_, _, heq⟩ := Option.map_eq_some_iff.1 hread
    cases heq
    exact .plain rfl
  · rcases Option.or_eq_some_iff.1 hread with htime | ⟨_, hnumber⟩
    · exact .plain (depth_time? htime)
    · exact .plain (depth_number? hnumber)

/-- With one part more the values of a list have their names once. -/
theorem ValuesOnce.items_succ {fuel : Nat} (h : ValuesOnce fuel) {cs rest : List Char} {items : List Tree}
    (hread : items? (fuel + 1) cs = some (items, rest)) : ∀ t ∈ items, t.NamesOnce := by
  simp only [items?, Option.bind_eq_bind, Option.pure_def] at hread
  obtain ⟨first, -, hread⟩ := Option.bind_eq_some_iff.1 hread
  split at hread
  · cases hread
    exact nofun
  · obtain ⟨⟨item, behind⟩, hitem, hread⟩ := Option.bind_eq_some_iff.1 hread
    obtain ⟨later, -, hread⟩ := Option.bind_eq_some_iff.1 hread
    have hfirst := h.value _ _ _ hitem
    dsimp only at hread
    split at hread
    · obtain ⟨⟨more, latest⟩, hmore, heq⟩ := Option.bind_eq_some_iff.1 hread
      cases heq
      exact List.forall_mem_cons.2 ⟨hfirst, h.items _ _ _ hmore⟩
    · cases hread
      exact List.forall_mem_singleton.2 hfirst
    · cases hread

/-- With one part more the members of a group have their names once. -/
theorem ValuesOnce.members_succ {fuel : Nat} (h : ValuesOnce fuel) {entries after : Entries} {cs rest : List Char}
    (hread : members? (fuel + 1) entries cs = some (after, rest)) (hentries : entries.NamesOnce) : after.NamesOnce := by
  simp only [members?, Option.bind_eq_bind, Option.pure_def] at hread
  obtain ⟨⟨name, behind⟩, -, hread⟩ := Option.bind_eq_some_iff.1 hread
  dsimp only at hread
  split at hread
  · obtain ⟨⟨value, later⟩, hvalue, hread⟩ := Option.bind_eq_some_iff.1 hread
    obtain ⟨given, hgiven, hread⟩ := Option.bind_eq_some_iff.1 hread
    have hgivenOnce := Entries.keepsNames_give (h.value _ _ _ hvalue) _ _ _ _ hgiven hentries
    dsimp only at hread
    split at hread
    · exact h.members _ _ _ _ hread hgivenOnce
    · cases hread
      exact hgivenOnce
    · cases hread
  · cases hread

/-- All values have their names once. -/
theorem valuesOnce (fuel : Nat) : ValuesOnce fuel := by
  induction fuel with
  | zero => exact ⟨nofun, nofun, nofun⟩
  | succ fuel ih => exact ⟨fun _ _ _ => ih.value_succ, fun _ _ _ => ih.items_succ, fun _ _ _ _ => ih.members_succ⟩

/-! ## Documents -/

/-- A line keeps names once. -/
theorem line?_namesOnce {p p' : Progress} {cs rest : List Char} (h : line? p cs = some (p', rest))
    (hp : p.entries.NamesOnce) : p'.entries.NamesOnce := by
  unfold line? at h
  simp only [Option.bind_eq_bind, Option.pure_def] at h
  split at h
  · obtain ⟨⟨name, behind⟩, -, h⟩ := Option.bind_eq_some_iff.1 h
    obtain ⟨later, -, h⟩ := Option.bind_eq_some_iff.1 h
    obtain ⟨entries, hentries, h⟩ := Option.bind_eq_some_iff.1 h
    cases h
    exact (Entries.keepsNames_openNext _).change _ _ _ hentries hp
  · obtain ⟨⟨name, behind⟩, -, h⟩ := Option.bind_eq_some_iff.1 h
    obtain ⟨entries, hentries, h⟩ := Option.bind_eq_some_iff.1 h
    cases h
    exact (Entries.keepsNames_openGroup _).change _ _ _ hentries hp
  · obtain ⟨⟨name, behind⟩, -, h⟩ := Option.bind_eq_some_iff.1 h
    dsimp only at h
    split at h
    · obtain ⟨⟨value, later⟩, hvalue, h⟩ := Option.bind_eq_some_iff.1 h
      obtain ⟨entries, hentries, h⟩ := Option.bind_eq_some_iff.1 h
      cases h
      exact (Entries.keepsNames_give ((valuesOnce _).value _ _ _ hvalue) _ _).change _ _ _ hentries hp
    · cases h

/-- The lines of a document keep names once. -/
theorem lines?_namesOnce {fuel : Nat} {p : Progress} {cs : List Char} {entries : Entries}
    (h : lines? fuel p cs = some entries) (hp : p.entries.NamesOnce) : entries.NamesOnce := by
  induction fuel generalizing p cs with
  | zero => cases h
  | succ fuel ih =>
    rw [lines?] at h
    split at h
    · cases h
      exact hp
    · split at h
      · split at h
        · exact ih h hp
        · cases h
      · split at h
        · cases h
        · next hline =>
          split at h
          · exact ih h (line?_namesOnce hline hp)
          · cases h

/-- In a document every name of a group stands once. -/
theorem read?_namesOnce {s : String} {t : Tree} (h : read? s = some t) : t.NamesOnce := by
  obtain ⟨entries, hentries, rfl⟩ := Option.map_eq_some_iff.1 h
  exact Entries.namesOnce_iff.1 (lines?_namesOnce hentries .nil)

end Toml

end SpendLedger
