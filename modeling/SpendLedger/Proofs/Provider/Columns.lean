import Mathlib.Data.Fin.VecNotation
import Mathlib.Data.Fintype.Basic
import Mathlib.Data.List.OfFn
import Mathlib.Logic.Equiv.Defs
import SpendLedger.Provider.Azure

/-!
# Columns by name

A reply of Azure with a cell for every column in each row is a table. Where no two columns have names for the same part of a
record, the cell of that part is found wherever its column stands: the order of the columns and the columns of other names do
not matter, and each row with a cost that can be read is one record.
-/

namespace SpendLedger

/-- What is read from some values stands to those that can be read, one for each and in their order. -/
theorem forall₂_filterMap {α β : Type} {f : α → Option β} {p : α → Bool} {R : α → β → Prop}
    (hp : ∀ x, (f x).isSome = p x) (hR : ∀ x y, f x = some y → R x y) (xs : List α) :
    List.Forall₂ R (xs.filter p) (xs.filterMap f) := by
  induction xs with
  | nil => exact .nil
  | cons x xs ih =>
    have hx := hp x
    cases hread : f x with
    | none =>
      rw [hread, Option.isSome_none] at hx
      rwa [List.filter_cons_of_neg (by rw [← hx]; decide), List.filterMap_cons_none hread]
    | some y =>
      rw [hread, Option.isSome_some] at hx
      rw [List.filter_cons_of_pos hx.symm, List.filterMap_cons_some hread]
      exact .cons (hR x y hread) ih

namespace Provider

namespace Azure

/-! ## Tables -/

/-- The name of a column; a column without a name has the empty one. -/
def columnName (column : Tree) : String :=
  ((column.get? "name").bind Tree.text?).getD ""

/-- What the rows of an answer are read from; an answer without it is read like one where it is empty. -/
def properties (body : Tree) : Tree :=
  (body.get? "properties").getD .null

/-- What is told of the columns. -/
def columnTrees (properties : Tree) : List Tree :=
  ((properties.get? "columns").bind Tree.items?).getD []

/-- How many columns an answer has. -/
def width (body : Tree) : Nat :=
  (columnTrees (properties body)).length

/-- Columns, and rows with a cell for every column. -/
structure CostTable (n : Nat) where
  columns : Fin n → Tree
  rows : List (Fin n → Tree)

namespace CostTable

variable {n m : Nat} {t : CostTable n} {cells : Fin n → Tree} {role : Role} {body : Tree}

/-- What a column holds, by its name. -/
def role? (t : CostTable n) (i : Fin n) : Option Role :=
  roleOf? (columnName (t.columns i))

/-- The names of the columns. -/
def names (t : CostTable n) : List String :=
  List.ofFn (columnName ∘ t.columns)

/-- A row as it stands in an answer. -/
def rowTree (cells : Fin n → Tree) : Tree :=
  .list (List.ofFn cells)

/-- An answer holds the table. -/
structure IsIn (t : CostTable n) (body : Tree) : Prop where
  columns : columnTrees (properties body) = List.ofFn t.columns
  rows : tableRows (properties body) = t.rows.map rowTree

/-- No two columns hold the same. -/
def NamesOnce (t : CostTable n) : Prop :=
  ∀ i j, (t.role? i).isSome = true → t.role? i = t.role? j → i = j

instance : Decidable t.NamesOnce :=
  inferInstanceAs (Decidable (∀ i j, (t.role? i).isSome = true → t.role? i = t.role? j → i = j))

/-- The table with some of its columns, in another order. -/
def along (t : CostTable n) (f : Fin m → Fin n) : CostTable m where
  columns := t.columns ∘ f
  rows := t.rows.map (· ∘ f)

/-- The columns of an answer, and as many values of each row. -/
def ofBody (body : Tree) : CostTable (width body) where
  columns := (columnTrees (properties body)).get
  rows := (tableRows (properties body)).map fun row i => (row.item? i).getD .null

/-- An answer holds a table if each of its rows is a list with as many values as there are columns. -/
theorem ofBody_isIn (h : ∀ row ∈ tableRows (properties body), row.items?.map List.length = some (width body)) :
    (ofBody body).IsIn body where
  columns := (List.ofFn_get _).symm
  rows := by
    refine (List.map_id _).symm.trans ?_
    rw [ofBody, List.map_map]
    refine List.map_congr_left fun row hrow => ?_
    obtain ⟨cells, hcells, hlength⟩ := Option.map_eq_some_iff.1 (h row hrow)
    cases row <;> cases hcells
    refine congrArg Tree.list (List.ext_getElem (by rw [hlength, List.length_ofFn]) fun i hi _ => ?_)
    rw [List.getElem_ofFn]
    exact (congrArg (Option.getD · .null) (List.getElem?_eq_getElem hi)).symm

/-! ## Cells -/

/-- A value stands in the column of a row that holds something. -/
def Shows (t : CostTable n) (cells : Fin n → Tree) (role : Role) (value : Tree) : Prop :=
  ∃ i, t.role? i = some role ∧ cells i = value

/-- A column that is found holds what is looked for. -/
theorem role?_of_column? {k : Nat} (h : column? t.names role = some k) : ∃ i : Fin n, i.val = k ∧ t.role? i = some role := by
  unfold column? at h
  obtain ⟨⟨name, i⟩, hlast, rfl⟩ := Option.map_eq_some_iff.1 h
  obtain ⟨hmem, hrole⟩ := List.mem_filter.1 (List.mem_of_getLast? hlast)
  have hname : t.names[i]? = some name := List.mem_zipIdx_iff_getElem?.1 hmem
  rw [names, List.getElem?_ofFn] at hname
  split at hname
  next hi =>
    have hcolumn : columnName (t.columns ⟨i, hi⟩) = name := Option.some.inj hname
    refine ⟨⟨i, hi⟩, rfl, ?_⟩
    rw [role?, hcolumn]
    exact of_decide_eq_true hrole
  next => cases hname

/-- If a column holds something, one is found for it. -/
theorem column?_isSome {i : Fin n} (h : t.role? i = some role) : (column? t.names role).isSome = true := by
  have hname : t.names[i.val]? = some (columnName (t.columns i)) := by
    rw [names, List.getElem?_ofFn, dif_pos i.isLt]
    rfl
  have hmem : (columnName (t.columns i), i.val) ∈ t.names.zipIdx.filter fun c => roleOf? c.1 = some role :=
    List.mem_filter.2 ⟨List.mem_zipIdx_iff_getElem?.2 hname, decide_eq_true h⟩
  rw [column?, Option.isSome_map, Option.isSome_iff_ne_none, Ne, List.getLast?_eq_none_iff]
  exact List.ne_nil_of_mem hmem

/-- If no two columns hold the same, the cell that is found for something is the one in its column. -/
theorem cell?_eq_some_iff (honce : t.NamesOnce) {value : Tree} :
    cell? t.names (rowTree cells) role = some value ↔ t.Shows cells role value := by
  have hitem : ∀ i : Fin n, (rowTree cells).item? i = some (cells i) := fun i => by
    rw [rowTree, Tree.item?, List.getElem?_ofFn, dif_pos i.isLt]
  unfold cell?
  constructor
  · intro h
    obtain ⟨_, hcolumn, hvalue⟩ := Option.bind_eq_some_iff.1 h
    obtain ⟨i, rfl, hrole⟩ := role?_of_column? hcolumn
    exact ⟨i, hrole, Option.some.inj ((hitem i).symm.trans hvalue)⟩
  · rintro ⟨i, hrole, rfl⟩
    -- the column that is found is the last one that holds it, which is this one only because no other holds the same
    obtain ⟨_, hcolumn⟩ := Option.isSome_iff_exists.1 (column?_isSome hrole)
    obtain ⟨j, rfl, hfound⟩ := role?_of_column? hcolumn
    rw [hcolumn, Option.bind_some, honce i j (by rw [hrole]; rfl) (hrole.trans hfound.symm), hitem]

/-- Where the columns that hold something are kept, a row shows the same. -/
theorem shows_along {f : Fin m → Fin n} (hkept : ∀ i, (t.role? i).isSome = true → ∃ j, f j = i) {value : Tree} :
    (t.along f).Shows (cells ∘ f) role value ↔ t.Shows cells role value := by
  constructor
  · rintro ⟨j, hrole, hvalue⟩
    exact ⟨f j, hrole, hvalue⟩
  · rintro ⟨i, hrole, hvalue⟩
    obtain ⟨j, rfl⟩ := hkept i (by rw [hrole]; rfl)
    exact ⟨j, hrole, hvalue⟩

/-- If no two columns hold the same, no two of some of them do. -/
theorem NamesOnce.along (honce : t.NamesOnce) {f : Fin m → Fin n} (hf : f.Injective) : (t.along f).NamesOnce :=
  fun i j hrole hsame => hf (honce (f i) (f j) hrole hsame)

/-! ## Records -/

/-- A row is read from its cells. -/
theorem usageRow?_congr {names names' : List String} {row row' : Tree}
    (h : ∀ role, cell? names row role = cell? names' row' role) (fallback : Date) :
    usageRow? names fallback row = usageRow? names' fallback row' := by
  simp only [usageRow?, amountOf?, cellText?, h]

/-- The rows of an answer are read from the rows of its table. -/
theorem IsIn.rowsOf_eq (h : t.IsIn body) (fallback : Date) :
    rowsOf body fallback = t.rows.filterMap fun cells => usageRow? t.names fallback (rowTree cells) := by
  have hnames : columnNames (properties body) = t.names := by
    rw [names, ← List.map_ofFn, ← h.columns]
    rfl
  have hrows : rowsOf body fallback =
      (tableRows (properties body)).filterMap (usageRow? (columnNames (properties body)) fallback) := by
    unfold rowsOf properties
    cases body.get? "properties" <;> rfl
  rw [hrows, hnames, h.rows, List.filterMap_map]
  rfl

/-- If no two columns hold the same, an answer with some of the columns in another order is read into the same rows, if all
columns that hold something are among them. -/
theorem IsIn.rowsOf_along (h : t.IsIn body) (honce : t.NamesOnce) {f : Fin m → Fin n} (hf : f.Injective)
    (hkept : ∀ i, (t.role? i).isSome = true → ∃ j, f j = i) {body' : Tree} (h' : (t.along f).IsIn body')
    (fallback : Date) : rowsOf body' fallback = rowsOf body fallback := by
  rw [h.rowsOf_eq, h'.rowsOf_eq, along, List.filterMap_map]
  refine List.filterMap_congr fun cells _ => usageRow?_congr (fun role => Option.ext fun value => ?_) fallback
  exact (cell?_eq_some_iff (honce.along hf)).trans ((shows_along hkept).trans (cell?_eq_some_iff honce).symm)

/-- A row has a cost that can be read. -/
def HasCost (t : CostTable n) (cells : Fin n → Tree) : Prop :=
  ∃ i, t.role? i = some .cost ∧ (amount? (cells i)).isSome = true

instance : DecidablePred t.HasCost :=
  fun cells => inferInstanceAs (Decidable (∃ i, t.role? i = some .cost ∧ (amount? (cells i)).isSome = true))

/-- A text stands in the column of a row that holds something. -/
def ShowsText (t : CostTable n) (cells : Fin n → Tree) (role : Role) (s : String) : Prop :=
  ∃ value, t.Shows cells role value ∧ value.text? = some s

/-- A value is one that is found, or the usual one where none is. -/
def IsFoundOr {α : Type} (found : α → Prop) (usual value : α) : Prop :=
  found value ∨ (∀ x, ¬ found x) ∧ value = usual

/-- What a row says of each part of its record, and what is filled in. -/
structure IsReadAs (t : CostTable n) (fallback : Date) (cells : Fin n → Tree) (row : UsageRow) : Prop where
  cost : ∃ value, t.Shows cells .cost value ∧ amount? value = some row.cost
  service : IsFoundOr (fun s => t.ShowsText cells .service s ∧ s ≠ "") "Unknown" row.service
  group : ∀ s, row.group = some s ↔ t.ShowsText cells .group s ∧ s ≠ ""
  currency : IsFoundOr (t.ShowsText cells .currency) "USD" row.currency
  date : IsFoundOr (fun d => ∃ value, t.Shows cells .date value ∧ usageDate? value = some d) fallback row.date

/-- What may be there, or the usual value, is what is found, or the usual value. -/
theorem isFoundOr_getD {α : Type} {found : α → Prop} {o : Option α} (h : ∀ x, o = some x ↔ found x) (usual : α) :
    IsFoundOr found usual (o.getD usual) := by
  cases o with
  | none => exact .inr ⟨fun x hx => (by cases (h x).2 hx), rfl⟩
  | some x => exact .inl ((h x).1 rfl)

/-- What is made of the cell that is found for something is made of the one in its column. -/
theorem cell?_bind_eq_some_iff (honce : t.NamesOnce) {α : Type} {read : Tree → Option α} {x : α} :
    (cell? t.names (rowTree cells) role).bind read = some x ↔ ∃ value, t.Shows cells role value ∧ read value = some x := by
  rw [Option.bind_eq_some_iff]
  exact exists_congr fun value => and_congr_left fun _ => cell?_eq_some_iff honce

/-- The text that is found for something is the one in its column. -/
theorem cellText?_filter_eq_some_iff (honce : t.NamesOnce) {s : String} :
    (cellText? t.names (rowTree cells) role).filter (· ≠ "") = some s ↔ t.ShowsText cells role s ∧ s ≠ "" := by
  rw [Option.filter_eq_some_iff]
  exact and_congr (cell?_bind_eq_some_iff honce) decide_eq_true_iff

/-- A row is read as a record with what its cells say, whatever comes of the other rows. -/
theorem usageRow?_isReadAs (honce : t.NamesOnce) {fallback : Date} {row : UsageRow}
    (h : usageRow? t.names fallback (rowTree cells) = some row) : t.IsReadAs fallback cells row := by
  obtain ⟨cost, hcost, hrow⟩ := Option.bind_eq_some_iff.1 h
  cases hrow
  exact ⟨(cell?_bind_eq_some_iff honce).1 hcost, isFoundOr_getD (fun _ => cellText?_filter_eq_some_iff honce) _,
    fun _ => cellText?_filter_eq_some_iff honce, isFoundOr_getD (fun _ => cell?_bind_eq_some_iff honce) _,
    isFoundOr_getD (fun _ => cell?_bind_eq_some_iff honce) _⟩

/-- A row is read as a record exactly if it has a cost that can be read. -/
theorem usageRow?_isSome (honce : t.NamesOnce) (fallback : Date) :
    (usageRow? t.names fallback (rowTree cells)).isSome = decide (t.HasCost cells) := by
  have hcost : (usageRow? t.names fallback (rowTree cells)).isSome = (amountOf? t.names (rowTree cells)).isSome := by
    unfold usageRow?
    cases amountOf? t.names (rowTree cells) <;> rfl
  rw [hcost, Bool.eq_iff_iff, decide_eq_true_iff, Option.isSome_iff_exists]
  constructor
  · rintro ⟨cost, h⟩
    obtain ⟨_, ⟨i, hrole, rfl⟩, hread⟩ := (cell?_bind_eq_some_iff honce).1 h
    exact ⟨i, hrole, Option.isSome_of_eq_some hread⟩
  · rintro ⟨i, hrole, hread⟩
    obtain ⟨cost, hcost⟩ := Option.isSome_iff_exists.1 hread
    exact ⟨cost, (cell?_bind_eq_some_iff honce).2 ⟨_, ⟨i, hrole, rfl⟩, hcost⟩⟩

/-- If no two columns hold the same, the rows of an answer are one for each row of its table with a cost that can be read. -/
theorem IsIn.forall₂_rowsOf (h : t.IsIn body) (honce : t.NamesOnce) (fallback : Date) :
    List.Forall₂ (t.IsReadAs fallback) (t.rows.filter t.HasCost) (rowsOf body fallback) := by
  rw [h.rowsOf_eq]
  exact forall₂_filterMap (fun _ => usageRow?_isSome honce fallback) (fun _ _ => usageRow?_isReadAs honce) t.rows

/-- The rows of Azure are read by the names of the columns. In an answer whose rows have as many values as there are columns,
and where no two columns hold the same, the columns and with them the values of each row can be in any other order, and columns
that hold nothing can be left out, and it is read into the same rows. These are one for each row with a cost that can be read,
in their order and with what its cells say. -/
theorem rowsOf_by_name (hwide : ∀ row ∈ tableRows (properties body), row.items?.map List.length = some (width body))
    (honce : (ofBody body).NamesOnce) (fallback : Date) :
    (∀ (σ : Equiv.Perm (Fin (width body))) body', ((ofBody body).along σ).IsIn body' →
        rowsOf body' fallback = rowsOf body fallback) ∧
      (∀ {m : Nat} (f : Fin m ↪ Fin (width body)) body', (∀ i, (∀ j, f j ≠ i) → (ofBody body).role? i = none) →
        ((ofBody body).along f).IsIn body' → rowsOf body' fallback = rowsOf body fallback) ∧
      List.Forall₂ ((ofBody body).IsReadAs fallback) ((ofBody body).rows.filter (ofBody body).HasCost)
        (rowsOf body fallback) := by
  have h := ofBody_isIn hwide
  refine ⟨fun σ body' h' => ?_, fun f body' hdropped h' => ?_, h.forall₂_rowsOf honce fallback⟩
  · exact h.rowsOf_along honce σ.injective (fun i _ => ⟨σ.symm i, σ.apply_symm_apply i⟩) h' fallback
  · refine h.rowsOf_along honce f.injective (fun i hrole => ?_) h' fallback
    by_contra hleft
    rw [hdropped i fun j hj => hleft ⟨j, hj⟩] at hrole
    cases hrole

/-- An answer with a table and nothing else. -/
def toBody (t : CostTable n) : Tree :=
  .fields [("properties", .fields [("columns", .list (List.ofFn t.columns)), ("rows", .list (t.rows.map rowTree))])]

/-- An answer made of a table holds it. -/
theorem toBody_isIn (t : CostTable n) : t.IsIn t.toBody where
  columns := rfl
  rows := rfl

/-- A column of a name. -/
def namedColumn (name : String) : Tree :=
  .fields [("name", .text name)]

/-- Services, costs in two rows of which one cannot be read, and a column of a name that says nothing. -/
def costsOfServices : CostTable 3 where
  columns := ![namedColumn "ServiceName", namedColumn "Tags", namedColumn "PreTaxCost"]
  rows := [![.text "Disks", .null, .integer 3], ![.text "Mail", .null, .null]]

/-- Swapping the services with the costs, or leaving out the column that says nothing, changes no record. -/
theorem rowsOf_by_name_services :
    (∀ row ∈ tableRows (properties costsOfServices.toBody),
        row.items?.map List.length = some (width costsOfServices.toBody)) ∧
      (ofBody costsOfServices.toBody).NamesOnce ∧
      rowsOf ((ofBody costsOfServices.toBody).along (Equiv.swap (0 : Fin 3) 2)).toBody Date.min =
        rowsOf costsOfServices.toBody Date.min ∧
      (ofBody costsOfServices.toBody).role? (1 : Fin 3) = none ∧
      rowsOf ((ofBody costsOfServices.toBody).along (Fin.succAbove (1 : Fin 3))).toBody Date.min =
        rowsOf costsOfServices.toBody Date.min ∧
      (rowsOf costsOfServices.toBody Date.min).length = 1 := by
  have hwide : ∀ row ∈ tableRows (properties costsOfServices.toBody),
      row.items?.map List.length = some (width costsOfServices.toBody) := by decide +kernel
  have honce : (ofBody costsOfServices.toBody).NamesOnce := by decide +kernel
  have hnothing : (ofBody costsOfServices.toBody).role? (1 : Fin 3) = none := by decide +kernel
  obtain ⟨hswapped, hwithout, hrecords⟩ := rowsOf_by_name hwide honce Date.min
  refine ⟨hwide, honce, hswapped _ _ (toBody_isIn _), hnothing,
    hwithout (Fin.succAboveEmb (1 : Fin 3)) _ (fun i hi => ?_) (toBody_isIn _),
    hrecords.length_eq.symm.trans (by decide +kernel)⟩
  obtain rfl | ⟨j, rfl⟩ := Fin.eq_self_or_eq_succAbove (1 : Fin 3) i
  · exact hnothing
  · exact absurd rfl (hi j)

end CostTable

end Azure

end Provider

end SpendLedger
