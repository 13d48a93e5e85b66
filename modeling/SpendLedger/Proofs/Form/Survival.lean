import SpendLedger.Proofs.Form.RoundTrip

/-!
# What survives JSON

A JSON document holds null in the place of a number that is not finite. Where all numbers are finite it holds the whole tree,
so that every value is read back from its JSON document, also with more names in it, at any depth, and with nulls for parts
that are missing.
-/

namespace SpendLedger

open Shape

/-! ## What a JSON document holds -/

namespace Json

mutual

/-- What a JSON document holds of a tree: null for a number that is not finite and for what has no place. -/
def held : Tree → Tree
  | .real x => if x.isFinite then .real x else .null
  | .foreign => .null
  | .list items => .list (heldItems items)
  | .fields entries => .fields (heldEntries entries)
  | .null => .null
  | .bool b => .bool b
  | .integer n => .integer n
  | .text s => .text s

/-- What it holds of values in a row. -/
def heldItems : List Tree → List Tree
  | [] => []
  | t :: rest => held t :: heldItems rest

/-- What it holds of named values. -/
def heldEntries : List (String × Tree) → List (String × Tree)
  | [] => []
  | (key, t) :: rest => (key, held t) :: heldEntries rest

end

mutual

/-- A tree is written as what a JSON document holds of it. -/
theorem prettyAt_held (depth : Nat) (t : Tree) : prettyAt depth (held t) = prettyAt depth t := by
  cases t with
  | real x =>
    rw [held]
    by_cases hx : x.isFinite = true
    · rw [if_pos hx]
    · rw [if_neg hx, prettyAt, prettyAt, numberLiteral, if_neg hx]
  | list items =>
    rw [held]
    cases items with
    | nil => rfl
    | cons t rest =>
      have hitems := prettyItems_held (depth + 1) (t :: rest)
      rw [heldItems] at hitems ⊢
      rw [prettyAt, prettyAt, hitems]
      all_goals exact nofun
  | fields entries =>
    rw [held]
    cases entries with
    | nil => rfl
    | cons e rest =>
      have hentries := prettyEntries_held (depth + 1) (e :: rest)
      rw [heldEntries] at hentries ⊢
      rw [prettyAt, prettyAt, hentries]
      all_goals exact nofun
  | foreign | null | bool | integer | text => rfl

/-- Values in a row are written as what a JSON document holds of them. -/
theorem prettyItems_held (depth : Nat) (items : List Tree) :
    prettyItems depth (heldItems items) = prettyItems depth items := by
  match items with
  | [] => rfl
  | [t] => exact prettyAt_held depth t
  | t :: u :: rest =>
    show prettyAt depth (held t) ++ "," ++ newline depth ++ prettyItems depth (heldItems (u :: rest)) =
      prettyAt depth t ++ "," ++ newline depth ++ prettyItems depth (u :: rest)
    rw [prettyAt_held depth t, prettyItems_held depth (u :: rest)]

/-- Named values are written as what a JSON document holds of them. -/
theorem prettyEntries_held (depth : Nat) (entries : List (String × Tree)) :
    prettyEntries depth (heldEntries entries) = prettyEntries depth entries := by
  match entries with
  | [] => rfl
  | [(key, t)] => exact congrArg (textLiteral key ++ ": " ++ ·) (prettyAt_held depth t)
  | (key, t) :: e :: rest =>
    show textLiteral key ++ ": " ++ prettyAt depth (held t) ++ "," ++ newline depth ++
        prettyEntries depth (heldEntries (e :: rest)) =
      textLiteral key ++ ": " ++ prettyAt depth t ++ "," ++ newline depth ++ prettyEntries depth (e :: rest)
    rw [prettyAt_held depth t, prettyEntries_held depth (e :: rest)]

end

mutual

/-- Whether all numbers of a tree are finite, and nothing in it has no place. -/
def allFinite : Tree → Bool
  | .real x => x.isFinite
  | .foreign => false
  | .list items => allFiniteItems items
  | .fields entries => allFiniteEntries entries
  | _ => true

/-- Whether all numbers of values in a row are finite. -/
def allFiniteItems : List Tree → Bool
  | [] => true
  | t :: rest => allFinite t && allFiniteItems rest

/-- Whether all numbers of named values are finite. -/
def allFiniteEntries : List (String × Tree) → Bool
  | [] => true
  | (_, t) :: rest => allFinite t && allFiniteEntries rest

end

mutual

/-- Where all numbers are finite a JSON document holds the whole tree. -/
theorem held_of_allFinite {t : Tree} (h : allFinite t = true) : held t = t := by
  cases t with
  | real x => exact if_pos h
  | foreign => cases h
  | list items => exact congrArg Tree.list (heldItems_of_allFinite h)
  | fields entries => exact congrArg Tree.fields (heldEntries_of_allFinite h)
  | null | bool | integer | text => rfl

theorem heldItems_of_allFinite {items : List Tree} (h : allFiniteItems items = true) : heldItems items = items := by
  match items with
  | [] => rfl
  | t :: rest =>
    obtain ⟨ht, hrest⟩ := Bool.and_eq_true_iff.1 h
    rw [heldItems, held_of_allFinite ht, heldItems_of_allFinite hrest]

theorem heldEntries_of_allFinite {entries : List (String × Tree)} (h : allFiniteEntries entries = true) :
    heldEntries entries = entries := by
  match entries with
  | [] => rfl
  | (key, t) :: rest =>
    obtain ⟨ht, hrest⟩ := Bool.and_eq_true_iff.1 h
    rw [heldEntries, held_of_allFinite ht, heldEntries_of_allFinite hrest]

end

end Json

/-! ## What survives -/

/-- The values of a type survive JSON: those that fit are read back, and readers take documents that say the same for the
same. -/
structure Survives {β : Type} (shape : Shape) (write : β → Tree) (read : Tree → Option β) (fits : β → Prop) : Prop where
  /-- A value with finite numbers is read back from what a JSON document holds of it, and from all that says the same. -/
  back : ∀ v, fits v → Json.allFinite (write v) = true → ∀ t, Alike shape (Json.held (write v)) t → read t = some v
  alike : ∀ t t', Alike shape t t' → read t' = read t

/-- Values survive that are read back from their own documents by a reader that respects their shape. -/
theorem Survives.of {β : Type} {shape : Shape} {write : β → Tree} {read : Tree → Option β} {fits : β → Prop}
    (hread : ∀ v, fits v → read (write v) = some v) (hshape : Respects shape read) : Survives shape write read fits where
  back v hfits hfinite t halike := by
    rw [Json.held_of_allFinite hfinite] at halike
    rw [hshape.read_eq halike, hread v hfits]
  alike t t' halike := hshape.read_eq halike

/-- What a JSON document holds of a tree is written as the tree is. The values of all ten types survive JSON, whatever texts,
tables and rows they have and whichever of their parts are missing, if their numbers are finite and the number of a record or an
alert fits into 64 bits. More names, at any depth of the document, do not matter, and a part that is missing may as well be
null. -/
theorem values_survive :
    (∀ t, Json.pretty (Json.held t) = Json.pretty t) ∧
    Survives CostRecord.shape CostRecord.toTree CostRecord.ofTree? (fun r => ∀ n ∈ r.id, Word.holdsSigned 64 n = true) ∧
    Survives MonthTotal.shape MonthTotal.toTree MonthTotal.ofTree? (fun _ => True) ∧
    Survives Forecast.shape Forecast.toTree Forecast.ofTree? (fun _ => True) ∧
    Survives TrendAnalysis.shape TrendAnalysis.toTree TrendAnalysis.ofTree? (fun _ => True) ∧
    Survives Summary.shape Summary.toTree Summary.ofTree? (fun _ => True) ∧
    Survives Alert.shape Alert.toTree Alert.ofTree? (fun a => ∀ n ∈ a.id, Word.holdsSigned 64 n = true) ∧
    Survives Report.shape Report.toTree Report.ofTree? (fun _ => True) ∧
    Survives Evaluation.shape Evaluation.toTree Evaluation.ofTree? (fun _ => True) ∧
    Survives ServiceUsage.shape ServiceUsage.toTree ServiceUsage.ofTree? (fun _ => True) ∧
    Survives FreeTier.shape FreeTier.toTree FreeTier.ofTree? (fun _ => True) :=
  ⟨Json.prettyAt_held 0, .of (fun _ => CostRecord.ofTree?_toTree) CostRecord.respects_shape,
    .of (fun m _ => m.ofTree?_toTree) MonthTotal.respects_shape,
    .of (fun f _ => f.ofTree?_toTree) Forecast.respects_shape,
    .of (fun a _ => a.ofTree?_toTree) TrendAnalysis.respects_shape,
    .of (fun s _ => s.ofTree?_toTree) Summary.respects_shape,
    .of (fun _ => Alert.ofTree?_toTree) Alert.respects_shape,
    .of (fun r _ => r.ofTree?_toTree) Report.respects_shape,
    .of (fun e _ => e.ofTree?_toTree) Evaluation.respects_shape,
    .of (fun u _ => u.ofTree?_toTree) ServiceUsage.respects_shape,
    .of (fun f _ => f.ofTree?_toTree) FreeTier.respects_shape⟩

/-- A usage without a limit. -/
def unlimited : ServiceUsage Float := ⟨"Storage", 3, 0, "GB", .unknown, none⟩

/-- What is said of it. -/
def unlimitedEntries : List (String × Tree) :=
  [("service_name", .text "Storage"), ("used", .real 3), ("limit", .real 0), ("unit", .text "GB"),
    ("status", .text "unknown")]

/-- The document that is written for it is read back also with one more name in it, and without the percentage that is null. -/
theorem unlimited_survives : Json.allFinite unlimited.toTree = true ∧
    unlimited.toTree = .fields (unlimitedEntries ++ [("percent_used", .null)]) ∧
    ServiceUsage.ofTree? (.fields (("note", .list [.null]) :: unlimitedEntries)) = some unlimited := by
  have hfinite : Json.allFinite unlimited.toTree = true := by decide +kernel
  have hwritten : unlimited.toTree = .fields (unlimitedEntries ++ [("percent_used", .null)]) := rfl
  -- the null goes to the front and is left out, and the name is added
  have hfront : Alike ServiceUsage.shape unlimited.toTree (.fields (("percent_used", .null) :: unlimitedEntries)) := by
    rw [hwritten]
    exact .rel _ _ (.order (List.perm_append_singleton _ unlimitedEntries))
  have hleft : Alike ServiceUsage.shape (.fields (("percent_used", .null) :: unlimitedEntries)) (.fields unlimitedEntries) :=
    .symm _ _ (.rel _ _ (.null unlimitedEntries rfl (by decide)))
  have hadded : Alike ServiceUsage.shape (.fields unlimitedEntries) (.fields (("note", .list [.null]) :: unlimitedEntries)) :=
    .rel _ _ (.unknown (.list [.null]) unlimitedEntries rfl)
  have halike := Relation.EqvGen.trans _ _ _ hfront (.trans _ _ _ hleft hadded)
  obtain ⟨-, -, -, -, -, -, -, -, -, husage, -⟩ := values_survive
  exact ⟨hfinite, hwritten, husage.back unlimited trivial hfinite _ (by rw [Json.held_of_allFinite hfinite]; exact halike)⟩

end SpendLedger
