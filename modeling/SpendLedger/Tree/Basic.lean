/-!
# Document trees

What a JSON or TOML document holds once its syntax is out of the way. Both formats are read into the same trees, and the
forms of the ledger's values are read from and written to trees only.
-/

namespace SpendLedger

/-- A value in a document. -/
inductive Tree where
  | null
  | bool (b : Bool)
  | integer (n : Int)
  | real (x : Float)
  | text (s : String)
  | list (items : List Tree)
  /-- Named values, in the order of the document; a name may come twice. -/
  | fields (entries : List (String × Tree))
  /-- A value that is well written but has no place here: a number without bounds, half a character, a time of day. -/
  | foreign

namespace Tree

/-- The value under a name, if the tree has named values and this is one of the names. -/
def get? (key : String) : Tree → Option Tree
  | fields entries => (entries.find? fun entry => entry.1 = key).map Prod.snd
  | _ => none

/-- The value at a position of a list. -/
def item? (i : Nat) : Tree → Option Tree
  | list items => items[i]?
  | _ => none

/-- The first value of a list; of named values, the one whose name is zero. -/
def first? : Tree → Option Tree
  | list items => items[0]?
  | t => t.get? "0"

/-- The values of a list. -/
def items? : Tree → Option (List Tree)
  | list items => some items
  | _ => none

/-- A text. -/
def text? : Tree → Option String
  | text s => some s
  | _ => none

mutual

/-- How many lists and groups of named values stand inside each other. -/
def depth : Tree → Nat
  | list items => depthOfList items + 1
  | fields entries => depthOfFields entries + 1
  | _ => 0

/-- The largest depth in a row of values. -/
def depthOfList : List Tree → Nat
  | [] => 0
  | t :: rest => Nat.max (depth t) (depthOfList rest)

/-- The largest depth among named values. -/
def depthOfFields : List (String × Tree) → Nat
  | [] => 0
  | (_, t) :: rest => Nat.max (depth t) (depthOfFields rest)

end

/-- Named values with the last of each name only, in the place of the first. -/
def keepLast : List (String × Tree) → List (String × Tree)
  | [] => []
  | (key, value) :: rest =>
    let later := keepLast rest
    match later.find? fun entry => entry.1 = key with
    | some (_, last) => (key, last) :: later.filter fun entry => entry.1 ≠ key
    | none => (key, value) :: later

mutual

/-- A tree in which every name stands once, with its last value; nothing if a value has no place here. -/
def settled? : Tree → Option Tree
  | list items => (settledList? items).map list
  | fields entries => (settledFields? entries).map fun entries => fields (keepLast entries)
  | foreign => none
  | t => some t

/-- The values of a row, each settled. -/
def settledList? : List Tree → Option (List Tree)
  | [] => some []
  | t :: rest => do
    let t ← settled? t
    let rest ← settledList? rest
    pure (t :: rest)

/-- Named values, each settled. -/
def settledFields? : List (String × Tree) → Option (List (String × Tree))
  | [] => some []
  | (key, t) :: rest => do
    let t ← settled? t
    let rest ← settledFields? rest
    pure ((key, t) :: rest)

end

end Tree

end SpendLedger
