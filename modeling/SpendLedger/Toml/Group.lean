import SpendLedger.Tree.Basic

/-!
# Groups of TOML

How the lines of a document fill its groups. A group is opened by a header, implied by the headers of its parts, or
written by names with dots in them; each of its names is given once, and a group is not opened twice.
-/

namespace SpendLedger

namespace Toml

/-- How a group came about. -/
inductive Making where
  /-- By the header of a part of it. -/
  | implied
  /-- By its own header. -/
  | headed
  /-- By a name with dots in it. -/
  | dotted
deriving DecidableEq, Repr

/-- What stands under a name. -/
inductive Node where
  | leaf (value : Tree)
  | group (making : Making) (entries : List (String × Node))
  /-- Groups in a row, the newest last. -/
  | groups (elements : List (List (String × Node)))

/-- The names of a group with what stands under them. -/
abbrev Entries := List (String × Node)

namespace Entries

/-- What stands under a name. -/
def find? (entries : Entries) (name : String) : Option Node :=
  entries.lookup name

/-- Entries with something put under a name, in the place of what stood there. -/
def put (name : String) (node : Node) : Entries → Entries
  | [] => [(name, node)]
  | (n, x) :: rest => if n = name then (n, node) :: rest else (n, x) :: put name node rest

/-- The entries after a change in the group at a path of headers. Groups on the way are implied if they are missing. -/
def change (f : Entries → Option Entries) : List String → Entries → Option Entries
  | [], entries => f entries
  | name :: path, entries =>
    match find? entries name with
    | none => (change f path []).map fun inner => put name (.group .implied inner) entries
    | some (.group making inner) => (change f path inner).map fun inner => put name (.group making inner) entries
    | some (.groups elements) =>
      (change f path (elements.getLast?.getD [])).map fun inner =>
        put name (.groups (elements.dropLast ++ [inner])) entries
    | some (.leaf _) => none

/-- Opens a group by its header. -/
def openGroup (name : String) (entries : Entries) : Option Entries :=
  match find? entries name with
  | none => some (put name (.group .headed []) entries)
  | some (.group .implied inner) => some (put name (.group .headed inner) entries)
  | some _ => none

/-- Opens the next one of groups in a row. -/
def openNext (name : String) (entries : Entries) : Option Entries :=
  match find? entries name with
  | none => some (put name (.groups [[]]) entries)
  | some (.groups elements) => some (put name (.groups (elements ++ [[]])) entries)
  | some _ => none

/-- Puts a value under a name with dots: the parts before the last one are groups that only such names write. -/
def give (making : Making) (value : Tree) : List String → Entries → Option Entries
  | [], _ => none
  | [name], entries =>
    if making = .implied then none
    else match find? entries name with
      | none => some (put name (.leaf value) entries)
      | some _ => none
  | name :: path, entries =>
    match find? entries name with
    | none => (give .dotted value path []).map fun inner => put name (.group .dotted inner) entries
    | some (.group .headed _) => none
    | some (.group inner entries') =>
      (give inner value path entries').map fun entries' => put name (.group inner entries') entries
    | some (.groups elements) =>
      if path.length = 1 then none
      else (give .implied value path (elements.getLast?.getD [])).map fun inner =>
        put name (.groups (elements.dropLast ++ [inner])) entries
    | some (.leaf _) => none

end Entries

mutual

/-- The value that a node stands for. -/
def Node.tree : Node → Tree
  | .leaf value => value
  | .group _ entries => .fields (entriesTrees entries)
  | .groups elements => .list (elementsTrees elements)

/-- The values under the names of a group. -/
def entriesTrees : List (String × Node) → List (String × Tree)
  | [] => []
  | (name, node) :: rest => (name, node.tree) :: entriesTrees rest

/-- The values of groups in a row. -/
def elementsTrees : List (List (String × Node)) → List Tree
  | [] => []
  | entries :: rest => .fields (entriesTrees entries) :: elementsTrees rest

end

end Toml

end SpendLedger
