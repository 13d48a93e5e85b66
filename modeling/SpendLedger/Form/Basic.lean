import SpendLedger.Number.Word
import SpendLedger.Table
import SpendLedger.Tree.Basic

/-!
# Forms of values

How the parts of a value are found in a document. A value with named parts may also be written as a list of its parts in
order. Names that the value does not have are passed over, but none of its own may come twice.
-/

namespace SpendLedger

/-- The parts of a value as a document gives them. -/
structure Parts where
  inOrder : Bool
  given : List (String × Tree)

namespace Parts

/-- The parts with given names. -/
def of? (names : List String) : Tree → Option Parts
  | .fields entries =>
    let own := entries.filter fun e => names.contains e.1
    if own.map Prod.fst |>.Nodup then some ⟨false, own⟩ else none
  | .list items => if items.length ≤ names.length then some ⟨true, names.zip items⟩ else none
  | _ => none

/-- A part that was given. -/
def find? (p : Parts) (name : String) : Option Tree :=
  (p.given.find? fun e => e.1 = name).map Prod.snd

variable {β : Type}

/-- A part that has to be given. -/
def required (p : Parts) (name : String) (read : Tree → Option β) : Option β :=
  (p.find? name).bind read

/-- A part that has a value of its own when it is not given. -/
def orElse (p : Parts) (name : String) (read : Tree → Option β) (usual : β) : Option β :=
  match p.find? name with
  | none => some usual
  | some t => read t

/-- Nothing, or a value. -/
def nullable (read : Tree → Option β) : Tree → Option (Option β)
  | .null => some none
  | t => (read t).map some

/-- A part that may be null, and that may be left out where parts have names. -/
def optional (p : Parts) (name : String) (read : Tree → Option β) : Option (Option β) :=
  match p.find? name with
  | none => if p.inOrder then none else some none
  | some t => nullable read t

end Parts

namespace Tree

/-- A number. -/
def number? : Tree → Option Float
  | integer n => some (Float.ofInt n)
  | real x => some x
  | _ => none

/-- A whole number in 64 bits with a sign. -/
def word64? : Tree → Option Int
  | integer n => if Word.holdsSigned 64 n then some n else none
  | _ => none

/-- A truth value. -/
def bool? : Tree → Option Bool
  | bool b => some b
  | _ => none

/-- Values in a row, each read. -/
def listOf? {β : Type} (read : Tree → Option β) : Tree → Option (List β)
  | list items => items.mapM read
  | _ => none

/-- Values under names, each read; of a name that comes twice the last value counts. -/
def tableOf? {β : Type} (read : Tree → Option β) : Tree → Option (Table β)
  | fields entries => (entries.mapM fun e => (read e.2).map fun v => (e.1, v)).map Table.ofList
  | _ => none

/-- One of a few names, written as a text or as the only name of a group that says no more. -/
def choice? {β : Type} (choices : List (String × β)) : Tree → Option β
  | text s => choices.lookup s
  | fields [(s, null)] => choices.lookup s
  | _ => none

/-- Values under names as a tree. -/
def ofTable {β : Type} (write : β → Tree) (t : Table β) : Tree :=
  fields (t.entries.map fun e => (e.1, write e.2))

/-- Nothing, or a value, as a tree. -/
def ofOption {β : Type} (write : β → Tree) : Option β → Tree
  | none => null
  | some v => write v

/-- A named value that is left out when there is none. -/
def field? {β : Type} (name : String) (write : β → Tree) : Option β → List (String × Tree)
  | none => []
  | some v => [(name, write v)]

end Tree

end SpendLedger
