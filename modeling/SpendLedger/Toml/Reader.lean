import SpendLedger.Toml.Group
import SpendLedger.Toml.Literal

/-!
# Reading TOML

A document is read line by line: values under names, headers of groups, comments.
-/

namespace SpendLedger

namespace Toml

/-! ## Names -/

/-- Whether a character may stand in a name without quotes. -/
def isBare (c : Char) : Bool :=
  c.isAlphanum || c == '_' || c == '-'

/-- One part of a name. -/
def namePart? (cs : List Char) : Option (String × List Char) :=
  match cs with
  | '"' :: rest => (basicText (rest.length + 1) rest).map fun (s, rest) => (String.ofList s, rest)
  | '\'' :: rest => (literalText rest).map fun (s, rest) => (String.ofList s, rest)
  | cs =>
    let part := cs.takeWhile isBare
    if part.isEmpty then none else some (String.ofList part, cs.dropWhile isBare)

/-- A name: its parts with dots between them. -/
def name? : Nat → List Char → Option (List String × List Char)
  | 0, _ => none
  | fuel + 1, cs => do
    let (part, rest) ← namePart? cs
    match skip rest with
    | '.' :: rest => do
      let (parts, rest) ← name? fuel (skip rest)
      pure (part :: parts, rest)
    | rest => pure ([part], rest)

/-! ## Values -/

/-- What follows a comment, if one stands there. -/
def afterComment? : List Char → Option (List Char)
  | '#' :: rest =>
    let rest := rest.dropWhile isPrintable
    if rest.isEmpty || (afterBreak? rest).isSome then some rest else none
  | rest => some rest

/-- The characters from the next part of a list on, across comments and line breaks. -/
def skipInList : Nat → List Char → Option (List Char)
  | 0, _ => none
  | fuel + 1, cs => do
    let rest ← afterComment? (skip cs)
    match afterBreak? rest with
    | some rest => skipInList fuel rest
    | none => pure rest

mutual

/-- A value at the front; `fuel` bounds the parts that are read. -/
def value? : Nat → List Char → Option (Tree × List Char)
  | 0, _ => none
  | fuel + 1, cs =>
    match cs with
    | '[' :: rest => (items? fuel rest).map fun (items, rest) => (.list items, rest)
    | '{' :: rest =>
      match skip rest with
      | '}' :: rest => some (.fields [], rest)
      | rest => (members? fuel [] rest).map fun (entries, rest) => (.fields (entriesTrees entries), rest)
    | 't' :: 'r' :: 'u' :: 'e' :: rest => some (.bool true, rest)
    | 'f' :: 'a' :: 'l' :: 's' :: 'e' :: rest => some (.bool false, rest)
    | '"' :: _ | '\'' :: _ => (readText? cs).map fun (s, rest) => (.text (String.ofList s), rest)
    | cs => (time? cs).or (number? cs)

/-- The values of a list up to its closing bracket; a comma may follow the last one. -/
def items? : Nat → List Char → Option (List Tree × List Char)
  | 0, _ => none
  | fuel + 1, cs => do
    let rest ← skipInList (cs.length + 1) cs
    match rest with
    | ']' :: rest => pure ([], rest)
    | rest => do
      let (item, rest) ← value? fuel rest
      let rest ← skipInList (rest.length + 1) rest
      match rest with
      | ',' :: rest => do
        let (items, rest) ← items? fuel rest
        pure (item :: items, rest)
      | ']' :: rest => pure ([item], rest)
      | _ => none

/-- The values of a group in braces, up to its closing brace. -/
def members? : Nat → Entries → List Char → Option (Entries × List Char)
  | 0, _, _ => none
  | fuel + 1, entries, cs => do
    let cs := skip cs
    let (name, rest) ← name? (cs.length + 1) cs
    match rest with
    | '=' :: rest => do
      let (value, rest) ← value? fuel (skip rest)
      let entries ← entries.give .headed value name
      match skip rest with
      | ',' :: rest => members? fuel entries rest
      | '}' :: rest => pure (entries, rest)
      | _ => none
    | _ => none

end

/-! ## Lines -/

/-- A document on its way. -/
structure Progress where
  entries : Entries
  path : List String

/-- What follows the end of a line. -/
def endLine? (cs : List Char) : Option (List Char) := do
  let rest ← afterComment? (skip cs)
  match rest with
  | [] => pure []
  | rest => afterBreak? rest

/-- A header behind its opening bracket: its name, and what follows its closing bracket. -/
def header? (cs : List Char) : Option (List String × List Char) := do
  let cs := skip cs
  let (name, rest) ← name? (cs.length + 1) cs
  match rest with
  | ']' :: rest => pure (name, rest)
  | _ => none

/-- One line, without what ends it. -/
def line? (p : Progress) (cs : List Char) : Option (Progress × List Char) :=
  match cs with
  | '[' :: '[' :: rest => do
    let (name, rest) ← header? rest
    let rest ← after? ']' rest
    let entries ← p.entries.change (Entries.openNext (name.getLast?.getD "")) name.dropLast
    pure (⟨entries, name⟩, rest)
  | '[' :: rest => do
    let (name, rest) ← header? rest
    let entries ← p.entries.change (Entries.openGroup (name.getLast?.getD "")) name.dropLast
    pure (⟨entries, name⟩, rest)
  | cs => do
    let (name, rest) ← name? (cs.length + 1) cs
    match rest with
    | '=' :: rest => do
      let (value, rest) ← value? (rest.length + 1) (skip rest)
      let entries ← p.entries.change (Entries.give .headed value name) p.path
      pure (⟨entries, p.path⟩, rest)
    | _ => none

/-- All lines. -/
def lines? : Nat → Progress → List Char → Option Entries
  | 0, _, _ => none
  | fuel + 1, p, cs =>
    match skip cs with
    | [] => some p.entries
    | c :: rest =>
      if c = '#' ∨ (afterBreak? (c :: rest)).isSome then
        match endLine? (c :: rest) with
        | some rest => lines? fuel p rest
        | none => none
      else
        match line? p (c :: rest) with
        | none => none
        | some (p, rest) =>
          match endLine? rest with
          | some rest => lines? fuel p rest
          | none => none

/-- Reads a document. A mark of byte order at its beginning is passed over. -/
def read? (s : String) : Option Tree :=
  let cs := match s.toList with
    | c :: rest => if c.toNat = 0xFEFF then rest else c :: rest
    | [] => []
  (lines? (cs.length + 2) ⟨[], []⟩ cs).map fun entries => .fields (entriesTrees entries)

end Toml

end SpendLedger
