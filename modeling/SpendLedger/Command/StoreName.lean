import SpendLedger.Text.Basic

/-!
# Names of stores

The path of a store is taken as it is, unless it begins with `file:`. Then it is a URI: the path stands before a question
mark, perhaps behind a host, and behind the question mark stand settings that say how the store is opened.
-/

namespace SpendLedger

namespace StoreName

/-- A part of a URI with every byte read back that is written in hexadecimal. A zero byte ends it. -/
def plain : List Char → List Char
  | [] => []
  | '%' :: a :: b :: rest =>
    match Text.hexValue? a, Text.hexValue? b with
    | some x, some y => if x * 16 + y = 0 then [] else Char.ofNat (x * 16 + y) :: plain rest
    | _, _ => '%' :: plain (a :: b :: rest)
  | c :: rest => c :: plain rest

/-- The host at the beginning of a URI, and what follows it. -/
def splitHost : List Char → List Char × List Char
  | '/' :: '/' :: rest => (rest.takeWhile (· ≠ '/'), rest.dropWhile (· ≠ '/'))
  | cs => ([], cs)

/-- What a URI says of a store. -/
structure Uri where
  host : String
  path : String
  settings : List (String × String)

/-- The URI behind its scheme; what stands behind a hash sign is left out. -/
def readUri (cs : List Char) : Uri :=
  let (host, rest) := splitHost cs
  let (path, settings) := Text.cut '?' (Text.cut '#' rest).1
  { host := String.ofList host
    path := String.ofList (plain path)
    settings := (Text.pieces '&' (settings.getD [])).map fun setting =>
      let (name, value) := Text.cut '=' setting
      (String.ofList (plain name), String.ofList (plain (value.getD []))) }

/-- What stands behind `file:` in a name that begins so, read as a URI. -/
def uri? (name : String) : Option Uri :=
  (Text.after? "file:".toList name.toList).map readUri

namespace Uri

/-- The last value of a setting. -/
def last? (u : Uri) (name : String) : Option String :=
  ((u.settings.filter fun setting => setting.1 = name).getLast?).map Prod.snd

/-- The settings with which a store is made if it is not there, and opened for reading and writing. A setting without a name
says nothing. -/
def isKnown (setting : String × String) : Bool :=
  setting.1 == "" ||
    [("mode", "rwc"), ("mode", "memory"), ("cache", "shared"), ("cache", "private"), ("vfs", "memdb")].contains setting

/-- Whether a URI opens its store for reading and writing, and makes the store if it is not there. -/
def isOpening (u : Uri) : Bool :=
  ["", "localhost"].contains u.host && u.settings.all isKnown

end Uri

/-- Whether a path names no file at all. -/
def isFileless (path : String) : Bool :=
  path == "" || path == ":memory:"

end StoreName

end SpendLedger
