import SpendLedger.Url.Host

/-!
# Addresses

An address has a scheme and a path, and perhaps a host with a user and a port, a query and a fragment. Reading brings
the parts into their normal form: schemes and names in small letters, dots in the path resolved, characters that are not
shown written as bytes, and the port left out where it is the usual one.
-/

namespace SpendLedger

/-- The part of an address that says where on the host. -/
inductive Url.Path where
  | steps (segments : List (List Char))
  /-- Text that only the scheme gives a meaning. -/
  | opaqueText (text : List Char)
deriving DecidableEq, Repr

/-- An address. -/
structure Url where
  scheme : List Char
  /-- User and password, as they stand before the host. -/
  user : List Char
  host : Option (List Char)
  /-- The port, if it is not the usual one. -/
  port : Option Nat
  path : Url.Path
  query : Option (List Char)
  fragment : Option (List Char)
deriving DecidableEq, Repr

namespace Url

/-- The port that a scheme implies. -/
def usualPort? (scheme : List Char) : Option Nat :=
  [("http", 80), ("https", 443), ("ws", 80), ("wss", 443), ("ftp", 21)].lookup (String.ofList scheme)

/-- Whether a scheme always has a host and steps. -/
def isCommon (scheme : List Char) : Bool :=
  (usualPort? scheme).isSome

/-- Whether an address is one that documents are sent to. -/
def isWeb (u : Url) : Bool :=
  u.scheme == "http".toList || u.scheme == "https".toList

/-- The host and the port that an address leads to. -/
def place (u : Url) : Option (List Char) × Option Nat :=
  (u.host, u.port.or (usualPort? u.scheme))

/-- The text of a path. -/
def Path.toText : Path → List Char
  | steps segments => segments.flatMap fun s => '/' :: s
  | opaqueText text => text

/-- The text between the scheme's slashes and the path. -/
def authority (u : Url) : List Char :=
  match u.host with
  | none => []
  | some host =>
    (if u.user.isEmpty then [] else u.user ++ ['@']) ++ host ++
      (match u.port with
        | none => []
        | some port => ':' :: Nat.toDigits 10 port)

/-- The text of an address. -/
def toText (u : Url) : String :=
  String.ofList (u.scheme ++ [':'] ++ (if u.host.isSome then ['/', '/'] ++ u.authority else []) ++ u.path.toText ++
    (match u.query with
      | none => []
      | some q => '?' :: q) ++
    (match u.fragment with
      | none => []
      | some f => '#' :: f))

/-- An address without user and password. -/
def withoutUser (u : Url) : Url :=
  { u with user := [] }

/-- An address without its fragment. -/
def withoutFragment (u : Url) : Url :=
  { u with fragment := none }

/-! ## Paths -/

/-- Whether a segment means the place where it stands. -/
def isDot (s : List Char) : Bool :=
  [".", "%2e"].contains (Text.lower (String.ofList s))

/-- Whether a segment means the place above. -/
def isDoubleDot (s : List Char) : Bool :=
  ["..", ".%2e", "%2e.", "%2e%2e"].contains (Text.lower (String.ofList s))

/-- Segments behind those that are already taken, with dots resolved; a dot at the end leaves an empty segment. -/
def resolve (taken : List (List Char)) : List (List Char) → List (List Char)
  | [] => taken
  | [s] =>
    if isDoubleDot s then taken.dropLast ++ [[]]
    else if isDot s then taken ++ [[]]
    else taken ++ [s]
  | s :: rest =>
    if isDoubleDot s then resolve taken.dropLast rest
    else if isDot s then resolve taken rest
    else resolve (taken ++ [s]) rest

/-- The steps that a path's text after its first slash names. -/
def readSteps (common : Bool) (cs : List Char) : Path :=
  let cs := if common then cs.map fun c => if c = '\\' then '/' else c else cs
  .steps (resolve [] ((Text.pieces '/' (encoded hiddenInPath cs))))

/-- Characters without tabs and line breaks, which an address ignores. -/
def withoutBreaks (cs : List Char) : List Char :=
  cs.filter fun c => !(c == '\t' || c == '\n' || c == '\r')

/-- An address with another path. -/
def withPath (u : Url) (path : String) : Url :=
  let cs := withoutBreaks path.toList
  match u.path with
  | .opaqueText _ =>
    let cs := match cs with
      | '/' :: rest => ['%', '2', 'F'] ++ rest
      | cs => cs
    { u with path := .opaqueText (encoded isControl cs) }
  | .steps _ =>
    match cs with
    | '/' :: rest => { u with path := readSteps (isCommon u.scheme) rest }
    | '\\' :: rest =>
      { u with path := readSteps (isCommon u.scheme) (if isCommon u.scheme then rest else '\\' :: rest) }
    | cs => { u with path := readSteps (isCommon u.scheme) cs }

/-- An address with another query. -/
def withQuery (u : Url) (query : String) : Url :=
  { u with query := some (encoded (hiddenInQuery (isCommon u.scheme)) query.toList) }

/-! ## Reading -/

/-- Whether a character may stand in a scheme. -/
def isSchemeChar (c : Char) : Bool :=
  c.isAlphanum || c == '+' || c == '-' || c == '.'

/-- The scheme, and what follows its colon. -/
def readScheme (cs : List Char) : Except Fault (List Char × List Char) :=
  match cs with
  | c :: _ =>
    let scheme := cs.takeWhile isSchemeChar
    match cs.drop scheme.length with
    | ':' :: rest => if c.isAlpha then .ok (scheme.map Char.toLower, rest) else .error .relative
    | _ => .error .relative
  | [] => .error .relative

/-- The text before the first of some characters, and the rest from there on. -/
def before (stop : Char → Bool) (cs : List Char) : List Char × List Char :=
  (cs.takeWhile fun c => !stop c, cs.dropWhile fun c => !stop c)

/-- What stands before and after the last at sign. -/
def splitAtSign (cs : List Char) : Option (List Char × List Char) :=
  match Text.cut '@' cs.reverse with
  | (_, none) => none
  | (after, some rest) => some (rest.reverse, after.reverse)

/-- User and password in their normal form. -/
def readUser (cs : List Char) : List Char :=
  let (name, password) := Text.cut ':' cs
  match password with
  | none | some [] => encoded hiddenInUser name
  | some p => encoded hiddenInUser name ++ ':' :: encoded hiddenInUser p

/-- The text before the first colon that stands outside of brackets, and the rest from there on. -/
def hostAndRest (inside : Bool) : List Char → List Char × List Char
  | [] => ([], [])
  | c :: cs =>
    if c = ':' ∧ !inside then ([], c :: cs)
    else
      let inside := if c = '[' then true else if c = ']' then false else inside
      let (host, rest) := hostAndRest inside cs
      (c :: host, rest)

/-- A port, left out if it is the usual one. -/
def readPort (scheme : List Char) (cs : List Char) : Except Fault (Option Nat) :=
  if cs.isEmpty then .ok none
  else if !cs.all Char.isDigit || 65535 < Text.digitsValue cs then .error .port
  else .ok (if usualPort? scheme = some (Text.digitsValue cs) then none else some (Text.digitsValue cs))

/-- User, host and port. -/
def readAuthority (scheme : List Char) (cs : List Char) :
    Except Fault (List Char × List Char × Option Nat) := do
  let (user, cs) ← match splitAtSign cs with
    | none => pure ([], cs)
    | some (user, []) => if user.isEmpty then .error .emptyHost else pure (readUser user, [])
    | some (user, cs) => pure (readUser user, cs)
  let (host, rest) := hostAndRest false cs
  if host.isEmpty && (isCommon scheme || !rest.isEmpty) then .error .emptyHost
  else
    let host ← if isCommon scheme then readHost host else readOpaqueHost host
    let port ← readPort scheme (rest.drop 1)
    pure (user, host, port)

/-- Query and fragment behind a path. -/
def readTail (scheme : List Char) (cs : List Char) : Option (List Char) × Option (List Char) :=
  let (front, fragment) := Text.cut '#' cs
  let (_, query) := Text.cut '?' front
  (query.map (encoded (hiddenInQuery (isCommon scheme))), fragment.map (encoded hiddenInFragment))

/-- The path behind an authority. -/
def readPathAfterHost (common : Bool) : List Char → Path
  | [] => if common then .steps [[]] else .steps []
  | c :: cs => if c = '/' || (common && c = '\\') then readSteps common cs else readSteps common (c :: cs)

/-- Reads an address that does not lean on another one. -/
def read (s : String) : Except Fault Url := do
  let isEdge (c : Char) : Bool := c.toNat ≤ 32
  let cs := ((s.toList.dropWhile isEdge).reverse.dropWhile isEdge).reverse
  let (scheme, rest) ← readScheme (withoutBreaks cs)
  let common := isCommon scheme
  let (query, fragment) := readTail scheme rest
  let body := (before (fun c => c = '?' || c = '#') rest).1
  let isSlash (c : Char) : Bool := c = '/' || (common && c = '\\')
  if common then
    let (authority, path) := before isSlash (body.dropWhile isSlash)
    let (user, host, port) ← readAuthority scheme authority
    pure { scheme, user, host := some host, port, path := readPathAfterHost true path, query, fragment }
  else match body with
    | '/' :: '/' :: body =>
      let (authority, path) := before isSlash body
      let (user, host, port) ← readAuthority scheme authority
      pure { scheme, user, host := some host, port, path := readPathAfterHost false path, query, fragment }
    | '/' :: body => pure { scheme, user := [], host := none, port := none, path := readSteps false body, query, fragment }
    | body =>
      pure { scheme, user := [], host := none, port := none, path := .opaqueText (encoded isControl body), query, fragment }

end Url

end SpendLedger
