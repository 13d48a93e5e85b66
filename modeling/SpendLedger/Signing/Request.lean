import SpendLedger.Calendar.DateText
import SpendLedger.Signing.Sha256
import SpendLedger.Url.Basic

/-!
# Signed requests

A request to AWS carries a signature made with the secret key: the request is brought into a canonical form, its digest
is put behind the time and the scope of the signature, and that text is signed with a key derived for the scope.
-/

namespace SpendLedger

namespace Signing

/-- The keys of an account. -/
structure Keys where
  id : String
  secret : String
  token : Option String
deriving DecidableEq, Repr

/-- The keys in a text with colons between them; the token may have colons itself. Name and key must not be blank. -/
def Keys.read? (raw : String) : Option Keys :=
  let (id, rest) := Text.cut ':' raw.toList
  let (secret, token) := Text.cut ':' (rest.getD [])
  let trimmed (cs : List Char) : String := Text.trim (String.ofList cs)
  if trimmed id = "" ∨ trimmed secret = "" then none
  else some ⟨trimmed id, trimmed secret, (token.map trimmed).filter (· ≠ "")⟩

/-- The algorithm of a signature. -/
def algorithm : String := "AWS4-HMAC-SHA256"

/-- The bytes of a text. -/
def bytes (s : String) : List UInt8 := s.toUTF8.toList

/-- Whether a character stands for itself in the canonical form. -/
def isUnreserved (c : Char) : Bool :=
  c.isAlphanum || c == '-' || c == '_' || c == '.' || c == '~'

/-- The path in canonical form: empty steps left out, and what is written as bytes written so once more. -/
def canonicalPath (u : Url) : List Char :=
  let segments := Text.pieces '/' u.path.toText
  let kept := segments.filter fun s => !s.isEmpty
  let text := kept.flatMap (fun s => '/' :: s) ++ (if segments.getLast? = some [] then ['/'] else [])
  Url.encoded (fun c => !(isUnreserved c || c == '/')) (if text.isEmpty then ['/'] else text)

/-- A name or value of a query, as text and back in canonical form. -/
def canonicalPart (cs : List Char) : String :=
  let cs := cs.map fun c => if c = '+' then ' ' else c
  String.ofList (Url.encoded (fun c => !isUnreserved c) ((Url.decoded? cs).getD cs))

/-- The query in canonical form: its parts in order. -/
def canonicalQuery (u : Url) : String :=
  let parts := (Text.pieces '&' (u.query.getD [])).filter fun p => !p.isEmpty
  let pairs := parts.map fun p =>
    let (name, value) := Text.cut '=' p
    (canonicalPart name, canonicalPart (value.getD []))
  let ordered := pairs.mergeSort fun a b => decide (a.1 < b.1) || (decide (a.1 = b.1) && decide (a.2 ≤ b.2))
  Text.joined "&" (ordered.map fun p => p.1 ++ "=" ++ p.2)

/-- The value of a header in canonical form: blanks around it and double blanks left out. -/
def canonicalValue (s : String) : String :=
  Text.joined " " (((Text.pieces ' ' s.toList).filter fun p => !p.isEmpty).map String.ofList)

/-! ## What can be signed -/

/-- Whether a character may stand in the part of an address that names the host. -/
def isAuthorityChar (c : Char) : Bool :=
  c.isAlphanum || "!$&\x27()*+,-.:;=@[]_~".toList.contains c

/-- Whether there are no brackets, or one pair of them. -/
def bracketsPaired (cs : List Char) : Bool :=
  let brackets := cs.filter fun c => c == '[' || c == ']'
  brackets.isEmpty || brackets == ['[', ']']

/-- Whether a text is a host, perhaps with a user before it and a port behind it. Only the user may have written bytes. -/
def isAuthority (cs : List Char) : Bool :=
  let (user, host) := (Url.splitAtSign cs).getD ([], cs)
  let behindBrackets := host.reverse.takeWhile (· != ']')
  !host.isEmpty && host.all isAuthorityChar && user.all (fun c => isAuthorityChar c || c == '%') && bracketsPaired cs &&
    decide (behindBrackets.count ':' ≤ 1) && decide (user.count ':' ≤ 8)

/-- Whether a request to an address can be signed. An address without a host is taken for a host as a whole. -/
def isTarget (u : Url) : Bool :=
  match u.host, u.path, u.query, u.fragment with
  | some _, _, _, _ => isAuthority u.authority && decide (u.scheme.length ≤ 64)
  | none, .opaqueText text, none, none => isAuthority (u.scheme ++ ':' :: text)
  | _, _, _, _ => false

/-! ## The signature -/

/-- Host and port as a request names them, with the user where the address has one. -/
def hostHeader (u : Url) : String :=
  String.ofList u.authority

/-- The headers that a signature covers, in order of their names. -/
def signedHeaders (keys : Keys) (u : Url) (time : Instant) (headers : List (String × String)) :
    List (String × String) :=
  let own := [("host", hostHeader u), ("x-amz-date", time.toCompactText)]
  let token := match keys.token with
    | none => []
    | some token => [("x-amz-security-token", token)]
  (headers ++ own ++ token).mergeSort fun a b => decide (a.1 ≤ b.1)

/-- The canonical form of a request. -/
def canonicalRequest (u : Url) (headers : List (String × String)) (body : String) : String :=
  Text.joined "\n"
    ["POST", String.ofList (canonicalPath u), canonicalQuery u,
      String.join (headers.map fun h => h.1 ++ ":" ++ canonicalValue h.2 ++ "\n"),
      Text.joined ";" (headers.map Prod.fst), Sha256.hex (Sha256.digest (bytes body))]

/-- What a signature is good for: a day, a region and a service. -/
def scope (time : Instant) (region service : String) : String :=
  Text.joined "/" [time.date.toCompactText, region, service, "aws4_request"]

/-- The key of a scope. -/
def scopeKey (secret : String) (time : Instant) (region service : String) : List UInt8 :=
  [time.date.toCompactText, region, service, "aws4_request"].foldl (fun key part => Sha256.keyed key (bytes part))
    (bytes ("AWS4" ++ secret))

/-- The headers that a signature adds to a request. -/
def sign (keys : Keys) (region service : String) (u : Url) (time : Instant) (headers : List (String × String))
    (body : String) : List (String × String) :=
  let covered := signedHeaders keys u time headers
  let text := Text.joined "\n"
    [algorithm, time.toCompactText, scope time region service,
      Sha256.hex (Sha256.digest (bytes (canonicalRequest u covered body)))]
  let signature := Sha256.hex (Sha256.keyed (scopeKey keys.secret time region service) (bytes text))
  let token := match keys.token with
    | none => []
    | some token => [("x-amz-security-token", token)]
  [("x-amz-date", time.toCompactText),
    ("authorization", algorithm ++ " Credential=" ++ keys.id ++ "/" ++ scope time region service ++
      ", SignedHeaders=" ++ Text.joined ";" (covered.map Prod.fst) ++ ", Signature=" ++ signature)] ++ token

end Signing

end SpendLedger
