import SpendLedger.Json.Reader
import SpendLedger.Provider.Basic

/-!
# Exchanges with a provider

A document is sent and a document comes back; everything else is a failure.
-/

namespace SpendLedger

namespace Provider

/-- Whether a text may stand in a header. -/
def isHeaderText (s : String) : Bool :=
  s.toList.all fun c => (32 ≤ c.toNat && c.toNat ≠ 127) || c == '\t'

/-- The header that shows a credential. -/
def bearer (credential : String) : String × String :=
  ("authorization", "Bearer " ++ credential)

/-- The header of a JSON document. -/
def jsonContent : String × String :=
  ("content-type", "application/json")

/-- Why a request cannot be sent, if it cannot. -/
def unsendable? (url : Url) (headers : List (String × String)) : Option HttpFault :=
  if url.host.all List.isEmpty then some (.unsendable (some url.toText))
  else if !headers.all fun h => isHeaderText h.2 then some (.unsendable none)
  else if !url.isWeb then some (.unsendable (some url.toText))
  else none

/-- The document in an answer, if its status is one of success. -/
def document (p : Provider) (status : Nat) (text : String) : Except Failure Tree :=
  if 200 ≤ status ∧ status < 300 then
    match Json.readWhole? text with
    | some tree => .ok tree
    | none => .error (.http .unreadable)
  else .error (.transport p.name (some status) (shortened 300 text))

/-- Sends a document to an address and reads the document that comes back. -/
def post (p : Provider) (url : Url) (headers : List (String × String)) (body : Tree) : Action World Tree := do
  match unsendable? url headers with
  | some fault => throw (.http fault)
  | none =>
    let (answer, network) := (← get).network.exchange { url := url.withoutUser, headers, body := some body }
    modify fun w => { w with network }
    match answer with
    | .error fault => throw (.http fault)
    | .ok (status, text) => document p status text

/-- Sends a document to an address that is given as text. -/
def postTo (p : Provider) (url : String) (headers : List (String × String)) (body : Tree) : Action World Tree :=
  match Url.read url with
  | .ok url => p.post url headers body
  | .error _ => throw (.http (.unsendable none))

end Provider

end SpendLedger
