import SpendLedger.Failure
import SpendLedger.Tree.Basic
import SpendLedger.Url.Basic

/-!
# The network

What lies behind a request: a list of replies, given out one after the other. A network that is down answers nothing and
sees nothing. An answer may point to another address, with or without encryption on the way there; the request is then
made there in place of the first one, a limited number of times.
-/

namespace SpendLedger

/-- What is sent to an address. Without a document the address is only read. -/
structure Request where
  url : Url
  /-- Names and values; the names are in small letters. -/
  headers : List (String × String)
  body : Option Tree

/-- What comes back. -/
inductive Reply where
  /-- An answer, with the address that its `Location` leads to. -/
  | answer (status : Nat) (location : Option Url) (body : String)
  | dropped
deriving DecidableEq, Repr

/-- What the other side sees. -/
inductive Contact where
  | request (r : Request)
  /-- A request that takes the place of another one, since an answer pointed to its address. -/
  | onward (r : Request)

/-- The other side of all connections. -/
structure Network where
  /-- Whether anything gets through. -/
  up : Bool
  replies : List Reply
  contacts : List Contact

/-- The address that an answer points to, if its status is one that does so. -/
def Reply.target? : Reply → Option Url
  | answer status location _ => if [301, 302, 303, 307, 308].contains status then location else none
  | dropped => none

namespace Request

/-- A request as it is seen: the fragment of its address is not sent. -/
def shown (r : Request) : Request :=
  { r with url := r.url.withoutFragment }

/-- The request that is made at another address. A credential goes along only to the same host and port, and the document
only where the status asks for the same request once more. -/
def movedTo (r : Request) (status : Nat) (url : Url) : Request :=
  let headers := if url.place = r.url.place then r.headers else r.headers.filter fun h => h.1 ≠ "authorization"
  if [307, 308].contains status then { url, headers, body := r.body }
  else { url, headers := headers.filter fun h => h.1 ≠ "content-type", body := none }

end Request

namespace Network

/-- How often a request is made at another address. -/
def maxMoves : Nat := 10

/-- Waits for the answer to a request that was sent, which may be made at other addresses so many times more. -/
def await (left : Nat) (n : Network) (r : Request) : Except HttpFault (Nat × String) × Network :=
  match n.replies with
  | [] => (.error (.unanswered r.url.toText), n)
  | .dropped :: later => (.error (.unanswered r.url.toText), { n with replies := later })
  | .answer status location body :: later =>
    let n := { n with replies := later }
    match (Reply.answer status location body).target? with
    | none => (.ok (status, body), n)
    | some url =>
      match left with
      | 0 => (.error (.movedTooOften r.url.toText), n)
      | left + 1 =>
        if url.isWeb then
          let next := r.movedTo status url
          await left { n with contacts := n.contacts ++ [.onward next.shown] } next
        else (.error (.unsendable (some url.toText)), n)

/-- Sends a request and waits for its answer: a status with a text. -/
def exchange (n : Network) (r : Request) : Except HttpFault (Nat × String) × Network :=
  if n.up then await maxMoves { n with contacts := n.contacts ++ [.request r.shown] } r
  else (.error (.unanswered r.url.toText), n)

end Network

end SpendLedger
