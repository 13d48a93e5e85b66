import SpendLedger.Proofs.Network
import SpendLedger.Proofs.World
import SpendLedger.Provider.Exchange

/-!
# What an exchange leaves behind

A document that comes back was the next reply of the other side, with a status of success and a text that can be read.
Exchanges change the network and the journal of a world and nothing else of it.
-/

namespace SpendLedger

namespace World

variable {γ : Type}

/-- A view of a world that sees neither its network nor its journal. -/
structure Inner (view : World → γ) : Prop where
  network : ∀ w network, view { w with network } = view w
  journal : ∀ w journal, view { w with journal } = view w

theorem inner_store : Inner World.store :=
  ⟨fun _ _ => rfl, fun _ _ => rfl⟩

end World

namespace Provider

variable {γ : Type} {view : World → γ}

/-- A document is read from an answer of success whose text holds it, and from no other. -/
theorem document_eq_ok {p : Provider} {status : Nat} {text : String} {tree : Tree}
    (h : document p status text = .ok tree) : (200 ≤ status ∧ status < 300) ∧ Json.readWhole? text = some tree := by
  unfold document at h
  split at h
  next hstatus =>
    split at h
    next hread =>
      cases h
      exact ⟨hstatus, hread⟩
    next => cases h
  next => cases h

/-- The request with which a document is sent. -/
def posted (url : Url) (headers : List (String × String)) (body : Tree) : Request where
  url := url.withoutUser
  headers
  body := some body

/-- A document that can be sent is sent in one exchange, and what is answered is read as a document. -/
theorem run_post {url : Url} {headers : List (String × String)} (h : unsendable? url headers = none) (p : Provider)
    (body : Tree) (w : World) :
    Action.run w (p.post url headers body) =
      (match (w.network.exchange (posted url headers body)).1 with
        | .error fault => .error (.http fault)
        | .ok (status, text) => p.document status text,
      { w with network := (w.network.exchange (posted url headers body)).2 }) := by
  unfold post posted
  rw [h]
  dsimp only
  rw [Action.run_bind_of_ok (Action.run_get w)]
  rcases w.network.exchange { url := url.withoutUser, headers, body := some body } with ⟨fault | ⟨status, text⟩, network⟩
  · rfl
  · rfl

/-- A document that cannot be sent is not sent. -/
theorem run_post_of_unsendable {url : Url} {headers : List (String × String)} {fault : HttpFault}
    (h : unsendable? url headers = some fault) (p : Provider) (body : Tree) (w : World) :
    Action.run w (p.post url headers body) = (.error (.http fault), w) := by
  unfold post
  rw [h]
  rfl

/-- A document that comes back was received. -/
theorem post_eq_ok {p : Provider} {url : Url} {headers : List (String × String)} {body tree : Tree} {w after : World}
    (h : Action.run w (p.post url headers body) = (.ok tree, after)) : w.network.Received after.network [tree] := by
  cases hsend : unsendable? url headers with
  | some fault =>
    rw [run_post_of_unsendable hsend] at h
    cases h
  | none =>
    rw [run_post hsend] at h
    obtain ⟨hdocument, rfl⟩ := Prod.mk.inj h
    split at hdocument
    next => cases hdocument
    next status text hanswer =>
      obtain ⟨hstatus, hread⟩ := document_eq_ok hdocument
      exact Network.received_of_exchange hanswer hstatus hread

/-- Sending a document keeps what is not seen of the network and the journal. -/
theorem keeps_post (hview : World.Inner view) (p : Provider) (url : Url) (headers : List (String × String)) (body : Tree) :
    Action.Keeps view (p.post url headers body) := by
  intro w
  cases hsend : unsendable? url headers with
  | some fault => rw [run_post_of_unsendable hsend]
  | none =>
    rw [run_post hsend]
    exact hview.network w _

theorem postTo_eq_ok {p : Provider} {url : String} {headers : List (String × String)} {body tree : Tree}
    {w after : World} (h : Action.run w (p.postTo url headers body) = (.ok tree, after)) :
    w.network.Received after.network [tree] := by
  unfold postTo at h
  split at h
  · exact post_eq_ok h
  · cases h

/-- Sending a document to an address keeps what is not seen of the network and the journal. -/
theorem keeps_postTo (hview : World.Inner view) (p : Provider) (url : String) (headers : List (String × String))
    (body : Tree) : Action.Keeps view (p.postTo url headers body) := by
  unfold postTo
  split
  · exact keeps_post hview p _ headers body
  · exact .throw _

end Provider

end SpendLedger
