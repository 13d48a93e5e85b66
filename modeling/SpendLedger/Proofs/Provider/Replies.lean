import SpendLedger.Proofs.Provider.Exchange
import SpendLedger.Provider.Query

/-!
# Replies that wait

Where the next reply holds a document, a request answers with this document, unless something keeps it from the other side:
an address that leads nowhere, a header that cannot be sent, a network that is down. What does so is the same whatever the
reply is and, for AWS, whatever the question is, although every question has a signature of its own.
-/

namespace SpendLedger

/-- A world in which the other side will give some replies and has seen something since a start. What was told since then does
not matter, and everything else is as it was. -/
def World.Awaits (start : World) (replies : List Reply) (seen : List Contact) (w : World) : Prop :=
  ∃ journal, w =
    { start with network := { start.network with replies, contacts := start.network.contacts ++ seen }, journal }

namespace World.Awaits

variable {start w : World} {replies : List Reply} {seen : List Contact}

theorem of_replies (start : World) (replies : List Reply) :
    start.Awaits replies [] { start with network := { start.network with replies } } :=
  ⟨start.journal, by rw [List.append_nil]⟩

theorem told (h : start.Awaits replies seen w) (journal : List Event) : start.Awaits replies seen { w with journal } := by
  obtain ⟨_, rfl⟩ := h
  exact ⟨journal, rfl⟩

theorem replies_eq (h : start.Awaits replies seen w) : w.network.replies = replies := by
  obtain ⟨_, rfl⟩ := h
  rfl

theorem contacts_eq (h : start.Awaits replies seen w) : w.network.contacts = start.network.contacts ++ seen := by
  obtain ⟨_, rfl⟩ := h
  rfl

theorem clock_eq (h : start.Awaits replies seen w) : w.clock = start.clock := by
  obtain ⟨_, rfl⟩ := h
  rfl

theorem up_eq (h : start.Awaits replies seen w) : w.network.up = start.network.up := by
  obtain ⟨_, rfl⟩ := h
  rfl

/-- When the other side sees one thing more, the replies that are left then are awaited. -/
theorem sees (h : start.Awaits replies seen w) (later : List Reply) (contact : Contact) :
    start.Awaits later (seen ++ [contact])
      { w with network := { w.network with replies := later, contacts := w.network.contacts ++ [contact] } } := by
  obtain ⟨journal, rfl⟩ := h
  exact ⟨journal, by rw [List.append_assoc]⟩

end World.Awaits

namespace Provider

open SpendLedger.Action

/-! ## One request -/

/-- A document that can be read in a reply is read from it. -/
theorem document_of_reply {status : Nat} {location : Option Url} {text : String} {tree : Tree}
    (h : (Reply.answer status location text).document? = some tree) (p : Provider) : p.document status text = .ok tree := by
  have hread : (if 200 ≤ status ∧ status < 300 then Json.readWhole? text else none) = some tree := h
  unfold document
  split at hread
  next hstatus => rw [if_pos hstatus, hread]
  next => cases hread

/-- What keeps a request from being answered, whatever the answer would be. -/
def obstacle? (up : Bool) (url : Url) (headers : List (String × String)) : Option Failure :=
  match unsendable? url headers with
  | some fault => some (.http fault)
  | none => if up then none else some (.http (.unanswered url.withoutUser.toText))

/-- What keeps a request to an address that is given as text from being answered. -/
def addressObstacle? (up : Bool) (address : String) (headers : List (String × String)) : Option Failure :=
  match Url.read address with
  | .ok url => obstacle? up url headers
  | .error _ => some (.http (.unsendable none))

/-- What the other side sees of a request that gets through. -/
def sent (url : Url) (headers : List (String × String)) (body : Tree) : Contact :=
  .request (posted url headers body).shown

/-- An answer, unless there is an obstacle. -/
def answerUnless {α : Type} (obstacle : Option Failure) (answer : α) : Except Failure α :=
  match obstacle with
  | some e => .error e
  | none => .ok answer

/-- What is made of an answer is kept back by the same obstacle. -/
theorem run_bind_pure_of_answerUnless {σ α β : Type} {s t : σ} {a : Action σ α} {obstacle : Option Failure} {x : α}
    (h : Action.run s a = (answerUnless obstacle x, t)) (f : α → β) :
    Action.run s (a >>= fun y => pure (f y)) = (answerUnless obstacle (f x), t) := by
  rw [run_bind, h]
  cases obstacle <;> rfl

/-- Nothing keeps a request from being answered exactly if the network is up, the headers can be sent and the address is one
that documents are sent to, with a host. -/
theorem obstacle?_eq_none_iff {up : Bool} {url : Url} {headers : List (String × String)} :
    obstacle? up url headers = none ↔
      up = true ∧ (headers.all fun h => isHeaderText h.2) = true ∧ url.host.all List.isEmpty = false ∧ url.isWeb = true := by
  unfold obstacle? unsendable?
  cases url.host.all List.isEmpty <;> cases headers.all fun h => isHeaderText h.2 <;> cases url.isWeb <;> cases up <;> simp

/-- Where one request is not kept from being answered, another one with the same headers is not either if it would not be
without them. -/
theorem addressObstacle?_eq_none {up : Bool} {address other : String} {headers : List (String × String)}
    (h : addressObstacle? up address headers = none) (hother : addressObstacle? true other [] = none) :
    addressObstacle? up other headers = none := by
  unfold addressObstacle? at *
  split at h
  next =>
    split at hother
    next =>
      obtain ⟨hup, hheaders, _, _⟩ := obstacle?_eq_none_iff.1 h
      obtain ⟨_, _, hhost, hweb⟩ := obstacle?_eq_none_iff.1 hother
      exact obstacle?_eq_none_iff.2 ⟨hup, hheaders, hhost, hweb⟩
    next => cases hother
  next => cases h

variable {start w : World} {reply : Reply} {later : List Reply} {seen : List Contact} {tree : Tree}

/-- Where a document waits, sending one answers with it, unless there is an obstacle. -/
theorem run_post_of_reply (hw : start.Awaits (reply :: later) seen w) (hdocument : reply.document? = some tree)
    (p : Provider) (url : Url) (headers : List (String × String)) (body : Tree) :
    ∃ after, Action.run w (p.post url headers body) =
        (answerUnless (obstacle? start.network.up url headers) tree, after) ∧
      (obstacle? start.network.up url headers = none → start.Awaits later (seen ++ [sent url headers body]) after) := by
  unfold obstacle?
  rw [← hw.up_eq]
  cases hsend : unsendable? url headers with
  | some fault => exact ⟨w, run_post_of_unsendable hsend p body w, nofun⟩
  | none =>
    rw [run_post hsend]
    cases hup : w.network.up with
    | true =>
      obtain ⟨status, location, text, rfl, hexchange⟩ :=
        Network.exchange_of_reply hw.replies_eq hdocument hup (posted url headers body)
      rw [hexchange]
      exact ⟨_, Prod.ext (document_of_reply hdocument p) rfl, fun _ => hw.sees later (sent url headers body)⟩
    | false =>
      rw [Network.exchange_of_closed hup]
      exact ⟨_, rfl, nofun⟩

/-- Where a document waits, sending one to an address answers with it, unless there is an obstacle. -/
theorem run_postTo_of_reply (hw : start.Awaits (reply :: later) seen w) (hdocument : reply.document? = some tree)
    (p : Provider) (address : String) (headers : List (String × String)) (body : Tree) :
    ∃ after, Action.run w (p.postTo address headers body) =
        (answerUnless (addressObstacle? start.network.up address headers) tree, after) ∧
      (addressObstacle? start.network.up address headers = none →
        ∃ url, Url.read address = .ok url ∧ start.Awaits later (seen ++ [sent url headers body]) after) := by
  unfold postTo addressObstacle?
  cases Url.read address with
  | ok url =>
    obtain ⟨after, hrun, hafter⟩ := run_post_of_reply hw hdocument p url headers body
    exact ⟨after, hrun, fun hopen => ⟨url, rfl, hafter hopen⟩⟩
  | error fault => exact ⟨w, rfl, nofun⟩

/-! ## Signed requests -/

theorem isHeaderText_append (s t : String) : isHeaderText (s ++ t) = (isHeaderText s && isHeaderText t) := by
  unfold isHeaderText
  rw [String.toList_append, List.all_append]

/-- Bytes in hexadecimal can be sent in a header. -/
theorem isHeaderText_hex (bytes : List UInt8) : isHeaderText (Sha256.hex bytes) = true := by
  have hdigit : ∀ n < 16, (32 ≤ (Nat.digitChar n).toNat && (Nat.digitChar n).toNat ≠ 127) = true := by decide
  unfold isHeaderText Sha256.hex
  rw [String.toList_ofList, List.all_eq_true]
  intro c hc
  obtain ⟨b, _, hmem⟩ := List.mem_flatMap.1 hc
  have hhigh := hdigit (b.toNat / 16) (by have := b.toNat_lt; omega)
  have hlow := hdigit (b.toNat % 16) (by omega)
  rcases List.mem_cons.1 hmem with rfl | hmem
  · rw [hhigh, Bool.true_or]
  · rw [List.mem_singleton.1 hmem, hlow, Bool.true_or]

/-- What keeps a call of AWS from being answered. -/
def callObstacle? (access : Access) (time : Instant) (up : Bool) (target : String) (body : Tree) : Option Failure :=
  match Aws.keys access, Aws.endpoint access with
  | .error e, _ => some e
  | .ok _, .error e => some e
  | .ok keys, .ok url =>
    match Aws.headers access keys url time target body with
    | .error e => some e
    | .ok headers => obstacle? up url headers

/-- What is asked does not keep a call of AWS from being answered: of the headers, the signature alone depends on it, and
that can always be sent. -/
theorem callObstacle?_eq (access : Access) (time : Instant) (up : Bool) (target : String) (body other : Tree) :
    callObstacle? access time up target body = callObstacle? access time up target other := by
  unfold callObstacle?
  cases Aws.keys access with
  | error e => rfl
  | ok keys =>
    cases Aws.endpoint access with
    | error e => rfl
    | ok url =>
      unfold Aws.headers
      dsimp only
      cases keys.token.all isHeaderText && Signing.isTarget url with
      | false => rfl
      | true =>
        unfold obstacle? unsendable? Signing.sign
        simp only [reduceIte, List.all_append, List.all_cons, isHeaderText_append, isHeaderText_hex]

/-- Where a document waits, a call of AWS answers with it, unless there is an obstacle. -/
theorem run_call_of_reply (hw : start.Awaits (reply :: later) seen w) (hdocument : reply.document? = some tree)
    (access : Access) (target : String) (body : Tree) :
    ∃ after, Action.run w (Aws.call access target body) =
        (answerUnless (callObstacle? access start.clock start.network.up target body) tree, after) ∧
      (callObstacle? access start.clock start.network.up target body = none →
        ∃ url headers, Aws.endpoint access = .ok url ∧
          start.Awaits later (seen ++ [sent url headers body]) after) := by
  unfold Aws.call callObstacle?
  cases Aws.keys access with
  | error e => exact ⟨w, rfl, nofun⟩
  | ok keys =>
    cases Aws.endpoint access with
    | error e => exact ⟨w, rfl, nofun⟩
    | ok url =>
      rw [run_bind_of_ok (run_lift _ _), run_bind_of_ok (run_lift _ _), run_bind_of_ok (run_get w), hw.clock_eq]
      dsimp only
      cases Aws.headers access keys url start.clock target body with
      | error e => exact ⟨w, rfl, nofun⟩
      | ok headers =>
        rw [run_bind_of_ok (run_lift _ _), run_bind_of_ok (World.run_note _ _ _ _ _)]
        obtain ⟨after, hrun, hafter⟩ := run_post_of_reply (hw.told _) hdocument aws url headers body
        exact ⟨after, hrun, fun hopen => ⟨url, headers, rfl, hafter hopen⟩⟩

end Provider

end SpendLedger
