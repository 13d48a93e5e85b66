import SpendLedger.Json.Reader
import SpendLedger.Network

/-!
# What an exchange does

An exchange takes the replies that point to other addresses, with one request onward for each, and then the reply that ends it,
if there is one. From this follows what was received and how many requests were made between two states of a network.
-/

namespace SpendLedger

namespace Reply

/-- Whether a reply points to another address. -/
def isMove (reply : Reply) : Bool :=
  reply.target?.isSome

/-- The document in a reply, if its status is one of success and its text can be read. -/
def document? : Reply → Option Tree
  | answer status _ body => if 200 ≤ status ∧ status < 300 then Json.readWhole? body else none
  | dropped => none

/-- An answer of success points nowhere. -/
theorem target?_of_success {status : Nat} (h : 200 ≤ status ∧ status < 300) (location : Option Url) (body : String) :
    (answer status location body).target? = none := by
  dsimp only [target?]
  rw [if_neg]
  simp only [List.contains_eq_mem, List.mem_cons, List.not_mem_nil, or_false, decide_eq_true_eq]
  omega

/-- A reply with a document points nowhere. -/
theorem target?_of_document {reply : Reply} {tree : Tree} (h : reply.document? = some tree) : reply.target? = none := by
  cases reply with
  | dropped => cases h
  | answer status location body =>
    refine target?_of_success (Decidable.byContradiction fun hfails => ?_) location body
    rw [document?, if_neg hfails] at h
    cases h

end Reply

/-- Whether a request is one of the ledger and not one that was made onward. -/
def Contact.isOwn : Contact → Bool
  | request _ => true
  | onward _ => false

theorem Contact.countP_isOwn_onward (onward : List Request) : (onward.map Contact.onward).countP isOwn = 0 := by
  rw [List.countP_map]
  exact List.countP_eq_zero.2 fun _ _ => Bool.false_ne_true

theorem Contact.countP_onward (onward : List Request) :
    (onward.map Contact.onward).countP (fun contact => !contact.isOwn) = onward.length := by
  rw [List.countP_map]
  exact List.countP_eq_length.2 fun _ _ => rfl

/-- The document in a request, if there is one. -/
def Contact.question? : Contact → Option Tree
  | request r | onward r => r.body

/-- The document at another address is the same one or none. -/
theorem Request.movedTo_body (r : Request) (status : Nat) (url : Url) :
    (r.movedTo status url).body = r.body ∨ (r.movedTo status url).body = none := by
  unfold movedTo
  dsimp only
  split
  · exact .inl rfl
  · exact .inr rfl

namespace Network

/-! ## One exchange -/

/-- What waiting for an answer leaves of a network: gone are the replies that pointed elsewhere and the last one, if there was
one, and seen are the requests that were made onward. -/
structure Waited (before after : Network) (r : Request) (moves : List Reply) (last : Option Reply) (onward : List Request) :
    Prop where
  replies : before.replies = moves ++ last.toList ++ after.replies
  contacts : after.contacts = before.contacts ++ onward.map .onward
  isMove : ∀ reply ∈ moves, reply.isMove = true
  length : onward.length = moves.length
  body : ∀ next ∈ onward, next.body = r.body ∨ next.body = none

/-- A wait in which nothing points elsewhere ends with the next reply, if there is one. -/
theorem Waited.ended {n : Network} {last : Option Reply} {later : List Reply} (h : n.replies = last.toList ++ later)
    (r : Request) : Waited n { n with replies := later } r [] last [] where
  replies := h
  contacts := (List.append_nil _).symm
  isMove := nofun
  length := rfl
  body := nofun

/-- A wait goes on with the request that is made onward. -/
theorem Waited.moved {n after : Network} {r : Request} {status : Nat} {location : Option Url} {text : String} {url : Url}
    {later moves : List Reply} {last : Option Reply} {onward : List Request}
    (hreplies : n.replies = .answer status location text :: later)
    (htarget : (Reply.answer status location text).target? = some url)
    (h : Waited { n with replies := later, contacts := n.contacts ++ [.onward (r.movedTo status url).shown] } after
      (r.movedTo status url) moves last onward) :
    Waited n after r (.answer status location text :: moves) last ((r.movedTo status url).shown :: onward) where
  replies := by
    rw [hreplies, show later = _ from h.replies]
    rfl
  contacts := by
    rw [h.contacts, List.append_assoc]
    rfl
  isMove reply hreply := by
    rcases List.mem_cons.1 hreply with rfl | hreply
    · rw [Reply.isMove, htarget]
      rfl
    · exact h.isMove reply hreply
  length := congrArg (· + 1) h.length
  body next hnext := by
    have hbody := r.movedTo_body status url
    rcases List.mem_cons.1 hnext with rfl | hnext
    · exact hbody
    · rcases h.body next hnext with hsame | hnone
      · rwa [hsame]
      · exact .inr hnone

/-- What waiting for an answer does first: it ends, and an answer is the reply that ends it, or the request is made onward. -/
theorem await_cases (left : Nat) (n : Network) (r : Request) :
    (∃ last, Waited n (n.await left r).2 r [] last [] ∧
      ∀ status body, (n.await left r).1 = .ok (status, body) → ∃ location, last = some (.answer status location body)) ∨
    ∃ fewer status location text later url, left = fewer + 1 ∧ n.replies = .answer status location text :: later ∧
      (Reply.answer status location text).target? = some url ∧
      n.await left r = await fewer
        { n with replies := later, contacts := n.contacts ++ [.onward (r.movedTo status url).shown] }
        (r.movedTo status url) := by
  generalize hrun : n.await left r = ran
  unfold await at hrun
  split at hrun
  next =>
    subst hrun
    exact .inl ⟨none, .ended rfl r, nofun⟩
  next later hdropped =>
    subst hrun
    exact .inl ⟨some .dropped, .ended hdropped r, nofun⟩
  next status location text later hanswer =>
    dsimp only at hrun
    split at hrun
    next =>
      subst hrun
      refine .inl ⟨some (.answer status location text), .ended hanswer r, ?_⟩
      rintro _ _ ⟨⟩
      exact ⟨location, rfl⟩
    next url htarget =>
      cases left with
      | zero =>
        subst hrun
        exact .inl ⟨some (.answer status location text), .ended hanswer r, nofun⟩
      | succ fewer =>
        dsimp only at hrun
        split at hrun
        · subst hrun
          exact .inr ⟨fewer, status, location, text, later, url, rfl, hanswer, htarget, rfl⟩
        · subst hrun
          exact .inl ⟨some (.answer status location text), .ended hanswer r, nofun⟩

/-- All that waiting for an answer does. The number of requests onward is limited, and an answer is the last reply. -/
theorem await_spec (left : Nat) (n : Network) (r : Request) :
    ∃ moves last onward, Waited n (n.await left r).2 r moves last onward ∧ onward.length ≤ left ∧
      ∀ status body, (n.await left r).1 = .ok (status, body) → ∃ location, last = some (.answer status location body) := by
  induction left generalizing n r with
  | zero =>
    rcases await_cases 0 n r with ⟨last, hended, hanswer⟩ | ⟨_, _, _, _, _, _, hleft, _⟩
    · exact ⟨[], last, [], hended, Nat.le_refl 0, hanswer⟩
    · cases hleft
  | succ left ih =>
    rcases await_cases (left + 1) n r with
      ⟨last, hended, hanswer⟩ | ⟨_, status, location, text, later, url, ⟨⟩, hreplies, htarget, hnext⟩
    · exact ⟨[], last, [], hended, Nat.zero_le _, hanswer⟩
    · rw [hnext]
      obtain ⟨moves, last, onward, hwaited, hlength, hanswer⟩ := ih
        { n with replies := later, contacts := n.contacts ++ [.onward (r.movedTo status url).shown] }
        (r.movedTo status url)
      exact ⟨_, last, _, hwaited.moved hreplies htarget, Nat.succ_le_succ hlength, hanswer⟩

/-- All that an exchange does: it waits for an answer to the request that was sent, or nothing was sent. -/
theorem exchange_spec (n : Network) (r : Request) :
    ∃ own moves last onward, Waited { n with contacts := n.contacts ++ own } (n.exchange r).2 r moves last onward ∧
      (own = [] ∨ own = [.request r.shown]) ∧ onward.length ≤ maxMoves ∧
      ∀ status body, (n.exchange r).1 = .ok (status, body) → ∃ location, last = some (.answer status location body) := by
  unfold exchange
  split
  · obtain ⟨moves, last, onward, hwaited, hlength, hanswer⟩ :=
      await_spec maxMoves { n with contacts := n.contacts ++ [.request r.shown] } r
    exact ⟨_, moves, last, onward, hwaited, .inr rfl, hlength, hanswer⟩
  · refine ⟨[], [], none, [], ?_, .inl rfl, Nat.zero_le _, nofun⟩
    rw [List.append_nil]
    exact .ended rfl r

/-- A reply with a document that can be read is the answer to a request that gets through, and is gone then. -/
theorem exchange_of_reply {n : Network} {reply : Reply} {later : List Reply} {tree : Tree}
    (hreplies : n.replies = reply :: later) (hdocument : reply.document? = some tree) (hup : n.up = true) (r : Request) :
    ∃ status location text, reply = .answer status location text ∧
      n.exchange r = (.ok (status, text), { n with replies := later, contacts := n.contacts ++ [.request r.shown] }) := by
  have htarget := Reply.target?_of_document hdocument
  cases reply with
  | dropped => cases hdocument
  | answer status location text =>
    refine ⟨status, location, text, rfl, ?_⟩
    unfold exchange await
    rw [if_pos hup]
    dsimp only
    rw [hreplies]
    dsimp only
    rw [htarget]

/-- Nothing is sent where nothing gets through. -/
theorem exchange_of_closed {n : Network} (h : n.up = false) (r : Request) :
    n.exchange r = (.error (.unanswered r.url.toText), n) := by
  unfold exchange
  rw [h]
  rfl

/-! ## What was received -/

/-- The documents that were received between two states of a network: apart from those that point to other addresses, they
stand in the replies that are gone, one in each, in order. -/
def Received (before after : Network) (documents : List Tree) : Prop :=
  ∃ gone, before.replies = gone ++ after.replies ∧
    (gone.filter fun reply => !reply.isMove).map Reply.document? = documents.map some

theorem Received.append {before between after : Network} {first later : List Tree} (hfirst : Received before between first)
    (hlater : Received between after later) : Received before after (first ++ later) := by
  obtain ⟨gone, hbefore, hgone⟩ := hfirst
  obtain ⟨gone', hbetween, hgone'⟩ := hlater
  refine ⟨gone ++ gone', ?_, ?_⟩
  · rw [hbefore, hbetween, List.append_assoc]
  · rw [List.filter_append, List.map_append, List.map_append, hgone, hgone']

/-- A document that is answered was received. -/
theorem received_of_exchange {n : Network} {r : Request} {status : Nat} {body : String} {tree : Tree}
    (h : (n.exchange r).1 = .ok (status, body)) (hstatus : 200 ≤ status ∧ status < 300)
    (hread : Json.readWhole? body = some tree) : n.Received (n.exchange r).2 [tree] := by
  obtain ⟨_, moves, _, _, hwaited, _, _, hanswer⟩ := n.exchange_spec r
  obtain ⟨location, rfl⟩ := hanswer status body h
  have hdocument : (Reply.answer status location body).document? = some tree := by rw [Reply.document?, if_pos hstatus, hread]
  refine ⟨moves ++ [.answer status location body], hwaited.replies, ?_⟩
  have hmoves : moves.filter (fun reply => !reply.isMove) = [] :=
    List.filter_eq_nil_iff.2 fun reply hreply => by rw [hwaited.isMove reply hreply]; decide
  have hlast : (Reply.answer status location body).isMove = false := by
    rw [Reply.isMove, Reply.target?_of_document hdocument]
    rfl
  rw [List.filter_append, hmoves, List.filter_cons_of_pos (by rw [hlast]; rfl)]
  exact congrArg (fun document => [document]) hdocument

/-! ## How many requests are made -/

/-- Between two states of a network so many requests of the ledger were made at most. Each of them was made onward only so
often, and all together not more often than replies pointed to other addresses. -/
def RequestsAtMost (limit : Nat) (before after : Network) : Prop :=
  ∃ new gone, after.contacts = before.contacts ++ new ∧ before.replies = gone ++ after.replies ∧
    new.countP Contact.isOwn ≤ limit ∧
    new.countP (fun contact => !contact.isOwn) ≤ min (limit * maxMoves) (gone.countP Reply.isMove)

namespace RequestsAtMost

variable {before between after : Network} {limit first later : Nat}

theorem refl (limit : Nat) (n : Network) : n.RequestsAtMost limit n :=
  ⟨[], [], (List.append_nil _).symm, rfl, Nat.zero_le _, Nat.zero_le _⟩

theorem append (hfirst : before.RequestsAtMost first between) (hlater : between.RequestsAtMost later after) :
    before.RequestsAtMost (first + later) after := by
  obtain ⟨new, gone, hcontacts, hreplies, hown, honward⟩ := hfirst
  obtain ⟨new', gone', hcontacts', hreplies', hown', honward'⟩ := hlater
  refine ⟨new ++ new', gone ++ gone', ?_, ?_, ?_, ?_⟩
  · rw [hcontacts', hcontacts, List.append_assoc]
  · rw [hreplies, hreplies', List.append_assoc]
  · rw [List.countP_append]
    exact Nat.add_le_add hown hown'
  · rw [List.countP_append, List.countP_append, Nat.add_mul]
    omega

end RequestsAtMost

/-- In an exchange one request of the ledger is made at most. -/
theorem exchange_requestsAtMost (n : Network) (r : Request) : n.RequestsAtMost 1 (n.exchange r).2 := by
  obtain ⟨own, moves, last, onward, hwaited, hown, hlimit, _⟩ := n.exchange_spec r
  refine ⟨own ++ onward.map .onward, moves ++ last.toList, ?_, hwaited.replies, ?_, ?_⟩
  · rw [hwaited.contacts, List.append_assoc]
  · rw [List.countP_append, Contact.countP_isOwn_onward]
    rcases hown with rfl | rfl
    · exact Nat.zero_le 1
    · exact Nat.le_refl 1
  · have hnone : own.countP (fun contact => !contact.isOwn) = 0 := by
      rcases hown with rfl | rfl <;> rfl
    have hmoves : moves.countP Reply.isMove = onward.length :=
      (List.countP_eq_length.2 hwaited.isMove).trans hwaited.length.symm
    rw [List.countP_append, List.countP_append, Contact.countP_onward, hnone, hmoves]
    omega

/-! ## What is asked -/

/-- The documents that the other side has seen. -/
def questions (n : Network) : List Tree :=
  n.contacts.filterMap Contact.question?

/-- In an exchange the other side sees the document that is sent, as often as it is sent, and no other. -/
theorem exchange_questions (n : Network) (r : Request) :
    ∃ asked : List Tree, (n.exchange r).2.questions = n.questions ++ asked ∧
      ∀ question ∈ asked, r.body = some question := by
  obtain ⟨own, _, _, onward, hwaited, hown, _, _⟩ := n.exchange_spec r
  refine ⟨(own ++ onward.map Contact.onward).filterMap Contact.question?, ?_, fun question hquestion => ?_⟩
  · unfold questions
    rw [hwaited.contacts, List.append_assoc, List.filterMap_append]
  · obtain ⟨contact, hcontact, hasks⟩ := List.mem_filterMap.1 hquestion
    rcases List.mem_append.1 hcontact with hmem | hmem
    · rcases hown with rfl | rfl
      · cases hmem
      · rw [List.mem_singleton.1 hmem] at hasks
        exact hasks
    · obtain ⟨next, hnext, rfl⟩ := List.mem_map.1 hmem
      have hsame : next.body = some question := hasks
      rcases hwaited.body next hnext with hbody | hbody
      · exact hbody.symm.trans hsame
      · rw [hbody] at hsame
        cases hsame

end Network

end SpendLedger
