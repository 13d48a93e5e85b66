import SpendLedger.Proofs.Provider.Listing

/-!
# Estimates of the month to come

A provider's estimate is read from one document that was received. To ask for it takes one request at most, and changes
nothing in a world but its network and its journal.
-/

namespace SpendLedger

namespace Action

variable {α β : Type}

/-- So many requests are made by an action at most, whether it fails or not. -/
def RequestsAtMost (limit : Nat) (a : Action World α) : Prop :=
  ∀ w : World, w.network.RequestsAtMost limit (run w a).2.network

namespace RequestsAtMost

/-- An action that leaves the network as it is makes no request. -/
theorem of_keeps {a : Action World α} (h : Keeps World.network a) (limit : Nat) : RequestsAtMost limit a := by
  intro w
  have hkept : (run w a).2.network = w.network := h w
  rw [hkept]
  exact .refl limit w.network

/-- The requests of a chain are those of its parts. -/
theorem bind {first later : Nat} {a : Action World α} {f : α → Action World β} (ha : RequestsAtMost first a)
    (hf : ∀ x, RequestsAtMost later (f x)) : RequestsAtMost (first + later) (a >>= f) := by
  intro w
  have hfirst := ha w
  rw [run_bind]
  cases h : run w a with
  | mk answer between =>
    rw [h] at hfirst
    cases answer with
    | error e => exact hfirst.append (.refl later between.network)
    | ok x => exact hfirst.append (hf x between)

/-- Before an action a step that makes no request makes no difference. -/
theorem after {limit : Nat} {a : Action World α} {f : α → Action World β} (ha : Keeps World.network a)
    (hf : ∀ x, RequestsAtMost limit (f x)) : RequestsAtMost limit (a >>= f) :=
  Nat.zero_add limit ▸ (of_keeps ha 0).bind hf

/-- Behind an action a step that makes no request makes no difference. -/
theorem before {limit : Nat} {a : Action World α} {f : α → Action World β} (ha : RequestsAtMost limit a)
    (hf : ∀ x, Keeps World.network (f x)) : RequestsAtMost limit (a >>= f) :=
  ha.bind fun x => of_keeps (hf x) 0

end RequestsAtMost

end Action

namespace Provider

open SpendLedger.Action

variable {γ : Type} {view : World → γ}

/-- Telling about something leaves the network as it is. -/
theorem network_note (level : Level) (channel : Channel) (message : String) (values : List (String × String)) :
    Keeps World.network (World.note level channel message values) :=
  World.keeps_note (fun _ _ => rfl) level channel message values

/-- To send a document takes one request at most. -/
theorem requests_post (p : Provider) (url : Url) (headers : List (String × String)) (body : Tree) :
    RequestsAtMost 1 (p.post url headers body) := by
  intro w
  cases hsend : unsendable? url headers with
  | some fault =>
    rw [run_post_of_unsendable hsend]
    exact .refl 1 w.network
  | none =>
    rw [run_post hsend]
    exact w.network.exchange_requestsAtMost _

theorem requests_postTo (p : Provider) (url : String) (headers : List (String × String)) (body : Tree) :
    RequestsAtMost 1 (p.postTo url headers body) := by
  unfold postTo
  split
  · exact requests_post p _ headers body
  · exact .of_keeps (.throw _) 1

/-- A call of AWS takes one request at most. -/
theorem requests_awsCall (access : Access) (target : String) (question : Tree) :
    RequestsAtMost 1 (Aws.call access target question) :=
  .after (.lift _) fun _ => .after (.lift _) fun _ => .after .get fun _ => .after (.lift _) fun _ =>
    .after (network_note _ _ _ _) fun _ => requests_post _ _ _ _

/-- To ask a provider for its estimate takes one request at most. -/
theorem requests_forecast (p : Provider) (access : Access) : RequestsAtMost 1 (p.forecast access) := by
  cases p with
  | azure =>
    exact .after .get fun _ => .after (.lift _) fun _ => .before (requests_postTo _ _ _ _) fun _ => .lift _
  | aws =>
    refine .after .get fun _ => .before (requests_awsCall _ _ _) fun body => ?_
    cases Aws.forecastOf? body with
    | none => exact .throw _
    | some estimate => exact .pure _
  | gcp => exact .of_keeps (.throw _) 1

/-- To ask a provider for its estimate keeps what is not seen of the network and the journal. -/
theorem keeps_forecast (hview : World.Inner view) (p : Provider) (access : Access) :
    Keeps view (p.forecast access) := by
  cases p with
  | azure =>
    exact .bind .get fun _ => .bind (.lift _) fun _ => .bind (keeps_postTo hview _ _ _ _) fun _ => .lift _
  | aws =>
    refine .bind .get fun _ => .bind (keeps_awsCall hview _ _ _) fun body => ?_
    cases Aws.forecastOf? body with
    | none => exact .throw _
    | some estimate => exact .pure _
  | gcp => exact .throw _

/-- The estimate that a document tells on a day, if any. GCP has none. -/
def estimateOf? (p : Provider) (today : Date) (body : Tree) : Option Float :=
  match p with
  | azure => (Azure.forecastTotal body today).toOption
  | aws => Aws.forecastOf? body
  | gcp => none

/-- An estimate is told by a document that was received. -/
theorem forecast_eq_ok {p : Provider} {access : Access} {w after : World} {estimate : Float}
    (h : Action.run w (p.forecast access) = (.ok estimate, after)) :
    ∃ body, w.network.Received after.network [body] ∧ p.estimateOf? w.today body = some estimate := by
  cases p with
  | azure =>
    unfold forecast Azure.forecast at h
    rw [run_bind_of_ok (run_get w)] at h
    obtain ⟨url, _, h⟩ := run_lift_bind_eq_ok h
    obtain ⟨body, between, hpost, h⟩ := run_bind_eq_ok h
    rw [run_lift] at h
    obtain ⟨htotal, rfl⟩ := Prod.mk.inj h
    exact ⟨body, postTo_eq_ok hpost, congrArg Except.toOption htotal⟩
  | aws =>
    unfold forecast Aws.forecast at h
    rw [run_bind_of_ok (run_get w)] at h
    obtain ⟨body, between, hcall, h⟩ := run_bind_eq_ok h
    cases hbody : Aws.forecastOf? body with
    | none =>
      rw [hbody] at h
      cases h
    | some told =>
      rw [hbody] at h
      obtain ⟨htold, rfl⟩ := Prod.mk.inj h
      exact ⟨body, awsCall_eq_ok hcall, hbody.trans (congrArg some (Except.ok.inj htold))⟩
  | gcp => cases h

end Provider

end SpendLedger
