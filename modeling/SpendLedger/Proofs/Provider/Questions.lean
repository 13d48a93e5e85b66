import SpendLedger.Proofs.Provider.Estimate

/-!
# What providers are asked

The other side sees the document of every request that gets through, also where the request is made at another address than
the first one. What a provider is asked in this way depends on nothing that comes back: whatever the replies are and whether
costs are answered or not, every document is the question for these costs, and so for forecasts.
-/

namespace SpendLedger

namespace Action

variable {α β : Type} {good : Tree → Prop}

/-- All documents that the other side sees of an action are good ones, whether it fails or not. -/
def Asks (good : Tree → Prop) (a : Action World α) : Prop :=
  ∀ w, ∃ asked : List Tree, (run w a).2.network.questions = w.network.questions ++ asked ∧ ∀ question ∈ asked, good question

namespace Asks

theorem of_keeps {a : Action World α} (h : Keeps World.network a) : Asks good a :=
  fun w => ⟨[], (congrArg Network.questions (h w)).trans (List.append_nil _).symm, nofun⟩

/-- A chain asks what its parts ask. -/
theorem bind {a : Action World α} {f : α → Action World β} (ha : Asks good a) (hf : ∀ x, Asks good (f x)) :
    Asks good (a >>= f) := by
  intro w
  obtain ⟨asked, hasked, hgood⟩ := ha w
  rw [run_bind]
  cases h : run w a with
  | mk answer between =>
    rw [h] at hasked
    cases answer with
    | error e => exact ⟨asked, hasked, hgood⟩
    | ok x =>
      obtain ⟨more, hmore, hgood'⟩ := hf x between
      refine ⟨asked ++ more, ?_, fun question hquestion => (List.mem_append.1 hquestion).elim (hgood _) (hgood' _)⟩
      have hbetween : between.network.questions = w.network.questions ++ asked := hasked
      rw [← List.append_assoc, ← hbetween]
      exact hmore

end Asks

end Action

namespace Provider

open SpendLedger.Action

variable {γ : Type} {good : Tree → Prop}

/-! ## Exchanges -/

/-- Sending a document asks this document. -/
theorem asks_post {body : Tree} (h : good body) (p : Provider) (url : Url) (headers : List (String × String)) :
    Asks good (p.post url headers body) := by
  intro w
  cases hsend : unsendable? url headers with
  | some fault =>
    rw [run_post_of_unsendable hsend]
    exact ⟨[], (List.append_nil _).symm, nofun⟩
  | none =>
    rw [run_post hsend]
    obtain ⟨asked, hasked, hbody⟩ := w.network.exchange_questions (posted url headers body)
    refine ⟨asked, hasked, fun question hquestion => ?_⟩
    obtain rfl : body = question := Option.some.inj (hbody question hquestion)
    exact h

theorem asks_postTo {body : Tree} (h : good body) (p : Provider) (url : String) (headers : List (String × String)) :
    Asks good (p.postTo url headers body) := by
  unfold postTo
  split
  · exact asks_post h p _ headers
  · exact .of_keeps (.throw _)

/-- A call of AWS asks its document. -/
theorem asks_awsCall {body : Tree} (h : good body) (access : Access) (target : String) :
    Asks good (Aws.call access target body) :=
  .bind (.of_keeps (.lift _)) fun _ => .bind (.of_keeps (.lift _)) fun _ => .bind (.of_keeps .get) fun _ =>
    .bind (.of_keeps (.lift _)) fun _ => .bind (.of_keeps (network_note _ _ _ _)) fun _ => asks_post h _ _ _

/-- Following pages asks what fetching a page asks. -/
theorem asks_followPages {p : Provider} {fetch : γ → Action World (List UsageRow × Option γ)}
    (h : ∀ cursor, Asks good (fetch cursor)) (fuel : Nat) (cursor : γ) (rows : List UsageRow) :
    Asks good (followPages p fetch fuel cursor rows) := by
  induction fuel generalizing cursor rows with
  | zero => exact .of_keeps (.throw _)
  | succ fuel ih =>
    refine .bind (h cursor) fun found => ?_
    obtain ⟨page, next⟩ := found
    cases next with
    | none => exact .of_keeps (.pure _)
    | some next => exact ih next (rows ++ page)

/-! ## Questions -/

/-- The questions of a provider for the costs of some days: one, or for AWS one for each token. -/
def IsCostQuestion (p : Provider) (first last : Date) (question : Tree) : Prop :=
  match p with
  | azure => question = Azure.costQuestion first last
  | aws => ∃ token, question = Aws.costQuestion first last token
  | gcp => question = Gcp.costQuestion first last

/-- The question of a provider for a forecast on a day; GCP is not asked. -/
def IsForecastQuestion (p : Provider) (today : Date) (question : Tree) : Prop :=
  match p with
  | azure => question = Azure.forecastQuestion today
  | aws => question = Aws.forecastQuestion today
  | gcp => False

/-- Asking for costs asks questions for these costs only, on every page. -/
theorem asks_costs (p : Provider) (access : Access) (first last : Date) :
    Asks (p.IsCostQuestion first last) (p.costs access first last) := by
  cases p with
  | azure =>
    have hquestion : azure.IsCostQuestion first last (Azure.costQuestion first last) := rfl
    have hpage : ∀ url, Asks (azure.IsCostQuestion first last) (Azure.page access first last url) := fun url =>
      .bind (.of_keeps (network_note _ _ _ _)) fun _ => .bind (asks_postTo hquestion _ _ _) fun _ => .of_keeps (.pure _)
    exact .bind (.of_keeps (.lift _)) fun _ => .bind (asks_followPages hpage _ _ _) fun _ => .of_keeps (.pure _)
  | aws =>
    have hpage : ∀ token, Asks (aws.IsCostQuestion first last) (Aws.page access first last token) := fun token =>
      .bind (asks_awsCall ⟨token, rfl⟩ _ _) fun _ => .of_keeps (.pure _)
    exact .bind (asks_followPages hpage _ _ _) fun _ => .of_keeps (.pure _)
  | gcp =>
    have hquestion : gcp.IsCostQuestion first last (Gcp.costQuestion first last) := rfl
    exact .bind (.of_keeps (.lift _)) fun _ => .bind (.of_keeps (network_note _ _ _ _)) fun _ =>
      .bind (asks_postTo hquestion _ _ _) fun _ => .of_keeps (.pure _)

/-- Asking for a forecast asks the question of the day on the clock only. -/
theorem asked_forecast (p : Provider) (access : Access) (w : World) :
    ∃ asked : List Tree, (run w (p.forecast access)).2.network.questions = w.network.questions ++ asked ∧
      ∀ question ∈ asked, p.IsForecastQuestion w.today question := by
  cases p with
  | azure =>
    have hquestion : azure.IsForecastQuestion w.today (Azure.forecastQuestion w.today) := rfl
    unfold forecast Azure.forecast
    rw [run_bind_of_ok (run_get w)]
    refine Asks.bind (.of_keeps (.lift _)) (fun url => ?_) w
    exact .bind (asks_postTo hquestion _ _ _) fun body => .of_keeps (.lift _)
  | aws =>
    have hquestion : aws.IsForecastQuestion w.today (Aws.forecastQuestion w.today) := rfl
    unfold forecast Aws.forecast
    rw [run_bind_of_ok (run_get w)]
    refine Asks.bind (asks_awsCall hquestion _ _) (fun body => ?_) w
    cases Aws.forecastOf? body with
    | none => exact .of_keeps (.throw _)
    | some estimate => exact .of_keeps (.pure _)
  | gcp => exact ⟨[], (List.append_nil _).symm, nofun⟩

end Provider

end SpendLedger
