import SpendLedger.World

/-!
# Running actions

An action is a chain of steps, of which the first that fails ends the chain. What a chain does is said step by step: what
each step answers, which state it leaves, and which part of the state it keeps.
-/

namespace SpendLedger

namespace Action

variable {σ α β γ : Type}

/-- What an action does to a state: its answer and the state after it. -/
def run (s : σ) (a : Action σ α) : Except Failure α × σ :=
  StateT.run (ExceptT.run a) s

/-! ## Single steps -/

/-- A step that only answers leaves the state alone. -/
@[simp] theorem run_pure (s : σ) (x : α) : run s (pure x) = (.ok x, s) := rfl

@[simp] theorem run_throw (s : σ) (e : Failure) : run s (throw e : Action σ α) = (.error e, s) := rfl

@[simp] theorem run_lift (s : σ) (r : Except Failure α) : run s (liftM r) = (r, s) := rfl

@[simp] theorem run_get (s : σ) : run s get = (.ok s, s) := rfl

@[simp] theorem run_modify (s : σ) (f : σ → σ) : run s (modify f) = (.ok (), f s) := rfl

/-- A chain goes on where its first part stopped, unless that failed. -/
theorem run_bind (s : σ) (a : Action σ α) (f : α → Action σ β) :
    run s (a >>= f) = match run s a with
      | (.ok x, s') => run s' (f x)
      | (.error e, s') => (.error e, s') := by
  show StateT.run (ExceptT.run (a >>= f)) s = _
  rw [ExceptT.run_bind, StateT.run_bind]
  unfold run
  cases h : StateT.run (ExceptT.run a) s with
  | mk answer s' => cases answer <;> rfl

/-- A chain whose first part answers goes on from there. -/
theorem run_bind_of_ok {s s' : σ} {a : Action σ α} {x : α} (h : run s a = (.ok x, s')) (f : α → Action σ β) :
    run s (a >>= f) = run s' (f x) := by
  rw [run_bind, h]

theorem run_bind_of_error {s s' : σ} {a : Action σ α} {e : Failure} (h : run s a = (.error e, s'))
    (f : α → Action σ β) : run s (a >>= f) = (.error e, s') := by
  rw [run_bind, h]

/-- In a chain that answers, the first part answered. -/
theorem run_bind_eq_ok {s t : σ} {a : Action σ α} {f : α → Action σ β} {y : β} (h : run s (a >>= f) = (.ok y, t)) :
    ∃ x s', run s a = (.ok x, s') ∧ run s' (f x) = (.ok y, t) := by
  rw [run_bind] at h
  cases ha : run s a with
  | mk answer s' =>
    rw [ha] at h
    cases answer with
    | error e => simp at h
    | ok x => exact ⟨x, s', rfl, h⟩

/-- In a chain that answers after a part that does not touch the state, that part answered. -/
theorem run_lift_bind_eq_ok {s t : σ} {r : Except Failure α} {f : α → Action σ β} {y : β}
    (h : run s (liftM r >>= f) = (.ok y, t)) : ∃ x, r = .ok x ∧ run s (f x) = (.ok y, t) := by
  rw [run_bind, run_lift] at h
  cases r with
  | error e => simp at h
  | ok x => exact ⟨x, rfl, h⟩

/-- An attempt goes on with its remedy where it failed, in the state in which it failed. -/
theorem run_tryCatch (s : σ) (a : Action σ α) (remedy : Failure → Action σ α) :
    run s (tryCatch a remedy) = match run s a with
      | (.ok x, s') => (.ok x, s')
      | (.error e, s') => run s' (remedy e) := by
  show StateT.run (ExceptT.run (tryCatch a remedy)) s = _
  rw [ExceptT.run_tryCatch, StateT.run_bind]
  unfold run
  cases h : StateT.run (ExceptT.run a) s with
  | mk answer s' => cases answer <;> rfl

/-! ## What is kept -/

/-- An action never changes a part of the state, whether it fails or not. -/
def Keeps (view : σ → γ) (a : Action σ α) : Prop :=
  ∀ s, view (run s a).2 = view s

namespace Keeps

variable {view : σ → γ}

/-- A step that only answers keeps everything. -/
theorem pure (x : α) : Keeps view (pure x) :=
  fun _ => rfl

theorem throw (e : Failure) : Keeps view (throw e : Action σ α) :=
  fun _ => rfl

theorem lift (r : Except Failure α) : Keeps view (liftM r : Action σ α) :=
  fun _ => rfl

theorem get : Keeps view (get : Action σ σ) :=
  fun _ => rfl

/-- A chain keeps what its parts keep. -/
theorem bind {a : Action σ α} {f : α → Action σ β} (ha : Keeps view a) (hf : ∀ x, Keeps view (f x)) :
    Keeps view (a >>= f) := by
  intro s
  have hfirst := ha s
  rw [run_bind]
  cases h : run s a with
  | mk answer s' =>
    rw [h] at hfirst
    cases answer with
    | error e => exact hfirst
    | ok x => exact (hf x s').trans hfirst

end Keeps

end Action

namespace World

variable {α γ : Type}

/-- An answer of the store comes from the store as it is, which stays. -/
@[simp] theorem run_read (w : World) (f : Store Float → Except Failure α) : Action.run w (read f) = (f w.store, w) := by
  unfold read
  rw [Action.run_bind_of_ok (Action.run_get w)]
  cases f w.store <;> rfl

@[simp] theorem run_note (w : World) (level : Level) (channel : Channel) (message : String)
    (values : List (String × String)) : Action.run w (note level channel message values) =
      (.ok (), { w with journal := w.journal ++ [⟨level, channel, message, values⟩] }) := rfl

/-- Telling about something keeps what does not look at the journal. -/
theorem keeps_note {view : World → γ} (hview : ∀ w journal, view { w with journal } = view w) (level : Level)
    (channel : Channel) (message : String) (values : List (String × String)) :
    Action.Keeps view (note level channel message values) :=
  fun w => hview w _

end World

end SpendLedger
