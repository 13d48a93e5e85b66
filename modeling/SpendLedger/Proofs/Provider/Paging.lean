import SpendLedger.Proofs.World
import SpendLedger.Provider.Paging

/-!
# Following pages

An answer in pages is the rows of a chain of pages: the first is fetched with the first cursor, each further one with the
cursor of the one before it, and the last has no cursor. Following pages answers with the rows of such a chain that fits
the limit, and with nothing else.
-/

namespace SpendLedger

namespace Provider

variable {σ γ δ : Type}

/-- Pages that are fetched one after the other, each in the state that the one before it left and with the cursor that it
named; the last one names none. -/
inductive Chain (fetch : γ → Action σ (List UsageRow × Option γ)) : γ → σ → List (List UsageRow) → σ → Prop where
  | last {cursor : γ} {s t : σ} {page : List UsageRow} (h : Action.run s (fetch cursor) = (.ok (page, none), t)) :
      Chain fetch cursor s [page] t
  | more {cursor next : γ} {s t u : σ} {page : List UsageRow} {pages : List (List UsageRow)}
      (h : Action.run s (fetch cursor) = (.ok (page, some next), t)) (later : Chain fetch next t pages u) :
      Chain fetch cursor s (page :: pages) u

/-- A chain begins with the page of its first cursor, and ends there or goes on as that page says. -/
theorem chain_iff {fetch : γ → Action σ (List UsageRow × Option γ)} {cursor : γ} {s u : σ}
    {pages : List (List UsageRow)} :
    Chain fetch cursor s pages u ↔ match Action.run s (fetch cursor) with
      | (.ok (page, some next), t) => ∃ later, pages = page :: later ∧ Chain fetch next t later u
      | (.ok (page, none), t) => pages = [page] ∧ u = t
      | (.error _, _) => False := by
  constructor
  · intro h
    cases h with
    | last h =>
      rw [h]
      exact ⟨rfl, rfl⟩
    | more h later =>
      rw [h]
      exact ⟨_, rfl, later⟩
  · intro h
    split at h
    next page next t hfetch =>
      obtain ⟨later, rfl, hlater⟩ := h
      exact .more hfetch hlater
    next page t hfetch =>
      obtain ⟨rfl, rfl⟩ := h
      exact .last hfetch
    next => exact h.elim

theorem Chain.ne_nil {fetch : γ → Action σ (List UsageRow × Option γ)} {cursor : γ} {s t : σ}
    {pages : List (List UsageRow)} (h : Chain fetch cursor s pages t) : pages ≠ [] := by
  cases h <;> simp

/-- With fuel left, pages are followed by fetching one and going on where it says. -/
theorem run_followPages_succ (p : Provider) (fetch : γ → Action σ (List UsageRow × Option γ)) (fuel : Nat)
    (cursor : γ) (rows : List UsageRow) (s : σ) :
    Action.run s (followPages p fetch (fuel + 1) cursor rows) = match Action.run s (fetch cursor) with
      | (.ok (page, some next), t) => Action.run t (followPages p fetch fuel next (rows ++ page))
      | (.ok (page, none), t) => (.ok (rows ++ page), t)
      | (.error e, t) => (.error e, t) := by
  rw [followPages, Action.run_bind]
  cases Action.run s (fetch cursor) with
  | mk answer t =>
    cases answer with
    | error e => rfl
    | ok found =>
      obtain ⟨page, next⟩ := found
      cases next <;> rfl

/-- Following pages answers exactly with the rows of a chain of pages that the fuel is enough for. -/
theorem followPages_eq_ok_iff {p : Provider} {fetch : γ → Action σ (List UsageRow × Option γ)} {fuel : Nat}
    {cursor : γ} {rows all : List UsageRow} {s t : σ} :
    Action.run s (followPages p fetch fuel cursor rows) = (.ok all, t) ↔
      ∃ pages, Chain fetch cursor s pages t ∧ pages.length ≤ fuel ∧ all = rows ++ pages.flatten := by
  induction fuel generalizing cursor rows s with
  | zero =>
    constructor
    · intro h
      cases h
    · rintro ⟨pages, hchain, hlength, _⟩
      exact absurd (List.eq_nil_of_length_eq_zero (Nat.le_zero.1 hlength)) hchain.ne_nil
  | succ fuel ih =>
    have hchain : ∀ pages, Chain fetch cursor s pages t ↔ _ := fun _ => chain_iff
    rw [run_followPages_succ]
    cases hfetch : Action.run s (fetch cursor) with
    | mk answer t' =>
      simp only [hfetch] at hchain
      simp only [hchain]
      cases answer with
      | error e =>
        constructor
        · intro h
          cases h
        · rintro ⟨_, hfalse, _⟩
          exact hfalse.elim
      | ok found =>
        obtain ⟨page, next⟩ := found
        cases next with
        | none =>
          constructor
          · intro h
            cases h
            exact ⟨[page], ⟨rfl, rfl⟩, by simp, by simp⟩
          · rintro ⟨_, ⟨rfl, rfl⟩, _, rfl⟩
            simp
        | some next =>
          refine ih.trans ?_
          constructor
          · rintro ⟨later, hlater, hlength, rfl⟩
            exact ⟨page :: later, ⟨later, rfl, hlater⟩, by simpa using hlength, by simp⟩
          · rintro ⟨_, ⟨later, rfl, hlater⟩, hlength, rfl⟩
            exact ⟨later, hlater, by simpa using hlength, by simp⟩

/-- Following pages keeps what fetching a page keeps. -/
theorem keeps_followPages {view : σ → δ} {p : Provider} {fetch : γ → Action σ (List UsageRow × Option γ)}
    (h : ∀ cursor, Action.Keeps view (fetch cursor)) (fuel : Nat) (cursor : γ) (rows : List UsageRow) :
    Action.Keeps view (followPages p fetch fuel cursor rows) := by
  induction fuel generalizing cursor rows with
  | zero => exact .throw _
  | succ fuel ih =>
    refine .bind (h cursor) fun found => ?_
    obtain ⟨page, next⟩ := found
    cases next with
    | none => exact .pure _
    | some next => exact ih next (rows ++ page)

end Provider

end SpendLedger
