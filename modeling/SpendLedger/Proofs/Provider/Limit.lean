import SpendLedger.Proofs.Provider.Paging

/-!
# Where following pages stops

Whatever a fetch does with its state, pages are fetched along the cursors that they name until one names none, one fails, or
fifty have been fetched and another is still named. These are all the ways to stop, and each page is fetched once.

How often pages are fetched is counted beside the state of the fetch: the pages that a counting fetch leads to are those of
the fetch itself, with the count of them (`LeadsTo.counting`).
-/

namespace SpendLedger

namespace Provider

variable {σ γ : Type}

/-- Pages that are fetched one after the other from a first cursor and state and that all name the next one. They lead to the
cursor that the last of them names and to the state that it leaves; no pages lead to where they start. -/
inductive LeadsTo (fetch : γ → Action σ (List UsageRow × Option γ)) : γ → σ → List (List UsageRow) → γ → σ → Prop where
  | start (cursor : γ) (s : σ) : LeadsTo fetch cursor s [] cursor s
  | more {cursor next last : γ} {s t u : σ} {page : List UsageRow} {pages : List (List UsageRow)}
      (h : Action.run s (fetch cursor) = (.ok (page, some next), t)) (later : LeadsTo fetch next t pages last u) :
      LeadsTo fetch cursor s (page :: pages) last u

/-- A fetch that counts how often it is made, beside the state. -/
def counting (fetch : γ → Action σ (List UsageRow × Option γ)) (cursor : γ) :
    Action (σ × Nat) (List UsageRow × Option γ) :=
  fun s => ((Action.run s.1 (fetch cursor)).1, (Action.run s.1 (fetch cursor)).2, s.2 + 1)

/-- Following pages stops with an answer and in a state after a number of fetches. -/
structure StopsAfter (p : Provider) (first : γ) (fetch : γ → Action σ (List UsageRow × Option γ)) (s : σ)
    (answer : Except Failure (List UsageRow)) (t : σ) (fetches : Nat) : Prop where
  run : Action.run s (collectPages p first fetch) = (answer, t)
  /-- They are the same when fetches are counted, and the count goes from zero to the number. -/
  count : Action.run (s, 0) (collectPages p first (counting fetch)) = (answer, t, fetches)

variable {p : Provider} {fetch : γ → Action σ (List UsageRow × Option γ)} {first cursor : γ} {s t u : σ}
  {pages : List (List UsageRow)}

/-! ## Pages on the way -/

/-- Pages that lead on lead to what the later ones lead to from where the earlier ones do. -/
theorem LeadsTo.split {earlier later : List (List UsageRow)} (h : LeadsTo fetch first s (earlier ++ later) cursor t) :
    ∃ middle v, LeadsTo fetch first s earlier middle v ∧ LeadsTo fetch middle v later cursor t := by
  induction earlier generalizing first s with
  | nil => exact ⟨first, s, .start first s, h⟩
  | cons page earlier ih =>
    cases h with
    | more hfetch hrest =>
      obtain ⟨middle, v, hearlier, hlater⟩ := ih hrest
      exact ⟨middle, v, .more hfetch hearlier, hlater⟩

/-- All pages of a chain but the last lead to the last one. -/
theorem Chain.leadsTo (h : Chain fetch first s pages u) :
    ∃ earlier page cursor t, pages = earlier ++ [page] ∧ LeadsTo fetch first s earlier cursor t ∧
      Action.run t (fetch cursor) = (.ok (page, none), u) := by
  induction h with
  | last hfetch => exact ⟨[], _, _, _, rfl, .start _ _, hfetch⟩
  | more hfetch _ ih =>
    obtain ⟨earlier, page, cursor, t, hpages, hearlier, hlast⟩ := ih
    exact ⟨_ :: earlier, page, cursor, t, congrArg _ hpages, .more hfetch hearlier, hlast⟩

/-- A counting fetch fetches, and counts one more. -/
theorem run_counting (fetch : γ → Action σ (List UsageRow × Option γ)) (cursor : γ) (s : σ) (n : Nat) :
    Action.run (s, n) (counting fetch cursor) =
      ((Action.run s (fetch cursor)).1, (Action.run s (fetch cursor)).2, n + 1) := rfl

/-- What pages lead to they lead to when they are counted, and the count grows by their number. -/
theorem LeadsTo.counting (h : LeadsTo fetch first s pages cursor t) (n : Nat) :
    LeadsTo (counting fetch) first (s, n) pages cursor (t, n + pages.length) := by
  induction h generalizing n with
  | start cursor s => exact .start cursor (s, n)
  | @more _ _ _ _ _ _ page pages hfetch _ ih =>
    have hlength : n + (page :: pages).length = n + 1 + pages.length := by
      rw [List.length_cons]
      omega
    rw [hlength]
    refine .more (by rw [run_counting, hfetch]) (ih (n + 1))

/-- Following pages goes on from where the pages lead, with their rows and with less fuel by one for each. -/
theorem run_followPages_of_leadsTo (h : LeadsTo fetch first s pages cursor t) (fuel : Nat) (rows : List UsageRow) :
    Action.run s (followPages p fetch (pages.length + fuel) first rows) =
      Action.run t (followPages p fetch fuel cursor (rows ++ pages.flatten)) := by
  induction h generalizing rows with
  | start cursor s => rw [List.length_nil, Nat.zero_add, List.flatten_nil, List.append_nil]
  | more hfetch _ ih =>
    rw [List.length_cons, Nat.add_right_comm, run_followPages_succ, hfetch]
    simp only
    rw [ih, List.flatten_cons, List.append_assoc]

/-- However many pages are followed, that many name the next one, or fewer do and then one does not. -/
theorem exists_leadsTo (fetch : γ → Action σ (List UsageRow × Option γ)) (first : γ) (s : σ) (fuel : Nat) :
    ∃ pages cursor t, LeadsTo fetch first s pages cursor t ∧ (pages.length = fuel ∨ pages.length < fuel ∧
      ∀ page next u, Action.run t (fetch cursor) ≠ (.ok (page, some next), u)) := by
  induction fuel generalizing first s with
  | zero => exact ⟨[], first, s, .start first s, .inl rfl⟩
  | succ fuel ih =>
    by_cases hmore : ∃ page next t, Action.run s (fetch first) = (.ok (page, some next), t)
    · obtain ⟨page, next, t, hfetch⟩ := hmore
      obtain ⟨pages, cursor, u, hpages, hstop⟩ := ih next t
      refine ⟨page :: pages, cursor, u, .more hfetch hpages, ?_⟩
      exact hstop.imp (congrArg (· + 1)) (And.imp_left Nat.succ_lt_succ)
    · exact ⟨[], first, s, .start first s, .inr ⟨Nat.zero_lt_succ fuel, fun page next t h => hmore ⟨page, next, t, h⟩⟩⟩

/-! ## The ways to stop -/

/-- Fewer pages than the limit are followed by going on with fuel for one page at least. -/
theorem run_collectPages_of_leadsTo (p : Provider) (h : LeadsTo fetch first s pages cursor t)
    (hlength : pages.length < maxPages) : ∃ fuel, Action.run s (collectPages p first fetch) =
      Action.run t (followPages p fetch (fuel + 1) cursor pages.flatten) := by
  obtain ⟨fuel, hfuel⟩ := Nat.exists_eq_add_of_lt hlength
  refine ⟨fuel, ?_⟩
  rw [collectPages, hfuel, Nat.add_assoc, run_followPages_of_leadsTo h, List.nil_append]

/-- A page that names no other one is the last. -/
theorem LeadsTo.stops_at_last (h : LeadsTo fetch first s pages cursor t) (hlength : pages.length < maxPages)
    {page : List UsageRow} (hlast : Action.run t (fetch cursor) = (.ok (page, none), u)) :
    StopsAfter p first fetch s (.ok (pages ++ [page]).flatten) u (pages.length + 1) := by
  have hrows : (pages ++ [page]).flatten = pages.flatten ++ page := List.flatten_concat
  rw [hrows]
  constructor
  · obtain ⟨fuel, hrun⟩ := run_collectPages_of_leadsTo p h hlength
    rw [hrun, run_followPages_succ, hlast]
  · obtain ⟨fuel, hrun⟩ := run_collectPages_of_leadsTo p (h.counting 0) hlength
    rw [hrun, run_followPages_succ, run_counting, hlast, Nat.zero_add]

/-- A page that cannot be fetched is the last. -/
theorem LeadsTo.stops_at_failure (h : LeadsTo fetch first s pages cursor t) (hlength : pages.length < maxPages)
    {e : Failure} (hfails : Action.run t (fetch cursor) = (.error e, u)) :
    StopsAfter p first fetch s (.error e) u (pages.length + 1) := by
  constructor
  · obtain ⟨fuel, hrun⟩ := run_collectPages_of_leadsTo p h hlength
    rw [hrun, run_followPages_succ, hfails]
  · obtain ⟨fuel, hrun⟩ := run_collectPages_of_leadsTo p (h.counting 0) hlength
    rw [hrun, run_followPages_succ, run_counting, hfails, Nat.zero_add]

/-- As many pages as the limit allows that all name the next one are not followed further. -/
theorem LeadsTo.stops_at_limit (h : LeadsTo fetch first s pages cursor t) (hlength : pages.length = maxPages) :
    StopsAfter p first fetch s (.error p.endless) t maxPages := by
  have hrun := run_followPages_of_leadsTo (p := p) h 0 []
  have hcount := run_followPages_of_leadsTo (p := p) (h.counting 0) 0 []
  rw [Nat.add_zero, hlength] at hrun hcount
  rw [Nat.zero_add] at hcount
  exact ⟨hrun, hcount⟩

/-- Pages are followed along the cursors that they name, at most fifty of them, whatever fetching a page does to its state.
1. If fewer than fifty pages name the next one and the page after them names none, the answer is the rows of all these pages
   in order, after one fetch for each.
2. If fewer than fifty pages name the next one and the fetch after them fails, that failure is the answer, after one fetch
   for each page and the one that failed.
3. If fifty pages name the next one, the answer is a failure of the transport of the provider, after fifty fetches.
4. One of these is always so.
5. So a chain of pages answers with its rows if it has at most fifty pages, and one that is longer fails.
No failure comes with rows, and the state is that after the last fetch. -/
theorem collectPages_stops (p : Provider) (first : γ) (fetch : γ → Action σ (List UsageRow × Option γ)) (s : σ) :
    let endless := Failure.transport p.name none "result still paginated after 50 pages; range not stored"
    (∀ pages cursor t, LeadsTo fetch first s pages cursor t → pages.length < 50 →
      (∀ page u, Action.run t (fetch cursor) = (.ok (page, none), u) →
        StopsAfter p first fetch s (.ok (pages ++ [page]).flatten) u (pages.length + 1)) ∧
      ∀ e u, Action.run t (fetch cursor) = (.error e, u) →
        StopsAfter p first fetch s (.error e) u (pages.length + 1)) ∧
    (∀ pages cursor t, LeadsTo fetch first s pages cursor t → pages.length = 50 →
      StopsAfter p first fetch s (.error endless) t 50) ∧
    (∃ pages cursor t, LeadsTo fetch first s pages cursor t ∧ (pages.length = 50 ∨ pages.length < 50 ∧
      ((∃ page u, Action.run t (fetch cursor) = (.ok (page, none), u)) ∨
        ∃ e u, Action.run t (fetch cursor) = (.error e, u)))) ∧
    ∀ pages u, Chain fetch first s pages u →
      if pages.length ≤ 50 then StopsAfter p first fetch s (.ok pages.flatten) u pages.length
      else ∃ t, StopsAfter p first fetch s (.error endless) t 50 := by
  intro endless
  refine ⟨fun pages cursor t h hlength => ⟨fun page u hlast => h.stops_at_last hlength hlast,
    fun e u hfails => h.stops_at_failure hlength hfails⟩, fun pages cursor t h hlength => h.stops_at_limit hlength, ?_, ?_⟩
  · obtain ⟨pages, cursor, t, hpages, hstop⟩ := exists_leadsTo fetch first s 50
    refine ⟨pages, cursor, t, hpages, hstop.imp_right (And.imp_right fun hnext => ?_)⟩
    cases hfetch : Action.run t (fetch cursor) with
    | mk answer u =>
      cases answer with
      | error e => exact .inr ⟨e, u, rfl⟩
      | ok found =>
        obtain ⟨page, next⟩ := found
        cases next with
        | none => exact .inl ⟨page, u, rfl⟩
        | some next => exact absurd hfetch (hnext page next u)
  · intro pages u hchain
    obtain ⟨earlier, page, cursor, t, rfl, hearlier, hlast⟩ := hchain.leadsTo
    rw [List.length_append, List.length_singleton]
    split
    next hlength => exact hearlier.stops_at_last hlength hlast
    next hlength =>
      -- the fifty pages that are fetched are not the last one
      have hlong : 50 ≤ earlier.length := by omega
      rw [← List.take_append_drop 50 earlier] at hearlier
      obtain ⟨_, t, hfetched, _⟩ := hearlier.split
      exact ⟨t, hfetched.stops_at_limit (List.length_take_of_le hlong)⟩

/-- A page with one row. -/
def onePage : List UsageRow := [⟨"Storage", none, 1, "USD", ⟨2024, 5, 4, by decide⟩⟩]

/-- A fetch whose cursor tells how many pages are left after this one. -/
def countdown : Nat → Action Unit (List UsageRow × Option Nat)
  | 0 => pure (onePage, none)
  | left + 1 => pure (onePage, some left)

/-- The chain of such a fetch has one page more than are left after the first. -/
theorem chain_countdown (left : Nat) : Chain countdown left () (List.replicate (left + 1) onePage) () := by
  induction left with
  | zero => exact .last rfl
  | succ left ih => exact .more rfl ih

/-- Fifty pages are all fetched, and of fifty-one pages fifty are fetched for nothing. -/
theorem countdown_stops :
    StopsAfter azure 49 countdown () (.ok (List.replicate 50 onePage).flatten) () 50 ∧
      ∃ t, StopsAfter azure 50 countdown ()
        (.error (.transport azure.name none "result still paginated after 50 pages; range not stored")) t 50 := by
  constructor
  · have hstops := (collectPages_stops azure 49 countdown ()).2.2.2 _ () (chain_countdown 49)
    rwa [if_pos (by simp), List.length_replicate] at hstops
  · have hstops := (collectPages_stops azure 50 countdown ()).2.2.2 _ () (chain_countdown 50)
    rwa [if_neg (by simp)] at hstops

end Provider

end SpendLedger
