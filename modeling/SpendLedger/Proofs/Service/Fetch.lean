import SpendLedger.Proofs.Provider.Listing
import SpendLedger.Proofs.Service.Append

/-!
# Fetching costs

Fetching appends all rows of all pages that a provider tells, or nothing. A failure can come from the account, the
credential, the address, any exchange, any page, the number of pages or any row; none of them leaves a row behind.
-/

namespace SpendLedger

namespace Service

/-- Telling that there are costs already changes the journal alone. -/
theorem run_noteStored (w : World) (account : String) (first last : Date) :
    ∃ journal, Action.run w (noteStored account first last) = (.ok (), { w with journal }) := by
  unfold noteStored
  rw [Action.run_bind_of_ok (Action.run_get w)]
  dsimp only
  split
  · exact ⟨_, World.run_note _ _ _ _ _⟩
  · exact ⟨w.journal, rfl⟩

/-- All that asking a provider and appending its answer can do. The provider fails, or the store refuses a record of its
answer, or the records of its answer are all that is new in the store. -/
theorem ingest_cases {s : Service} {account : String} {access : Provider.Access} {first last : Date} {w after : World}
    {answer : Except Failure Nat} (h : Action.run w (s.ingest account access first last) = (answer, after)) :
    (∃ e, Action.run w (s.provider.costs access first last) = (.error e, after) ∧ answer = .error e) ∨
      (∃ costs e, Action.run w (s.provider.costs access first last) = (.ok costs, after) ∧ answer = .error e ∧
        ∃ r ∈ costs.records account, ¬Store.Admits r) ∨
      ∃ costs middle, Action.run w (s.provider.costs access first last) = (.ok costs, middle) ∧
        answer = .ok costs.rows.length ∧ (∀ r ∈ costs.records account, Store.Admits r) ∧
        after.store = middle.store.withBatch (costs.records account) ∧ after.network = middle.network := by
  unfold ingest at h
  cases hcosts : Action.run w (s.provider.costs access first last) with
  | mk told middle =>
    cases told with
    | error e =>
      rw [Action.run_bind_of_error hcosts] at h
      cases h
      exact Or.inl ⟨e, rfl, rfl⟩
    | ok costs =>
      rw [Action.run_bind_of_ok hcosts] at h
      cases happend : Action.run middle (appendBatch (costs.records account)) with
      | mk inserted appended =>
        cases inserted with
        | error e =>
          rw [Action.run_bind_of_error happend] at h
          cases h
          obtain ⟨hbad, rfl⟩ := appendBatch_eq_error happend
          exact Or.inr (Or.inl ⟨costs, e, rfl, rfl, hbad⟩)
        | ok count =>
          rw [Action.run_bind_of_ok happend, Action.run_bind_of_ok (World.run_note _ _ _ _ _)] at h
          cases h
          obtain ⟨hadmits, rfl, hstored, hnetwork⟩ := appendBatch_eq_ok happend
          exact Or.inr (Or.inr ⟨costs, middle, rfl, congrArg Except.ok (List.length_map _), hadmits, hstored, hnetwork⟩)

/-- All that fetching can do. There is no account or no access to it, and nothing happens; or the provider is asked, with
the access of the account. -/
theorem fetch_cases {s : Service} {first last : Date} {w after : World} {answer : Except Failure Nat}
    (h : Action.run w (s.fetch first last) = (answer, after)) :
    (∃ e, s.account w = .error e ∧ answer = .error e ∧ after = w) ∨
      (∃ account e, s.account w = .ok account ∧ s.accessFor account w = .error e ∧ answer = .error e ∧ after = w) ∨
      ∃ account access journal, s.account w = .ok account ∧ s.accessFor account w = .ok access ∧
        Action.run { w with journal } (s.ingest account access first last) = (answer, after) := by
  unfold fetch at h
  rw [Action.run_bind_of_ok (Action.run_get w)] at h
  cases haccount : s.account w with
  | error e =>
    rw [haccount, Action.run_bind_of_error (Action.run_lift _ _)] at h
    cases h
    exact Or.inl ⟨e, rfl, rfl, rfl⟩
  | ok account =>
    rw [haccount, Action.run_bind_of_ok (Action.run_lift _ _), Action.run_bind_of_ok (Action.run_get w)] at h
    cases haccess : s.accessFor account w with
    | error e =>
      rw [haccess, Action.run_bind_of_error (Action.run_lift _ _)] at h
      cases h
      exact Or.inr (Or.inl ⟨account, e, rfl, haccess, rfl, rfl⟩)
    | ok access =>
      obtain ⟨journal, hnote⟩ := run_noteStored w account first last
      rw [haccess, Action.run_bind_of_ok (Action.run_lift _ _), Action.run_bind_of_ok hnote] at h
      exact Or.inr (Or.inr ⟨account, access, journal, rfl, haccess, h⟩)

/-- Why a fetch fails: what it needs is not there, or the provider fails, or it tells a row that the store refuses. -/
inductive FetchFault (s : Service) (first last : Date) (w : World) (e : Failure) : Prop where
  | account (h : s.account w = .error e)
  | access (account : String) (known : s.account w = .ok account) (h : s.accessFor account w = .error e)
  | provider (account : String) (access : Provider.Access) (journal : List Event) (after : World)
      (known : s.account w = .ok account) (granted : s.accessFor account w = .ok access)
      (h : Action.run { w with journal } (s.provider.costs access first last) = (.error e, after))
  | row (account : String) (access : Provider.Access) (journal : List Event) (after : World) (costs : ProviderCosts)
      (r : CostRecord Float) (known : s.account w = .ok account) (granted : s.accessFor account w = .ok access)
      (told : Action.run { w with journal } (s.provider.costs access first last) = (.ok costs, after))
      (mem : r ∈ costs.records account) (h : ¬Store.Admits r)

/-- Asking a provider leaves the store as it is. -/
theorem store_costs {p : Provider} {access : Provider.Access} {first last : Date} {w after : World}
    {told : Except Failure ProviderCosts} (h : Action.run w (p.costs access first last) = (told, after)) :
    after.store = w.store := by
  have hkept := Provider.keeps_costs World.inner_store p access first last w
  rwa [h] at hkept

/-- A fetch that fails has a fault and leaves the store as it was. -/
theorem fetch_eq_error {s : Service} {first last : Date} {w after : World} {e : Failure}
    (h : Action.run w (s.fetch first last) = (.error e, after)) :
    after.store = w.store ∧ FetchFault s first last w e := by
  rcases fetch_cases h with ⟨_, hnone, ⟨⟩, rfl⟩ | ⟨account, _, hknown, hnone, ⟨⟩, rfl⟩ |
    ⟨account, access, journal, hknown, hgranted, hingest⟩
  · exact ⟨rfl, .account hnone⟩
  · exact ⟨rfl, .access account hknown hnone⟩
  · rcases ingest_cases hingest with ⟨_, htold, ⟨⟩⟩ | ⟨costs, _, htold, ⟨⟩, r, hr, hbad⟩ | ⟨_, _, _, ⟨⟩, _⟩
    · have hkept := store_costs htold
      exact ⟨hkept, .provider account access journal after hknown hgranted htold⟩
    · have hkept := store_costs htold
      exact ⟨hkept, .row account access journal after costs r hknown hgranted htold hr hbad⟩

/-- A fetch that answers has asked the provider with the access of the account and appended the records of its costs. -/
theorem fetch_eq_ok {s : Service} {first last : Date} {w after : World} {count : Nat}
    (h : Action.run w (s.fetch first last) = (.ok count, after)) :
    ∃ account access journal middle costs, s.account w = .ok account ∧
      Action.run { w with journal } (s.provider.costs access first last) = (.ok costs, middle) ∧
      count = costs.rows.length ∧ after.store = w.store.withBatch (costs.records account) ∧
      after.network = middle.network := by
  rcases fetch_cases h with ⟨_, _, ⟨⟩, _⟩ | ⟨_, _, _, _, ⟨⟩, _⟩ | ⟨account, access, journal, hknown, _, hingest⟩
  rcases ingest_cases hingest with ⟨_, _, ⟨⟩⟩ | ⟨_, _, _, ⟨⟩, _⟩ | ⟨costs, middle, htold, ⟨⟩, _, hstored, hnetwork⟩
  rw [store_costs htold] at hstored
  exact ⟨account, access, journal, middle, costs, hknown, htold, rfl, hstored, hnetwork⟩

/-- The rows of the store that the rows of a provider become, for an account and under the numbers from `next` on. A
group without a name is none, and a negative zero loses its sign. -/
def storedRows (account : String) (next : Nat) (rows : List UsageRow) : List (CostRow Float) :=
  rows.mapIdx fun i row =>
    { id := next + i, account, group := row.group.filter (· ≠ ""), service := row.service
      cost := Binary64.withoutZeroSign row.cost, currency := row.currency, dateText := row.date.toText }

/-- What is stored of the records of costs is what is stored of their rows. -/
theorem numbered_records (costs : ProviderCosts) (account : String) (next : Nat) :
    Store.numbered next (costs.records account) = storedRows account next costs.rows := by
  unfold Store.numbered ProviderCosts.records storedRows
  refine List.ext_getElem (by simp) fun i _ _ => ?_
  rw [List.getElem_mapIdx, List.getElem_mapIdx, List.getElem_map, CostRow.mk.injEq]
  exact ⟨rfl, rfl, rfl, rfl, Binary64.add_zero _, rfl, rfl⟩

/-- Fetching is all or nothing, whatever the world and whatever is answered. A fetch that answers with a number has
received a listing of documents, and the store after it is the store before with that number of rows more: the rows of
the documents, in the order of the documents and of the rows in each, under the next numbers and for the account that
the service is used for. A fetch that fails has one of the faults that a fetch can have, and leaves the store as it
was. -/
theorem fetch_all_or_nothing (s : Service) (first last : Date) (w : World) :
    match World.run w (s.fetch first last) with
    | (.ok count, after) =>
      ∃ account documents, s.account w = .ok account ∧ w.network.Received after.network documents ∧
        Provider.IsListing s.provider.namesNext documents ∧
        count = (documents.flatMap (s.provider.rowsOf first)).length ∧
        after.store = { w.store with
          rows := w.store.rows ++ storedRows account w.store.nextRow (documents.flatMap (s.provider.rowsOf first))
          nextRow := w.store.nextRow + count }
    | (.error e, after) => after.store = w.store ∧ FetchFault s first last w e := by
  cases hrun : World.run w (s.fetch first last) with
  | mk answer after =>
    cases answer with
    | error e => exact fetch_eq_error hrun
    | ok count =>
      obtain ⟨account, access, journal, middle, costs, haccount, hcosts, hcount, hstore, hnetwork⟩ := fetch_eq_ok hrun
      obtain ⟨documents, hreceived, hlisting, hrows⟩ := Provider.costs_eq_ok hcosts
      rw [← hnetwork] at hreceived
      refine ⟨account, documents, haccount, hreceived, hlisting, by rw [hcount, hrows], ?_⟩
      have hlength : (costs.records account).length = costs.rows.length := List.length_map _
      rw [hstore, Store.withBatch, numbered_records, hlength, ← hcount, hrows]

/-- A project of which GCP tells nothing: a row of zero is fetched. -/
example :
    let w : World :=
      { store := Store.empty, clock := ⟨Date.min, 0, 0, 0⟩
        environment := Table.ofList [("GCP_PROJECT_ID", "project"), ("GOOGLE_AUTH_TOKEN", "token")]
        keyStore := .detached
        network := ⟨true, [.answer 200 none (Json.compact (.fields []))], []⟩, journal := [] }
    let s : Service := ⟨.gcp, Config.standard⟩
    (w.run (s.fetch Date.min Date.min)).1.toOption = some 1 := by
  decide +kernel

end Service

end SpendLedger
