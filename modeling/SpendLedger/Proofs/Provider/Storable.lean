import SpendLedger.Proofs.Ledger.Batch
import SpendLedger.Proofs.Provider.Listing

/-!
# Which costs can be stored

The store refuses a record without a service or a currency and one whose cost is no number, and with it the whole batch.
Providers fill in what a document leaves out, but not everything that a document can say: an empty service of AWS, an
empty currency of AWS or Azure and an amount that is written as the text of infinity or of no number go through as they
are. This module says for each provider which documents are free of that, and that the records of a listing can be stored
exactly if all its documents are.
-/

namespace SpendLedger

/-- A row with a service, a currency and a good cost. -/
def UsageRow.IsWhole (good : Float → Prop) (row : UsageRow) : Prop :=
  row.service ≠ "" ∧ row.currency ≠ "" ∧ good row.cost

namespace Provider

/-! ## Documents -/

/-- A value with something filled in for none is good exactly if it is good where it is given. -/
theorem getD_iff {β : Type} (good : β → Prop) {usual : β} (h : good usual) (o : Option β) :
    good (o.getD usual) ↔ ∀ x, o = some x → good x := by
  cases o with
  | none => simpa using h
  | some x => simp

/-- A text from which the empty one is removed, with something filled in, is not empty. -/
theorem getD_filter_ne {usual : String} (h : usual ≠ "") (o : Option String) : (o.filter (· ≠ "")).getD usual ≠ "" := by
  have hgood : ∀ s, o.filter (· ≠ "") = some s → s ≠ "" := by
    intro s hs
    simpa using (Option.filter_eq_some_iff.1 hs).2
  exact (getD_iff (· ≠ "") h _).2 hgood

/-- A document of Azure whose rows, as far as their costs can be read, have good costs and no empty currency. -/
def AzureWhole (good : Float → Prop) (body : Tree) : Prop :=
  ∀ properties, body.get? "properties" = some properties → ∀ row ∈ Azure.tableRows properties,
    ∀ cost, Azure.amountOf? (Azure.columnNames properties) row = some cost →
      (∀ currency, Azure.cellText? (Azure.columnNames properties) row .currency = some currency → currency ≠ "") ∧
        good cost

/-- A document of AWS whose costs, as far as their days can be read, have no empty service, no empty currency and good
amounts. -/
def AwsWhole (good : Float → Prop) (body : Tree) : Prop :=
  ∀ result ∈ Aws.resultsOf body, (Aws.dayOf? result).isSome → ∀ group ∈ Aws.groupsOf result,
    (∀ service, Aws.serviceOf? group = some service → service ≠ "") ∧
      (∀ currency, Aws.unitOf? group = some currency → currency ≠ "") ∧
      ∀ cost, Aws.amountOf? group = some cost → good cost

/-- A document of GCP whose sum is good. -/
def GcpWhole (good : Float → Prop) (body : Tree) : Prop :=
  ∀ cost, Gcp.amountOf? body = some cost → good cost

/-- A document of a provider that gives nothing empty and no cost that is not good. -/
def Whole (p : Provider) (good : Float → Prop) (body : Tree) : Prop :=
  match p with
  | azure => AzureWhole good body
  | aws => AwsWhole good body
  | gcp => GcpWhole good body

/-- The rows of a document of Azure are whole exactly if the document is. -/
theorem azureRows_whole_iff (good : Float → Prop) (first : Date) (body : Tree) :
    (∀ row ∈ Azure.rowsOf body first, row.IsWhole good) ↔ AzureWhole good body := by
  unfold Azure.rowsOf AzureWhole
  cases body.get? "properties" with
  | none => simp
  | some properties =>
    simp only [List.mem_filterMap, Option.some.injEq, forall_eq']
    constructor
    · intro h row hrow cost hcost
      obtain ⟨_, hcurrency, hgood⟩ := h _ ⟨row, hrow, by rw [Azure.usageRow?, hcost]; rfl⟩
      exact ⟨(getD_iff (· ≠ "") (by decide) _).1 hcurrency, hgood⟩
    · rintro h usage ⟨row, hrow, hread⟩
      unfold Azure.usageRow? at hread
      cases hcost : Azure.amountOf? (Azure.columnNames properties) row with
      | none =>
        rw [hcost] at hread
        cases hread
      | some cost =>
        rw [hcost] at hread
        cases hread
        obtain ⟨hcurrency, hgood⟩ := h row hrow cost hcost
        exact ⟨getD_filter_ne (by decide) _, (getD_iff (· ≠ "") (by decide) _).2 hcurrency, hgood⟩

/-- The rows of a document of AWS are whole exactly if the document is. -/
theorem awsRows_whole_iff {good : Float → Prop} (hzero : good (Float.ofNat 0)) (body : Tree) :
    (∀ row ∈ Aws.rowsOf body, row.IsWhole good) ↔ AwsWhole good body := by
  have hrow : ∀ date group, (Aws.usageRow date group).IsWhole good ↔
      (∀ service, Aws.serviceOf? group = some service → service ≠ "") ∧
        (∀ currency, Aws.unitOf? group = some currency → currency ≠ "") ∧
        ∀ cost, Aws.amountOf? group = some cost → good cost := by
    intro date group
    exact and_congr (getD_iff (· ≠ "") (by decide) _)
      (and_congr (getD_iff (· ≠ "") (by decide) _) (getD_iff good hzero _))
  unfold AwsWhole Aws.rowsOf
  constructor
  · intro h result hresult hday group hgroup
    obtain ⟨date, hdate⟩ := Option.isSome_iff_exists.1 hday
    refine (hrow date group).1 (h _ (List.mem_flatMap.2 ⟨result, hresult, ?_⟩))
    rw [Aws.dayRows, hdate]
    exact List.mem_map_of_mem hgroup
  · intro h usage husage
    obtain ⟨result, hresult, hmem⟩ := List.mem_flatMap.1 husage
    unfold Aws.dayRows at hmem
    cases hdate : Aws.dayOf? result with
    | none =>
      rw [hdate] at hmem
      cases hmem
    | some date =>
      rw [hdate] at hmem
      obtain ⟨group, hgroup, rfl⟩ := List.mem_map.1 hmem
      exact (hrow date group).2 (h result hresult (by rw [hdate]; rfl) group hgroup)

/-- The row of a document of GCP is whole exactly if the document is. -/
theorem gcpRow_whole_iff {good : Float → Prop} (hzero : good (Float.ofNat 0)) (first : Date) (body : Tree) :
    (∀ row ∈ (Gcp.costsOf body first).rows, row.IsWhole good) ↔ GcpWhole good body := by
  have hcurrency := getD_filter_ne (show "USD" ≠ "" by decide) ((body.get? "currencyCode").bind Tree.text?)
  constructor
  · intro h
    exact (getD_iff good hzero _).1 (h _ List.mem_cons_self).2.2
  · intro h row hrow
    rw [List.mem_singleton.1 hrow]
    exact ⟨show "All Services" ≠ "" by decide, hcurrency, (getD_iff good hzero _).2 h⟩

/-- The rows of a document are whole exactly if the document is. -/
theorem rowsOf_whole_iff {good : Float → Prop} (hzero : good (Float.ofNat 0)) (p : Provider) (first : Date)
    (body : Tree) : (∀ row ∈ p.rowsOf first body, row.IsWhole good) ↔ p.Whole good body := by
  cases p with
  | azure => exact azureRows_whole_iff good first body
  | aws => exact awsRows_whole_iff hzero body
  | gcp => exact gcpRow_whole_iff hzero first body

/-- The rows of a listing are whole exactly if all its documents are. -/
theorem flatMap_whole_iff {good : Float → Prop} (hzero : good (Float.ofNat 0)) (p : Provider) (first : Date)
    (documents : List Tree) :
    (∀ row ∈ documents.flatMap (p.rowsOf first), row.IsWhole good) ↔ ∀ body ∈ documents, p.Whole good body := by
  simp only [← rowsOf_whole_iff hzero p first]
  constructor
  · intro h body hbody row hrow
    exact h row (List.mem_flatMap.2 ⟨body, hbody, hrow⟩)
  · intro h row hrow
    obtain ⟨body, hbody, hmem⟩ := List.mem_flatMap.1 hrow
    exact h body hbody row hmem

/-! ## Records -/

/-- The records of an account are whole exactly if the rows are that they are made of. -/
theorem records_whole_iff (good : Float → Prop) (costs : ProviderCosts) (account : String) :
    (∀ r ∈ costs.records account, r.service ≠ "" ∧ r.currency ≠ "" ∧ good r.cost) ↔
      ∀ row ∈ costs.rows, row.IsWhole good := by
  unfold ProviderCosts.records
  rw [List.forall_mem_map]
  rfl

/-- For an account that is named, the records that the store takes are the whole ones whose costs are numbers. -/
theorem admits_records_iff {account : String} (haccount : account ≠ "") (costs : ProviderCosts) :
    (∀ r ∈ costs.records account, Store.Admits r) ↔ ∀ row ∈ costs.rows, row.IsWhole (fun x => x.isNaN = false) := by
  rw [← records_whole_iff (fun x => x.isNaN = false) costs account]
  have hname : ∀ r ∈ costs.records account, r.account ≠ "" := by
    intro r hr
    obtain ⟨row, _, rfl⟩ := List.mem_map.1 hr
    exact haccount
  exact forall₂_congr fun r hr => ⟨fun h => h.2, fun h => ⟨hname r hr, h⟩⟩

/-- The costs that a provider answers with can be stored exactly if nothing in the documents that it sent is empty or no
number. Whatever is asked and whatever comes back: all records have a service, a currency and a finite cost exactly if
every document is whole with finite costs, and every store takes them all exactly if every document is whole with costs
that are numbers. -/
theorem records_storable_iff {p : Provider} {access : Access} {first last : Date} {w after : World}
    {costs : ProviderCosts} {account : String} (hcosts : World.run w (p.costs access first last) = (.ok costs, after))
    (haccount : account ≠ "") :
    ∃ documents, w.network.Received after.network documents ∧ IsListing p.namesNext documents ∧
      ((∀ r ∈ costs.records account, r.service ≠ "" ∧ r.currency ≠ "" ∧ r.cost.isFinite = true) ↔
        ∀ body ∈ documents, p.Whole (fun x => x.isFinite = true) body) ∧
      ∀ store : Store Float, (∃ t, store.insertBatch (costs.records account) = .ok t) ↔
        ∀ body ∈ documents, p.Whole (fun x => x.isNaN = false) body := by
  obtain ⟨documents, hreceived, hlisting, hrows⟩ := costs_eq_ok hcosts
  refine ⟨documents, hreceived, hlisting, ?_, fun store => ?_⟩
  · rw [records_whole_iff (fun x => x.isFinite = true), hrows]
    exact flatMap_whole_iff (by decide) p first documents
  · rw [← flatMap_whole_iff (by decide) p first documents, ← hrows, ← admits_records_iff haccount]
    constructor
    · rintro ⟨t, ht⟩
      exact (Store.insertBatch_eq_ok_iff.1 ht).1
    · intro h
      exact ⟨_, Store.insertBatch_eq_ok_iff.2 ⟨h, rfl⟩⟩

/-- An answer of GCP whose sum is written as a text. -/
def sumAsText (amount : String) : Tree :=
  .fields [("costAmountSum", .text amount)]

/-- What GCP answers with when its one reply holds a document. -/
def answered (body : Tree) : Except Failure ProviderCosts × World :=
  let w : World :=
    { store := Store.empty, clock := ⟨Date.min, 0, 0, 0⟩, environment := Table.empty, keyStore := .detached
      network := ⟨true, [.answer 200 none (Json.compact body)], []⟩, journal := [] }
  w.run (gcp.costs ⟨"project", "token", none, none⟩ Date.min Date.min)

/-- The records of the project that come of what GCP answers with when its one reply holds a document. -/
def answeredRecords (body : Tree) : List (CostRecord Float) :=
  ((answered body).1.toOption.map fun costs => costs.records "project").getD []

/-- If there is a record of what is answered, then costs are answered. -/
theorem answered_of_records {body : Tree} {r : CostRecord Float} (h : r ∈ answeredRecords body) :
    ∃ costs after, answered body = (.ok costs, after) ∧ costs.records "project" = answeredRecords body := by
  unfold answeredRecords at h ⊢
  generalize answered body = ran at h ⊢
  obtain ⟨answer, after⟩ := ran
  cases answer with
  | error e => cases h
  | ok costs => exact ⟨costs, after, rfl, rfl⟩

/-- The record of a sum. -/
def recordOfSum (cost : Float) : CostRecord Float :=
  ⟨none, "project", none, "All Services", cost, "USD", Date.min⟩

/-- A sum that is a number comes in a document that is whole. -/
theorem records_storable_of_number : ∃ costs after documents,
    answered (sumAsText "3") = (.ok costs, after) ∧ "project" ≠ "" ∧ IsListing gcp.namesNext documents ∧
      ∀ body ∈ documents, gcp.Whole (fun x => x.isFinite = true) body := by
  have hanswered : answeredRecords (sumAsText "3") = [recordOfSum (Float.ofNat 3)] := by decide +kernel
  obtain ⟨costs, after, hcosts, hrecords⟩ := answered_of_records (hanswered ▸ List.mem_singleton.2 rfl)
  obtain ⟨documents, _, hlisting, hwhole, _⟩ := records_storable_iff hcosts (show "project" ≠ "" by decide)
  refine ⟨costs, after, documents, hcosts, by decide, hlisting, hwhole.1 fun r hr => ?_⟩
  rw [hrecords, hanswered] at hr
  rw [List.mem_singleton.1 hr]
  decide

/-- Not all costs that a provider answers with can be stored: the text of a sum may say that it is no number. -/
theorem records_storable_false :
    ¬∀ (p : Provider) (access : Access) (first last : Date) (w after : World) (costs : ProviderCosts) (account : String),
      World.run w (p.costs access first last) = (.ok costs, after) → Text.isBlankText account = false →
        ∀ r ∈ costs.records account, r.service ≠ "" ∧ r.currency ≠ "" ∧ r.cost.isFinite = true := by
  intro h
  have hanswered : answeredRecords (sumAsText "NaN") = [recordOfSum Decimal.notANumber] := by decide +kernel
  obtain ⟨costs, after, hcosts, hrecords⟩ := answered_of_records (hanswered ▸ List.mem_singleton.2 rfl)
  have hmem : recordOfSum Decimal.notANumber ∈ costs.records "project" := by
    rw [hrecords, hanswered]
    exact List.mem_singleton.2 rfl
  have hfinite := (h gcp _ _ _ _ after costs "project" hcosts (by decide) _ hmem).2.2
  exact absurd hfinite (by decide)

end Provider

end SpendLedger
