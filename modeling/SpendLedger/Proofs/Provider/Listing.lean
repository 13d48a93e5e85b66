import SpendLedger.Proofs.Provider.Exchange
import SpendLedger.Proofs.Provider.Paging
import SpendLedger.Provider.Query

/-!
# Listings

The costs that a provider tells are the rows of a listing: documents that were received one after the other, of which all
but the last name a next page. This holds for all three providers; GCP's listing has one document. Asking for costs
changes nothing in a world but its network and its journal.
-/

namespace SpendLedger

namespace Provider

variable {γ : Type} {view : World → γ}

/-- Documents of which the last alone does not name a next page. -/
def IsListing (namesNext : Tree → Bool) (documents : List Tree) : Prop :=
  ∃ earlier last, documents = earlier ++ [last] ∧ (∀ body ∈ earlier, namesNext body = true) ∧ namesNext last = false

theorem IsListing.single {namesNext : Tree → Bool} {body : Tree} (h : namesNext body = false) :
    IsListing namesNext [body] :=
  ⟨[], body, rfl, nofun, h⟩

/-- A document that names a next page goes before a listing. -/
theorem IsListing.cons {namesNext : Tree → Bool} {body : Tree} {documents : List Tree} (h : namesNext body = true)
    (hlater : IsListing namesNext documents) : IsListing namesNext (body :: documents) := by
  obtain ⟨earlier, last, rfl, hearlier, hlast⟩ := hlater
  refine ⟨body :: earlier, last, rfl, fun other hother => ?_, hlast⟩
  rcases List.mem_cons.1 hother with rfl | hother
  · exact h
  · exact hearlier other hother

theorem not_isListing_nil (namesNext : Tree → Bool) : ¬IsListing namesNext [] := by
  rintro ⟨earlier, last, hnil, _⟩
  simp at hnil

/-- A document goes before others in a listing exactly if it names a next page and they are a listing, or if there are none
and it names none. -/
theorem isListing_cons_iff {namesNext : Tree → Bool} {body : Tree} {later : List Tree} :
    IsListing namesNext (body :: later) ↔
      namesNext body = false ∧ later = [] ∨ namesNext body = true ∧ IsListing namesNext later := by
  constructor
  · rintro ⟨earlier, last, heq, hearlier, hlast⟩
    cases earlier with
    | nil =>
      cases heq
      exact Or.inl ⟨hlast, rfl⟩
    | cons page earlier =>
      cases heq
      exact Or.inr ⟨hearlier _ List.mem_cons_self, earlier, last, rfl,
        fun other hother => hearlier other (List.mem_cons_of_mem _ hother), hlast⟩
  · rintro (⟨hlast, rfl⟩ | ⟨hnames, hlater⟩)
    · exact .single hlast
    · exact hlater.cons hnames

/-- The rows of one document of a provider; `first` stands for days that cannot be read. -/
def rowsOf (p : Provider) (first : Date) (body : Tree) : List UsageRow :=
  match p with
  | azure => Azure.rowsOf body first
  | aws => Aws.rowsOf body
  | gcp => (Gcp.costsOf body first).rows

/-- Whether a document of a provider names a next page. -/
def namesNext (p : Provider) (body : Tree) : Bool :=
  match p with
  | azure => (Azure.nextLink? body).isSome
  | aws => (Aws.nextToken? body).isSome
  | gcp => false

/-! ## Chains of documents -/

/-- If every page that is fetched is the reading of a document that was received, a chain of pages is the reading of a
listing. -/
theorem Chain.listing {fetch : γ → Action World (List UsageRow × Option γ)} {readRows : Tree → List UsageRow}
    {next? : Tree → Option γ}
    (hfetch : ∀ {cursor : γ} {w after : World} {found : List UsageRow × Option γ},
      Action.run w (fetch cursor) = (.ok found, after) →
        ∃ body, w.network.Received after.network [body] ∧ found = (readRows body, next? body))
    {cursor : γ} {w after : World} {pages : List (List UsageRow)} (h : Chain fetch cursor w pages after) :
    ∃ documents, w.network.Received after.network documents ∧ IsListing (fun body => (next? body).isSome) documents ∧
      pages = documents.map readRows := by
  induction h with
  | last hpage =>
    obtain ⟨body, hreceived, hfound⟩ := hfetch hpage
    obtain ⟨rfl, hnext⟩ := Prod.mk.inj hfound
    exact ⟨[body], hreceived, .single (by rw [← hnext]; rfl), rfl⟩
  | more hpage _ ih =>
    obtain ⟨body, hreceived, hfound⟩ := hfetch hpage
    obtain ⟨rfl, hnext⟩ := Prod.mk.inj hfound
    obtain ⟨documents, hlater, hlisting, rfl⟩ := ih
    exact ⟨body :: documents, hreceived.append hlater, hlisting.cons (by rw [← hnext]; rfl), rfl⟩

/-- If every page that is fetched is the reading of a document that was received, the rows of all pages are those of a
listing. -/
theorem collectPages_listing {p : Provider} {fetch : γ → Action World (List UsageRow × Option γ)}
    {readRows : Tree → List UsageRow} {next? : Tree → Option γ}
    (hfetch : ∀ {cursor : γ} {w after : World} {found : List UsageRow × Option γ},
      Action.run w (fetch cursor) = (.ok found, after) →
        ∃ body, w.network.Received after.network [body] ∧ found = (readRows body, next? body))
    {cursor : γ} {w after : World} {rows : List UsageRow}
    (h : Action.run w (collectPages p cursor fetch) = (.ok rows, after)) :
    ∃ documents, w.network.Received after.network documents ∧ IsListing (fun body => (next? body).isSome) documents ∧
      rows = documents.flatMap readRows := by
  obtain ⟨pages, hchain, _, rfl⟩ := followPages_eq_ok_iff.1 h
  obtain ⟨documents, hreceived, hlisting, rfl⟩ := hchain.listing hfetch
  exact ⟨documents, hreceived, hlisting, by rw [List.nil_append, List.flatMap_def]⟩

/-! ## Azure -/

/-- A page of Azure is the reading of a document that was received. -/
theorem azurePage_eq_ok {access : Access} {first last : Date} {url : String} {w after : World}
    {found : List UsageRow × Option String}
    (h : Action.run w (Azure.page access first last url) = (.ok found, after)) :
    ∃ body, w.network.Received after.network [body] ∧ found = (Azure.rowsOf body first, Azure.nextLink? body) := by
  unfold Azure.page at h
  rw [Action.run_bind_of_ok (World.run_note _ _ _ _ _)] at h
  obtain ⟨body, _, hpost, h⟩ := Action.run_bind_eq_ok h
  cases h
  have hreceived := postTo_eq_ok hpost
  exact ⟨body, hreceived, rfl⟩

theorem keeps_azurePage (hview : World.Inner view) (access : Access) (first last : Date) (url : String) :
    Action.Keeps view (Azure.page access first last url) :=
  .bind (World.keeps_note hview.journal _ _ _ _) fun _ => .bind (keeps_postTo hview _ _ _ _) fun _ => .pure _

/-! ## AWS -/

/-- The document that a call of AWS answers with was received. -/
theorem awsCall_eq_ok {access : Access} {target : String} {question body : Tree} {w after : World}
    (h : Action.run w (Aws.call access target question) = (.ok body, after)) :
    w.network.Received after.network [body] := by
  unfold Aws.call at h
  obtain ⟨keys, _, h⟩ := Action.run_lift_bind_eq_ok h
  obtain ⟨url, _, h⟩ := Action.run_lift_bind_eq_ok h
  rw [Action.run_bind_of_ok (Action.run_get w)] at h
  obtain ⟨headers, _, h⟩ := Action.run_lift_bind_eq_ok h
  rw [Action.run_bind_of_ok (World.run_note _ _ _ _ _)] at h
  have hreceived := post_eq_ok h
  exact hreceived

/-- A call of AWS keeps what is not seen of the network and the journal. -/
theorem keeps_awsCall (hview : World.Inner view) (access : Access) (target : String) (question : Tree) :
    Action.Keeps view (Aws.call access target question) :=
  .bind (.lift _) fun _ => .bind (.lift _) fun _ => .bind .get fun _ => .bind (.lift _) fun _ =>
    .bind (World.keeps_note hview.journal _ _ _ _) fun _ => keeps_post hview _ _ _ _

/-- A page of AWS is the reading of a document that was received. -/
theorem awsPage_eq_ok {access : Access} {first last : Date} {token : Option String} {w after : World}
    {found : List UsageRow × Option (Option String)}
    (h : Action.run w (Aws.page access first last token) = (.ok found, after)) :
    ∃ body, w.network.Received after.network [body] ∧ found = (Aws.rowsOf body, (Aws.nextToken? body).map some) := by
  unfold Aws.page at h
  obtain ⟨body, _, hcall, h⟩ := Action.run_bind_eq_ok h
  cases h
  exact ⟨body, awsCall_eq_ok hcall, rfl⟩

theorem keeps_awsPage (hview : World.Inner view) (access : Access) (first last : Date) (token : Option String) :
    Action.Keeps view (Aws.page access first last token) :=
  .bind (keeps_awsCall hview _ _ _) fun _ => .pure _

/-! ## Every provider -/

/-- The costs that a provider answers with are the rows of a listing that was received. -/
theorem costs_eq_ok {p : Provider} {access : Access} {first last : Date} {w after : World} {costs : ProviderCosts}
    (h : Action.run w (p.costs access first last) = (.ok costs, after)) :
    ∃ documents, w.network.Received after.network documents ∧ IsListing p.namesNext documents ∧
      costs.rows = documents.flatMap (p.rowsOf first) := by
  cases p with
  | azure =>
    obtain ⟨url, _, h⟩ := Action.run_lift_bind_eq_ok h
    obtain ⟨rows, _, hpages, h⟩ := Action.run_bind_eq_ok h
    cases h
    exact collectPages_listing azurePage_eq_ok hpages
  | aws =>
    obtain ⟨rows, _, hpages, h⟩ := Action.run_bind_eq_ok h
    cases h
    obtain ⟨documents, hreceived, hlisting, hrows⟩ := collectPages_listing awsPage_eq_ok hpages
    simp only [Option.isSome_map] at hlisting
    exact ⟨documents, hreceived, hlisting, hrows⟩
  | gcp =>
    obtain ⟨url, _, h⟩ := Action.run_lift_bind_eq_ok h
    rw [Action.run_bind_of_ok (World.run_note _ _ _ _ _)] at h
    obtain ⟨body, _, hpost, h⟩ := Action.run_bind_eq_ok h
    cases h
    have hreceived := postTo_eq_ok hpost
    exact ⟨[body], hreceived, .single rfl, by simp [rowsOf]⟩

/-- Asking for costs keeps what is not seen of the network and the journal. -/
theorem keeps_costs (hview : World.Inner view) (p : Provider) (access : Access) (first last : Date) :
    Action.Keeps view (p.costs access first last) := by
  cases p with
  | azure =>
    exact .bind (.lift _) fun _ => .bind (keeps_followPages (keeps_azurePage hview access first last) _ _ _) fun _ =>
      .pure _
  | aws => exact .bind (keeps_followPages (keeps_awsPage hview access first last) _ _ _) fun _ => .pure _
  | gcp =>
    exact .bind (.lift _) fun _ => .bind (World.keeps_note hview.journal _ _ _ _) fun _ =>
      .bind (keeps_postTo hview _ _ _ _) fun _ => .pure _

end Provider

end SpendLedger
