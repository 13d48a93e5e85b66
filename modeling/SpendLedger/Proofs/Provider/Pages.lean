import Mathlib.Data.List.Forall2
import SpendLedger.Proofs.Provider.Listing
import SpendLedger.Proofs.Provider.Replies

/-!
# Costs in pages

How a provider cuts its costs into pages does not matter: over pages that are followed to their end, it answers as over one
page that holds everything. A document holds entries, which are read one by one into rows, so that reading all entries of all
pages is reading one long list of entries.
-/

namespace SpendLedger

namespace Provider

open SpendLedger.Action

/-! ## Following pages that wait -/

/-- A way to fetch pages that reads a document that waits into rows and the next cursor, unless something keeps the request
from being answered. What the other side then sees asks for the page of the cursor. -/
def ReadsWaiting {γ : Type} (start : World) (fetch : γ → Action World (List UsageRow × Option γ))
    (blocked? : γ → Option Failure) (asksFor : γ → Contact → Prop) (readRows : Tree → List UsageRow)
    (next? : Tree → Option γ) : Prop :=
  ∀ (cursor : γ) {reply : Reply} {later : List Reply} {seen : List Contact} {tree : Tree} {w : World},
    start.Awaits (reply :: later) seen w → reply.document? = some tree →
      ∃ after, Action.run w (fetch cursor) = (answerUnless (blocked? cursor) (readRows tree, next? tree), after) ∧
        (blocked? cursor = none →
          ∃ contact, asksFor cursor contact ∧ start.Awaits later (seen ++ [contact]) after)

section Following

variable {γ : Type} {start w : World} {fetch : γ → Action World (List UsageRow × Option γ)} {blocked? : γ → Option Failure}
  {asksFor : γ → Contact → Prop} {readRows : Tree → List UsageRow} {next? : Tree → Option γ} {pages : List Tree}
  {replies later : List Reply} {seen : List Contact} {cursor : γ}

/-- Where the documents of a listing wait, fetching them makes a chain of pages, and every page is asked for under the cursor
that the one before it named. -/
theorem chain_of_replies (hfetch : ReadsWaiting start fetch blocked? asksFor readRows next?)
    (hlisting : IsListing (fun body => (next? body).isSome) pages)
    (hreplies : replies.map Reply.document? = pages.map some) (hw : start.Awaits (replies ++ later) seen w)
    (hopen : blocked? cursor = none)
    (hnext : ∀ body ∈ pages, ∀ next, next? body = some next → blocked? next = none) :
    ∃ after contacts, Chain fetch cursor w (pages.map readRows) after ∧ start.Awaits later (seen ++ contacts) after ∧
      List.Forall₂ asksFor (cursor :: pages.filterMap next?) contacts := by
  induction pages generalizing replies seen w cursor with
  | nil => exact absurd hlisting (not_isListing_nil _)
  | cons page pages ih =>
    obtain ⟨reply, replies, rfl, hpage, hreplies⟩ := List.map_eq_cons_iff.1 hreplies
    obtain ⟨t, hrun, ht⟩ := hfetch cursor hw hpage
    obtain ⟨contact, hasks, ht⟩ := ht hopen
    rw [hopen] at hrun
    rcases isListing_cons_iff.1 hlisting with ⟨hnone, rfl⟩ | ⟨hsome, hrest⟩
    · rw [Option.isSome_eq_false_iff, Option.isNone_iff_eq_none] at hnone
      rw [hnone] at hrun
      obtain rfl := List.map_eq_nil_iff.1 hreplies
      refine ⟨t, [contact], .last hrun, ht, ?_⟩
      rw [List.filterMap_cons_none hnone]
      exact .cons hasks .nil
    · obtain ⟨next, hnamed⟩ := Option.isSome_iff_exists.1 hsome
      rw [hnamed] at hrun
      obtain ⟨after, contacts, hchain, hafter, hlater⟩ := ih hrest hreplies ht
        (hnext page List.mem_cons_self next hnamed) fun body hbody => hnext body (List.mem_cons_of_mem _ hbody)
      refine ⟨after, contact :: contacts, .more hrun hchain, ?_, ?_⟩
      · rwa [List.append_assoc] at hafter
      · rw [List.filterMap_cons_some hnamed]
        exact .cons hasks hlater

/-- Where the documents of a listing wait, following it answers with all their rows, unless the first request cannot be
answered. -/
theorem collectPages_of_replies (p : Provider) (hfetch : ReadsWaiting start fetch blocked? asksFor readRows next?)
    (hlisting : IsListing (fun body => (next? body).isSome) pages) (hcount : pages.length ≤ maxPages)
    (hreplies : replies.map Reply.document? = pages.map some) (hw : start.Awaits (replies ++ later) seen w)
    (hnext : blocked? cursor = none → ∀ body ∈ pages, ∀ next, next? body = some next → blocked? next = none) :
    ∃ after, Action.run w (collectPages p cursor fetch) =
        (answerUnless (blocked? cursor) (pages.flatMap readRows), after) ∧
      (blocked? cursor = none → ∃ contacts, start.Awaits later (seen ++ contacts) after ∧
        List.Forall₂ asksFor (cursor :: pages.filterMap next?) contacts) := by
  cases hopen : blocked? cursor with
  | none =>
    obtain ⟨after, contacts, hchain, hafter, hasks⟩ := chain_of_replies hfetch hlisting hreplies hw hopen (hnext hopen)
    have hrun : Action.run w (collectPages p cursor fetch) = (.ok ([] ++ (pages.map readRows).flatten), after) :=
      followPages_eq_ok_iff.2 ⟨_, hchain, by rwa [List.length_map], rfl⟩
    rw [List.nil_append, ← List.flatMap_def] at hrun
    exact ⟨after, hrun, fun _ => ⟨contacts, hafter, hasks⟩⟩
  | some e =>
    cases pages with
    | nil => exact absurd hlisting (not_isListing_nil _)
    | cons page pages =>
      obtain ⟨reply, replies, rfl, hpage, _⟩ := List.map_eq_cons_iff.1 hreplies
      obtain ⟨after, hrun, _⟩ := hfetch cursor hw hpage
      rw [hopen] at hrun
      unfold collectPages
      rw [show maxPages = 49 + 1 from rfl, run_followPages_succ, hrun]
      exact ⟨after, rfl, nofun⟩

end Following

/-! ## Entries -/

/-- What a document of a provider lists: rows of a table, days, or the document itself. -/
def entriesOf (p : Provider) (body : Tree) : List Tree :=
  match p with
  | azure => ((body.get? "properties").map Azure.tableRows).getD []
  | aws => Aws.resultsOf body
  | gcp => [body]

/-- The names of the columns of a document, where its entries have any. -/
def columnsOf (p : Provider) (body : Tree) : List String :=
  match p with
  | azure => ((body.get? "properties").map Azure.columnNames).getD []
  | aws => []
  | gcp => []

/-- The rows that an entry is read into; `first` stands for a day that cannot be read. -/
def readEntry (p : Provider) (first : Date) (columns : List String) (entry : Tree) : List UsageRow :=
  match p with
  | azure => (Azure.usageRow? columns first entry).toList
  | aws => Aws.dayRows entry
  | gcp => (Gcp.costsOf entry first).rows

/-- A document is read entry by entry. -/
theorem rowsOf_eq (p : Provider) (first : Date) (body : Tree) :
    p.rowsOf first body = (p.entriesOf body).flatMap (p.readEntry first (p.columnsOf body)) := by
  cases p with
  | azure =>
    show Azure.rowsOf body first = _
    unfold Azure.rowsOf entriesOf columnsOf readEntry
    cases body.get? "properties" with
    | none => rfl
    | some properties => exact List.filterMap_eq_flatMap_toList _ _
  | aws => rfl
  | gcp => exact (List.flatMap_singleton _ _).symm

/-- The name of the next page in a document: an address or a token. -/
def next? (p : Provider) (body : Tree) : Option String :=
  match p with
  | azure => Azure.nextLink? body
  | aws => Aws.nextToken? body
  | gcp => none

/-- A document names a next page exactly if there is a name in it. -/
theorem namesNext_eq (p : Provider) (body : Tree) : p.namesNext body = (p.next? body).isSome := by
  cases p <;> rfl

/-- A way to cut a document into pages: all but the last name the next one, by addresses that nothing keeps a request from.
One after the other the pages have the entries of the document, in columns of the same names. -/
structure Cut (p : Provider) (whole : Tree) (pages : List Tree) : Prop where
  listing : IsListing p.namesNext pages
  complete : p.namesNext whole = false
  entries : pages.flatMap p.entriesOf = p.entriesOf whole
  columns : ∀ page ∈ pages, p.columnsOf page = p.columnsOf whole
  /-- Where pages are named by addresses, these can be reached. -/
  links : p = azure → ∀ page ∈ pages, ∀ link, p.next? page = some link → addressObstacle? true link [] = none

variable {p : Provider} {whole : Tree} {pages : List Tree}

theorem Cut.rows_eq (h : p.Cut whole pages) (first : Date) : pages.flatMap (p.rowsOf first) = p.rowsOf first whole := by
  have hread : pages.flatMap (p.rowsOf first) =
      pages.flatMap fun page => (p.entriesOf page).flatMap (p.readEntry first (p.columnsOf whole)) :=
    List.flatMap_congr fun page hpage => by rw [rowsOf_eq, h.columns page hpage]
  rw [hread, ← List.flatMap_assoc, h.entries, ← rowsOf_eq]

/-- A document is a way to cut itself. -/
theorem Cut.self (h : p.Cut whole pages) : p.Cut whole [whole] where
  listing := .single h.complete
  complete := h.complete
  entries := List.flatMap_singleton _ _
  columns := fun page hpage => by rw [List.mem_singleton.1 hpage]
  links := fun _ page hpage link hlink => by
    have hcomplete := h.complete
    rw [List.mem_singleton.1 hpage] at hlink
    rw [namesNext_eq, hlink] at hcomplete
    cases hcomplete

/-! ## Asking for costs -/

/-- What keeps a provider from answering with costs, whatever the other side would reply. -/
def costsObstacle? (p : Provider) (access : Access) (first last : Date) (w : World) : Option Failure :=
  match p with
  | azure =>
    match Azure.endpoint access "query" with
    | .error e => some e
    | .ok url => addressObstacle? w.network.up url (Azure.headers access)
  | aws =>
    callObstacle? access w.clock w.network.up "AWSInsightsIndexService.GetCostAndUsage" (Aws.costQuestion first last none)
  | gcp =>
    match Gcp.endpoint access with
    | .error e => some e
    | .ok url => addressObstacle? w.network.up url [bearer access.credential, jsonContent]

/-- Whether what the other side sees is a request for a page of costs: the first one, or the one of a name. Azure's pages have
an address each, AWS is asked with the name in the question, and GCP has one page. -/
def AsksFor (p : Provider) (access : Access) (first last : Date) (name : Option String) (contact : Contact) : Prop :=
  match p with
  | azure => ∃ address url, name.elim (Azure.endpoint access "query") .ok = .ok address ∧ Url.read address = .ok url ∧
      contact = sent url (Azure.headers access) (Azure.costQuestion first last)
  | aws => ∃ url headers, Aws.endpoint access = .ok url ∧ contact = sent url headers (Aws.costQuestion first last name)
  | gcp => ∃ address url, Gcp.endpoint access = .ok address ∧ Url.read address = .ok url ∧
      contact = sent url [bearer access.credential, jsonContent] (Gcp.costQuestion first last)

/-- What a provider does when it is asked for costs and the other side gives some replies: its answer, and the world after
it. -/
def costsFrom (p : Provider) (access : Access) (first last : Date) (w : World) (replies : List Reply) :
    Except Failure ProviderCosts × World :=
  World.run { w with network := { w.network with replies } } (p.costs access first last)

/-- What a run does that leaves no page out where some documents wait: it answers with the costs in all their rows, unless
something keeps the provider from answering, and asks for the first page and then for each page under the name that the one
before it gave. -/
def AnswersAll (p : Provider) (access : Access) (first last : Date) (w : World) (pages : List Tree) (later : List Reply)
    (ran : Except Failure ProviderCosts × World) : Prop :=
  ran.1 = answerUnless (p.costsObstacle? access first last w) (.ofRows (pages.flatMap (p.rowsOf first)) "USD") ∧
    (p.costsObstacle? access first last w = none → ∃ contacts, w.Awaits later contacts ran.2 ∧
      List.Forall₂ (p.AsksFor access first last) (none :: (pages.filterMap p.next?).map some) contacts)

section Listings

variable {w : World} {replies later : List Reply}

/-- A page of Azure is read from a document that waits. -/
theorem azurePage_readsWaiting (start : World) (access : Access) (first last : Date) :
    ReadsWaiting start (Azure.page access first last)
      (fun link => addressObstacle? start.network.up link (Azure.headers access))
      (fun link => azure.AsksFor access first last (some link))
      (fun body => Azure.rowsOf body first) Azure.nextLink? := by
  intro link reply later seen tree w hw hdocument
  obtain ⟨after, hrun, hafter⟩ :=
    run_postTo_of_reply (hw.told _) hdocument azure link (Azure.headers access) (Azure.costQuestion first last)
  refine ⟨after, ?_, fun hopen => ?_⟩
  · unfold Azure.page
    rw [run_bind_of_ok (World.run_note _ _ _ _ _), run_bind_pure_of_answerUnless hrun]
  · obtain ⟨url, hread, hafter⟩ := hafter hopen
    exact ⟨_, ⟨link, url, rfl, hread, rfl⟩, hafter⟩

/-- Azure answers with all rows of a listing whose addresses can be reached. -/
theorem azure_answersAll (hlisting : IsListing azure.namesNext pages) (hcount : pages.length ≤ maxPages)
    (hlinks : ∀ page ∈ pages, ∀ link, azure.next? page = some link → addressObstacle? true link [] = none)
    (hreplies : replies.map Reply.document? = pages.map some)
    {start : World} (hw : w.Awaits (replies ++ later) [] start) (access : Access) (first last : Date) :
    azure.AnswersAll access first last w pages later (Action.run start (Azure.costs access first last)) := by
  unfold Azure.costs AnswersAll costsObstacle?
  cases hendpoint : Azure.endpoint access "query" with
  | error e => exact ⟨rfl, nofun⟩
  | ok address =>
    have hnext (hopen : addressObstacle? w.network.up address (Azure.headers access) = none) (page : Tree)
        (hpage : page ∈ pages) (link : String) (hlink : Azure.nextLink? page = some link) :
        addressObstacle? w.network.up link (Azure.headers access) = none :=
      addressObstacle?_eq_none hopen (hlinks page hpage link hlink)
    have hpages := azurePage_readsWaiting w access first last
    obtain ⟨after, hrun, hafter⟩ := collectPages_of_replies azure hpages hlisting hcount hreplies hw hnext
    rw [run_bind_of_ok (run_lift _ _), run_bind_pure_of_answerUnless hrun]
    refine ⟨rfl, fun hopen => ?_⟩
    obtain ⟨contacts, hleft, hasks⟩ := hafter hopen
    cases hasks with
    | cons hfirst hrest =>
      -- the address of the first page is the one that the access leads to
      obtain ⟨_, url, haddress, hcontact⟩ := hfirst
      cases haddress
      exact ⟨_, hleft, .cons ⟨address, url, hendpoint, hcontact⟩ (List.forall₂_map_left_iff.2 hrest)⟩

/-- A page of AWS is read from a document that waits. -/
theorem awsPage_readsWaiting (start : World) (access : Access) (first last : Date) :
    ReadsWaiting start (Aws.page access first last) (fun _ => aws.costsObstacle? access first last start)
      (aws.AsksFor access first last) Aws.rowsOf (fun body => (Aws.nextToken? body).map some) := by
  intro token reply later seen tree w hw hdocument
  obtain ⟨after, hrun, hafter⟩ := run_call_of_reply hw hdocument access "AWSInsightsIndexService.GetCostAndUsage"
    (Aws.costQuestion first last token)
  have hsame := callObstacle?_eq access start.clock start.network.up "AWSInsightsIndexService.GetCostAndUsage"
    (Aws.costQuestion first last token) (Aws.costQuestion first last none)
  rw [hsame] at hrun hafter
  refine ⟨after, ?_, fun hopen => ?_⟩
  · unfold Aws.page costsObstacle?
    rw [run_bind_pure_of_answerUnless hrun]
  · obtain ⟨url, headers, hread, hafter⟩ := hafter hopen
    exact ⟨_, ⟨url, headers, hread, rfl⟩, hafter⟩

/-- AWS answers with all rows of a listing. -/
theorem aws_answersAll (hlisting : IsListing aws.namesNext pages) (hcount : pages.length ≤ maxPages)
    (hreplies : replies.map Reply.document? = pages.map some)
    {start : World} (hw : w.Awaits (replies ++ later) [] start) (access : Access) (first last : Date) :
    aws.AnswersAll access first last w pages later (Action.run start (Aws.costs access first last)) := by
  have hlisting' : IsListing (fun body => ((Aws.nextToken? body).map some).isSome) pages := by
    simp only [Option.isSome_map]
    exact hlisting
  have hnext (hopen : aws.costsObstacle? access first last w = none) (page : Tree) (_ : page ∈ pages)
      (token : Option String) (_ : (Aws.nextToken? page).map some = some token) :
      aws.costsObstacle? access first last w = none :=
    hopen
  have hpages := awsPage_readsWaiting w access first last
  obtain ⟨after, hrun, hafter⟩ := collectPages_of_replies aws hpages hlisting' hcount hreplies hw hnext
  unfold Aws.costs AnswersAll
  rw [run_bind_pure_of_answerUnless hrun, show aws.rowsOf first = Aws.rowsOf from rfl]
  dsimp only
  refine ⟨rfl, fun hopen => ?_⟩
  obtain ⟨contacts, hleft, hasks⟩ := hafter hopen
  rw [← List.map_filterMap] at hasks
  exact ⟨contacts, hleft, hasks⟩

/-- GCP answers with the row of its one document. -/
theorem gcp_answersAll (hlisting : IsListing gcp.namesNext pages) (hreplies : replies.map Reply.document? = pages.map some)
    {start : World} (hw : w.Awaits (replies ++ later) [] start) (access : Access) (first last : Date) :
    gcp.AnswersAll access first last w pages later (Action.run start (Gcp.costs access first last)) := by
  obtain ⟨earlier, page, rfl, hearlier, _⟩ := hlisting
  cases earlier with
  | cons other earlier => cases hearlier other List.mem_cons_self
  | nil =>
    obtain ⟨reply, rest, rfl, hdocument, hrest⟩ := List.map_eq_cons_iff.1 hreplies
    obtain rfl := List.map_eq_nil_iff.1 hrest
    unfold Gcp.costs AnswersAll costsObstacle?
    cases hendpoint : Gcp.endpoint access with
    | error e => exact ⟨rfl, nofun⟩
    | ok address =>
      obtain ⟨after, hrun, hafter⟩ := run_postTo_of_reply (hw.told _) hdocument gcp address
        [bearer access.credential, jsonContent] (Gcp.costQuestion first last)
      rw [run_bind_of_ok (run_lift _ _), run_bind_of_ok (World.run_note _ _ _ _ _)]
      rw [run_bind_pure_of_answerUnless hrun]
      refine ⟨rfl, fun hopen => ?_⟩
      obtain ⟨url, hread, hleft⟩ := hafter hopen
      exact ⟨_, hleft, .cons ⟨address, url, hendpoint, hread, rfl⟩ .nil⟩

/-- Every provider answers with all rows of a listing whose addresses, if it has any, can be reached. -/
theorem costsFrom_answersAll (hlisting : IsListing p.namesNext pages) (hcount : pages.length ≤ maxPages)
    (hlinks : p = azure → ∀ page ∈ pages, ∀ link, p.next? page = some link → addressObstacle? true link [] = none)
    (hreplies : replies.map Reply.document? = pages.map some) (access : Access) (first last : Date) (w : World)
    (later : List Reply) :
    p.AnswersAll access first last w pages later (p.costsFrom access first last w (replies ++ later)) := by
  have hw := World.Awaits.of_replies w (replies ++ later)
  cases p with
  | azure => exact azure_answersAll hlisting hcount (hlinks rfl) hreplies hw access first last
  | aws => exact aws_answersAll hlisting hcount hreplies hw access first last
  | gcp => exact gcp_answersAll hlisting hreplies hw access first last

end Listings

/-- How the costs are cut into pages does not matter: from up to as many pages as are followed, a provider answers as from
one page with all their entries, whatever replies come after them. It answers with the rows of all entries in their order,
their sum and the currency of the first row, unless something keeps it from answering at all. If nothing does, the other side
has seen a request for the first page, and then one for each page under the name that the one before it gave. -/
theorem costs_of_cut {replies : List Reply} {reply : Reply} (hcut : p.Cut whole pages) (hcount : pages.length ≤ maxPages)
    (hreplies : replies.map Reply.document? = pages.map some) (hreply : reply.document? = some whole)
    (access : Access) (first last : Date) (w : World) (later later' : List Reply) :
    (p.costsFrom access first last w (replies ++ later)).1 = (p.costsFrom access first last w (reply :: later')).1 ∧
      (p.costsFrom access first last w (reply :: later')).1 =
        answerUnless (p.costsObstacle? access first last w)
          (.ofRows ((p.entriesOf whole).flatMap (p.readEntry first (p.columnsOf whole))) "USD") ∧
      (p.costsObstacle? access first last w = none → ∃ contacts,
        (p.costsFrom access first last w (replies ++ later)).2.network.contacts = w.network.contacts ++ contacts ∧
          List.Forall₂ (p.AsksFor access first last) (none :: (pages.filterMap p.next?).map some) contacts) := by
  obtain ⟨hpages, hafter⟩ := costsFrom_answersAll hcut.listing hcount hcut.links hreplies access first last w later
  have hself : [reply].map Reply.document? = [whole].map some := by
    rw [List.map_singleton, hreply]
    rfl
  obtain ⟨hsingle, _⟩ :=
    costsFrom_answersAll hcut.self.listing (by simp [maxPages]) hcut.self.links hself access first last w later'
  rw [hcut.rows_eq] at hpages
  rw [List.flatMap_singleton, List.singleton_append] at hsingle
  rw [hpages, hsingle, ← rowsOf_eq]
  refine ⟨rfl, rfl, fun hopen => ?_⟩
  obtain ⟨contacts, hleft, hasks⟩ := hafter hopen
  exact ⟨contacts, hleft.contacts_eq, hasks⟩

/-- A reply of Azure with costs, given by the text of its rows, and perhaps the address of a next page. -/
def tableReply (rows link : String) : Reply :=
  .answer 200 none ("\x7b\"properties\":\x7b\"columns\":[\x7b\"name\":\"Cost\"\x7d],\"rows\":" ++ rows ++ ",\"nextLink\":\"" ++
    link ++ "\"\x7d\x7d")

/-- The document in a reply of Azure. -/
def tableOf (rows link : String) : Tree :=
  (tableReply rows link).document?.getD .null

/-- A row that is a whole cost and nothing else. -/
def wholeCost? : Tree → Option Int
  | .list [.integer cost] => some cost
  | _ => none

/-- Rows that are whole costs are told by these. -/
theorem eq_of_wholeCosts {rows : List Tree} (costs : List Int) (h : rows.map wholeCost? = costs.map some) :
    rows = costs.map fun cost => .list [.integer cost] := by
  induction costs generalizing rows with
  | nil => exact List.map_eq_nil_iff.1 h
  | cons cost costs ih =>
    obtain ⟨row, rows, rfl, hrow, hrows⟩ := List.map_eq_cons_iff.1 h
    rw [ih hrows, List.map_cons]
    unfold wholeCost? at hrow
    split at hrow
    next => rw [Option.some.inj hrow]
    next => cases hrow

/-- A reply that holds a document holds the one that is read from it. -/
theorem tableReply_document? {rows link : String} (h : (tableReply rows link).document?.isSome = true) :
    (tableReply rows link).document? = some (tableOf rows link) := by
  unfold tableOf
  obtain ⟨tree, htree⟩ := Option.isSome_iff_exists.1 h
  rw [htree]
  rfl

/-- Two documents of Azure are a listing if the first gives an address and the other none. -/
theorem isListing_azure_pair {page last : Tree} {link : String} (hlink : Azure.nextLink? page = some link)
    (hlast : Azure.nextLink? last = none) : IsListing azure.namesNext [page, last] :=
  .cons (congrArg Option.isSome hlink) (.single (congrArg Option.isSome hlast))

/-- The one address of two such documents can be reached if it can. -/
theorem links_azure_pair {page last : Tree} {link : String} (hlink : Azure.nextLink? page = some link)
    (hreach : addressObstacle? true link [] = none) (hlast : Azure.nextLink? last = none) :
    ∀ document ∈ [page, last], ∀ name, azure.next? document = some name → addressObstacle? true name [] = none := by
  refine List.forall_mem_cons.2 ⟨fun name hname => ?_, List.forall_mem_singleton.2 fun name hname => ?_⟩
  · cases hlink.symm.trans hname
    exact hreach
  · cases hlast.symm.trans hname

/-- Two documents of Azure with columns of the same names, the first with the address of the second, cut the document with
the entries of both. -/
theorem Cut.azure_pair {whole page last : Tree} {link : String} (hlink : Azure.nextLink? page = some link)
    (hreach : addressObstacle? true link [] = none) (hlast : Azure.nextLink? last = none)
    (hwhole : Azure.nextLink? whole = none)
    (hentries : azure.entriesOf page ++ azure.entriesOf last = azure.entriesOf whole)
    (hcolumns : azure.columnsOf page = azure.columnsOf whole ∧ azure.columnsOf last = azure.columnsOf whole) :
    azure.Cut whole [page, last] where
  listing := isListing_azure_pair hlink hlast
  complete := congrArg Option.isSome hwhole
  entries := by rw [List.flatMap_cons, List.flatMap_singleton, hentries]
  columns := List.forall_mem_cons.2 ⟨hcolumns.1, List.forall_mem_singleton.2 hcolumns.2⟩
  links := fun _ => links_azure_pair hlink hreach hlast

/-- Two costs on a page each are answered like two costs on one page. -/
theorem costs_of_two_pages :
    let whole := tableOf "[[3],[5]]" ""
    let pages := [tableOf "[[3]]" "https://next", tableOf "[[5]]" ""]
    let replies := [tableReply "[[3]]" "https://next", tableReply "[[5]]" ""]
    let access : Access := ⟨"account", "token", none, some "https://first"⟩
    let w : World := ⟨Store.empty, ⟨Date.min, 0, 0, 0⟩, Table.empty, .detached, ⟨true, [], []⟩, []⟩
    azure.Cut whole pages ∧ pages.length ≤ maxPages ∧ replies.map Reply.document? = pages.map some ∧
      (tableReply "[[3],[5]]" "").document? = some whole ∧ azure.costsObstacle? access Date.min Date.min w = none ∧
      (azure.costsFrom access Date.min Date.min w (replies ++ [])).1 =
        (azure.costsFrom access Date.min Date.min w [tableReply "[[3],[5]]" ""]).1 := by
  intro whole pages replies access w
  have hpage : azure.entriesOf (tableOf "[[3]]" "https://next") = [.list [.integer 3]] :=
    eq_of_wholeCosts [3] (by decide +kernel)
  have hlast : azure.entriesOf (tableOf "[[5]]" "") = [.list [.integer 5]] := eq_of_wholeCosts [5] (by decide +kernel)
  have hboth : azure.entriesOf whole = [.list [.integer 3], .list [.integer 5]] :=
    eq_of_wholeCosts [3, 5] (by decide +kernel)
  have hlink : Azure.nextLink? (tableOf "[[3]]" "https://next") = some "https://next" := by decide +kernel
  have hcut : azure.Cut whole pages :=
    .azure_pair hlink (by decide +kernel) (by decide +kernel) (by decide +kernel) (by rw [hpage, hlast, hboth]; rfl)
      (by decide +kernel)
  have hcount : pages.length ≤ maxPages := by decide
  have hreplies : replies.map Reply.document? = pages.map some := by
    show [_, _] = [_, _]
    rw [tableReply_document? (by decide +kernel), tableReply_document? (by decide +kernel)]
  have hreply : (tableReply "[[3],[5]]" "").document? = some whole := tableReply_document? (by decide +kernel)
  have hsame := (costs_of_cut hcut hcount hreplies hreply access Date.min Date.min w [] []).1
  exact ⟨hcut, hcount, hreplies, hreply, by decide +kernel, hsame⟩

end Provider

end SpendLedger
