import SpendLedger.Proofs.Calendar.NextDay
import SpendLedger.Proofs.Provider.Pages
import SpendLedger.Proofs.Provider.Questions

/-!
# Which days providers are asked for

Azure and GCP are asked for the time from the first second of a day to the last second of another, AWS for the days up to one
that is no longer inside. What both ways of asking hold is the same: for costs the days from the first to the last one, on
every page, and for a forecast the days of the month after today's.
-/

namespace SpendLedger

/-- The texts of both ends of a stretch of time, under their names. -/
def Tree.stretch? (first last : String) (period : Tree) : Option (String × String) := do
  let first ← (period.get? first).bind text?
  let last ← (period.get? last).bind text?
  pure (first, last)

namespace Date

/-- Two texts tell a stretch of time from the first second of a day to the last second of another, and a day is in it. -/
def IsWithin (stretch : Option (String × String)) (d : Date) : Prop :=
  ∃ first last : Date, stretch = some (first.toText ++ "T00:00:00Z", last.toText ++ "T23:59:59Z") ∧ first ≤ d ∧ d ≤ last

/-- Two texts tell a stretch of days from one up to another that is no longer inside, and a day is in it. -/
def IsFromBefore (stretch : Option (String × String)) (d : Date) : Prop :=
  ∃ first next : Date, stretch = some (first.toText, next.toText) ∧ first ≤ d ∧ d < next

/-- The stretch from one day to the end of another holds the days between them. -/
theorem isWithin_iff {first last d : Date} :
    IsWithin (some (first.toText ++ "T00:00:00Z", last.toText ++ "T23:59:59Z")) d ↔ first ≤ d ∧ d ≤ last := by
  constructor
  · rintro ⟨first', last', hstretch, h⟩
    obtain ⟨hfirst, hlast⟩ := Prod.mk.inj (Option.some.inj hstretch)
    rwa [toText_inj.1 (String.append_left_inj _ |>.1 hfirst), toText_inj.1 (String.append_left_inj _ |>.1 hlast)]
  · exact fun h => ⟨first, last, rfl, h⟩

/-- The stretch from one day up to another holds the days from the one on that are before the other. -/
theorem isFromBefore_iff {first next d : Date} :
    IsFromBefore (some (first.toText, next.toText)) d ↔ first ≤ d ∧ d < next := by
  constructor
  · rintro ⟨first', next', hstretch, h⟩
    obtain ⟨hfirst, hnext⟩ := Prod.mk.inj (Option.some.inj hstretch)
    rwa [toText_inj.1 hfirst, toText_inj.1 hnext]
  · exact fun h => ⟨first, next, rfl, h⟩

end Date

namespace Provider

open SpendLedger.Action

/-- A question asks about a day: the stretch of time that it tells, in the way of the provider, holds the day. -/
def AsksAbout (p : Provider) (question : Tree) (d : Date) : Prop :=
  match p with
  | azure => d.IsWithin ((question.get? "timePeriod").bind (Tree.stretch? "from" "to"))
  | aws => d.IsFromBefore ((question.get? "TimePeriod").bind (Tree.stretch? "Start" "End"))
  | gcp => d.IsWithin (((question.get? "reportConfig").bind (Tree.get? "timePeriod")).bind
      (Tree.stretch? "startTime" "endTime"))

/-- A question asks about some days and no others. -/
def AsksExactly (p : Provider) (days : Date → Prop) (question : Tree) : Prop :=
  ∀ d, p.AsksAbout question d ↔ days d

/-! ## Questions -/

/-- The question of AWS for costs tells the days up to the day after the last one, from the page of any token on. -/
theorem aws_stretch (first last : Date) (token : Option String) :
    ((Aws.costQuestion first last token).get? "TimePeriod").bind (Tree.stretch? "Start" "End") =
      some (first.toText, (last.next?.getD last).toText) := by
  cases token <;> rfl

/-- The questions for the costs of some days ask about these days, unless the last of all is among them. -/
theorem IsCostQuestion.asksExactly {p : Provider} {first last : Date} {question : Tree} (hlast : last < Date.max)
    (h : p.IsCostQuestion first last question) : p.AsksExactly (fun d => first ≤ d ∧ d ≤ last) question := by
  intro d
  cases p with
  | azure =>
    obtain rfl : question = Azure.costQuestion first last := h
    exact Date.isWithin_iff
  | aws =>
    obtain ⟨token, rfl⟩ := h
    obtain ⟨next, hnext, hbefore⟩ := Date.lt_next_iff hlast
    unfold AsksAbout
    dsimp only
    rw [aws_stretch, hnext, Option.getD_some, Date.isFromBefore_iff, hbefore]
  | gcp =>
    obtain rfl : question = Gcp.costQuestion first last := h
    exact Date.isWithin_iff

/-- The questions for a forecast ask about the days of the following month, if it and the month after it can be told. -/
theorem IsForecastQuestion.asksExactly {p : Provider} {today : Date} {question : Tree}
    (hmonths : today.monthIndex + 2 ≤ Date.max.monthIndex) (h : p.IsForecastQuestion today question) :
    p.AsksExactly (fun d => d.monthIndex = today.monthIndex + 1) question := by
  intro d
  obtain ⟨hwithin, hbefore⟩ := Date.followingMonth_holds hmonths d
  cases p with
  | azure =>
    obtain rfl : question = Azure.forecastQuestion today := h
    exact Date.isWithin_iff.trans hwithin
  | aws =>
    obtain rfl : question = Aws.forecastQuestion today := h
    exact Date.isFromBefore_iff.trans hbefore
  | gcp => exact h.elim

/-! ## Listings -/

/-- Pages that are a listing name one page less than they are. -/
theorem IsListing.length_eq {p : Provider} {pages : List Tree} (h : IsListing p.namesNext pages) :
    (pages.filterMap p.next?).length + 1 = pages.length := by
  induction pages with
  | nil => exact absurd h (not_isListing_nil _)
  | cons page pages ih =>
    rcases isListing_cons_iff.1 h with ⟨hlast, rfl⟩ | ⟨hmore, hlater⟩
    · rw [namesNext_eq, Option.isSome_eq_false_iff, Option.isNone_iff_eq_none] at hlast
      rw [List.filterMap_cons_none hlast]
      rfl
    · rw [namesNext_eq] at hmore
      obtain ⟨name, hname⟩ := Option.isSome_iff_exists.1 hmore
      rw [List.filterMap_cons_some hname, List.length_cons, List.length_cons, ih hlater]

/-- What asks for a page of costs shows one document. -/
theorem AsksFor.question?_isSome {p : Provider} {access : Access} {first last : Date} {name : Option String}
    {contact : Contact} (h : p.AsksFor access first last name contact) : contact.question?.isSome = true := by
  cases p with
  | azure =>
    obtain ⟨_, _, _, _, rfl⟩ := h
    rfl
  | aws =>
    obtain ⟨_, _, _, rfl⟩ := h
    rfl
  | gcp =>
    obtain ⟨_, _, _, _, rfl⟩ := h
    rfl

/-- What asks for some pages of costs shows as many documents. -/
theorem length_questions_of_asksFor {p : Provider} {access : Access} {first last : Date} {names : List (Option String)}
    {contacts : List Contact} (h : List.Forall₂ (p.AsksFor access first last) names contacts) :
    (contacts.filterMap Contact.question?).length = names.length := by
  induction h with
  | nil => rfl
  | cons hpage _ ih =>
    obtain ⟨question, hquestion⟩ := Option.isSome_iff_exists.1 hpage.question?_isSome
    rw [List.filterMap_cons_some hquestion, List.length_cons, List.length_cons, ih]

/-- Where the pages of a listing wait and nothing keeps a provider from answering, each of them is asked for once. -/
theorem length_questions_of_listing {p : Provider} {pages : List Tree} {replies : List Reply}
    (hlisting : IsListing p.namesNext pages) (hcount : pages.length ≤ maxPages)
    (hlinks : p = azure → ∀ page ∈ pages, ∀ link, p.next? page = some link → addressObstacle? true link [] = none)
    (hreplies : replies.map Reply.document? = pages.map some) {access : Access} {first last : Date} {w : World}
    (hopen : p.costsObstacle? access first last w = none) (later : List Reply) :
    (p.costsFrom access first last w (replies ++ later)).2.network.questions.length =
      w.network.questions.length + pages.length := by
  obtain ⟨_, hasked⟩ := costsFrom_answersAll hlisting hcount hlinks hreplies access first last w later
  obtain ⟨contacts, hleft, hasks⟩ := hasked hopen
  unfold Network.questions
  rw [hleft.contacts_eq, List.filterMap_append, List.length_append, length_questions_of_asksFor hasks, List.length_cons,
    List.length_map, hlisting.length_eq]

/-! ## The days -/

/-- Providers are asked for the right days. For costs AWS is asked, from the page of any token on, for the days up to the one
after the last, which are the days from the first to the last one that Azure and GCP are asked for; and for a forecast Azure
and AWS are asked for the days of the month after today's, in either way of telling them. These are the days in every document
that the other side sees, however the asking ends, and where the pages of a listing wait there is one document for each. -/
theorem asks_right_days {first last today : Date} (hlast : last < Date.max)
    (hmonths : today.monthIndex + 2 ≤ Date.max.monthIndex) :
    ((∀ token, aws.AsksExactly (fun d => first ≤ d ∧ d ≤ last) (Aws.costQuestion first last token)) ∧
      azure.AsksExactly (fun d => first ≤ d ∧ d ≤ last) (Azure.costQuestion first last) ∧
      gcp.AsksExactly (fun d => first ≤ d ∧ d ≤ last) (Gcp.costQuestion first last)) ∧
    (azure.AsksExactly (fun d => d.monthIndex = today.monthIndex + 1) (Azure.forecastQuestion today) ∧
      aws.AsksExactly (fun d => d.monthIndex = today.monthIndex + 1) (Aws.forecastQuestion today)) ∧
    (∀ (p : Provider) access, Asks (p.AsksExactly fun d => first ≤ d ∧ d ≤ last) (p.costs access first last)) ∧
    (∀ (p : Provider) access w, w.today = today →
      ∃ asked, (run w (p.forecast access)).2.network.questions = w.network.questions ++ asked ∧
        ∀ question ∈ asked, p.AsksExactly (fun d => d.monthIndex = today.monthIndex + 1) question) ∧
    ∀ (p : Provider) access w pages replies later, IsListing p.namesNext pages → pages.length ≤ maxPages →
      (p = azure → ∀ page ∈ pages, ∀ link, p.next? page = some link → addressObstacle? true link [] = none) →
      replies.map Reply.document? = pages.map some → p.costsObstacle? access first last w = none →
      (p.costsFrom access first last w (replies ++ later)).2.network.questions.length =
        w.network.questions.length + pages.length := by
  have hcosts : ∀ {p : Provider} {question}, p.IsCostQuestion first last question →
      p.AsksExactly (fun d => first ≤ d ∧ d ≤ last) question := IsCostQuestion.asksExactly hlast
  refine ⟨⟨fun token => hcosts ⟨token, rfl⟩, hcosts rfl, hcosts rfl⟩, ?_, ?_, ?_, ?_⟩
  · exact ⟨IsForecastQuestion.asksExactly hmonths rfl, IsForecastQuestion.asksExactly hmonths rfl⟩
  · intro p access w
    obtain ⟨asked, hquestions, hasked⟩ := asks_costs p access first last w
    exact ⟨asked, hquestions, fun question hquestion => hcosts (hasked question hquestion)⟩
  · rintro p access w rfl
    obtain ⟨asked, hquestions, hasked⟩ := asked_forecast p access w
    exact ⟨asked, hquestions, fun question hquestion => (hasked question hquestion).asksExactly hmonths⟩
  · exact fun p access w pages replies later hlisting hcount hlinks hreplies hopen =>
      length_questions_of_listing hlisting hcount hlinks hreplies hopen later

/-- For the last two days of a leap February AWS is asked up to the first of March, and on the last day of a year both are
asked for a forecast of the first month of the next one; two pages of costs are asked for twice. -/
theorem asks_right_days_leapFebruary :
    let first : Date := ⟨2024, 2, 28, by decide⟩
    let last : Date := ⟨2024, 2, 29, by decide⟩
    let today : Date := ⟨2023, 12, 31, by decide⟩
    let pages := [tableOf "[[3]]" "https://next", tableOf "[[5]]" ""]
    let replies := [tableReply "[[3]]" "https://next", tableReply "[[5]]" ""]
    let access : Access := ⟨"account", "token", none, some "https://first"⟩
    let w : World := ⟨Store.empty, ⟨today, 0, 0, 0⟩, Table.empty, .detached, ⟨true, [], []⟩, []⟩
    last < Date.max ∧ today.monthIndex + 2 ≤ Date.max.monthIndex ∧
      ((Aws.costQuestion first last (some "more")).get? "TimePeriod").bind (Tree.stretch? "Start" "End") =
        some ("2024-02-28", "2024-03-01") ∧
      aws.AsksExactly (fun d => first ≤ d ∧ d ≤ last) (Aws.costQuestion first last (some "more")) ∧
      ((Azure.forecastQuestion today).get? "timePeriod").bind (Tree.stretch? "from" "to") =
        some ("2024-01-01T00:00:00Z", "2024-01-31T23:59:59Z") ∧
      azure.AsksExactly (fun d => d.monthIndex = today.monthIndex + 1) (Azure.forecastQuestion today) ∧
      replies.map Reply.document? = pages.map some ∧ azure.costsObstacle? access first last w = none ∧
      (azure.costsFrom access first last w (replies ++ [])).2.network.questions.length =
        w.network.questions.length + pages.length := by
  intro first last today pages replies access w
  have hlast : last < Date.max := by decide
  have hmonths : today.monthIndex + 2 ≤ Date.max.monthIndex := by decide
  obtain ⟨⟨haws, -⟩, ⟨hforecast, -⟩, -, -, hlisted⟩ := @asks_right_days first last today hlast hmonths
  have hlink : Azure.nextLink? (tableOf "[[3]]" "https://next") = some "https://next" := by decide +kernel
  have hend : Azure.nextLink? (tableOf "[[5]]" "") = none := by decide +kernel
  have hreplies : replies.map Reply.document? = pages.map some := by
    show [_, _] = [_, _]
    rw [tableReply_document? (by decide +kernel), tableReply_document? (by decide +kernel)]
  have hopen : azure.costsObstacle? access first last w = none := by decide +kernel
  have hcount := hlisted azure access w pages replies [] (isListing_azure_pair hlink hend) (by decide)
    (fun _ => links_azure_pair hlink (by decide +kernel) hend) hreplies hopen
  exact ⟨hlast, hmonths, by decide +kernel, haws (some "more"), by decide +kernel, hforecast, hreplies, hopen, hcount⟩

end Provider

end SpendLedger
