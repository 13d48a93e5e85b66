import SpendLedger.Config.FreeTierFile
import SpendLedger.Proofs.Table
import SpendLedger.Proofs.Toml.NamesOnce

/-!
# Limits and budgets that a file gives

A file is taken only if every limit and every budget that it writes is finite and above zero, and a part that it leaves empty is
filled up with what is built in. So whatever is loaded, there are limits and budgets, and all of them are finite and above zero.
-/

namespace SpendLedger

/-- The check of an amount says that it is finite and above zero. -/
theorem Amount.isPositive_iff {x : Float} : Amount.isPositive x = true ↔ x.isFinite = true ∧ 0 < x :=
  Bool.and_eq_true_iff

/-! ## Parts of values -/

/-- What a value in a document has under a name, or at a place where it is written as a list of its parts. -/
def Tree.HasPart (name : String) (place : Nat) : Tree → Tree → Prop
  | .fields entries, part => (name, part) ∈ entries
  | .list items, part => items[place]? = some part
  | _, _ => False

/-- What is found under a name stands in a group. -/
theorem Tree.mem_of_get? {key : String} {t value : Tree} (h : t.get? key = some value) :
    ∃ entries, t = .fields entries ∧ (key, value) ∈ entries := by
  cases t with
  | fields entries =>
    obtain ⟨e, he, rfl⟩ := Option.map_eq_some_iff.1 h
    have hkey := List.find?_some he
    exact ⟨entries, rfl, of_decide_eq_true hkey ▸ List.mem_of_find?_eq_some he⟩
  | _ => cases h

/-- Of entries with different names the one of a name is found. -/
theorem Parts.find?_of_mem {inOrder : Bool} {given : List (String × Tree)} (hnames : (given.map Prod.fst).Nodup)
    {name : String} {t : Tree} (hmem : (name, t) ∈ given) : Parts.find? ⟨inOrder, given⟩ name = some t := by
  show (given.find? fun e => e.1 = name).map Prod.snd = some t
  induction given with
  | nil => cases hmem
  | cons e rest ih =>
    rw [List.map_cons, List.nodup_cons] at hnames
    rcases List.mem_cons.1 hmem with rfl | hrest
    · simp
    · have hne : e.1 ≠ name := fun heq => hnames.1 (heq ▸ List.mem_map_of_mem hrest)
      rw [List.find?_cons_of_neg (by simpa using hne)]
      exact ih hnames.2 hrest

/-- A part that a value has is found among its parts. -/
theorem Tree.HasPart.find? {names : List String} (hnames : names.Nodup) {name : String} {place : Nat}
    (hplace : names[place]? = some name) {t part : Tree} (hpart : t.HasPart name place part) {p : Parts}
    (hp : Parts.of? names t = some p) : p.find? name = some part := by
  cases t with
  | fields entries =>
    rw [Parts.of?] at hp
    split at hp
    · next hown =>
      cases hp
      refine Parts.find?_of_mem hown (List.mem_filter.2 ⟨hpart, ?_⟩)
      exact List.contains_iff_mem.2 (List.mem_of_getElem? hplace)
    · cases hp
  | list items =>
    rw [Parts.of?] at hp
    split at hp
    · cases hp
      refine Parts.find?_of_mem (hnames.sublist ?_) ?_
      · rw [List.zip_eq_zip_take_min, List.map_fst_zip (by simp)]
        exact List.take_sublist _ _
      · exact List.mem_of_getElem? (List.getElem?_zip_eq_some.2 ⟨hplace, hpart⟩)
    · cases hp
  | _ => cases hpart

/-- Values that are read name by name keep their names, each with what is read of it. -/
theorem Tree.mapM_read {β : Type} {read : Tree → Option β} {entries : List (String × Tree)} {made : List (String × β)}
    (h : entries.mapM (fun e => (read e.2).map fun v => (e.1, v)) = some made) :
    made.map Prod.fst = entries.map Prod.fst ∧ ∀ e ∈ entries, ∃ v, read e.2 = some v ∧ (e.1, v) ∈ made := by
  induction entries generalizing made with
  | nil =>
    cases h
    exact ⟨rfl, nofun⟩
  | cons e rest ih =>
    rw [List.mapM_cons] at h
    obtain ⟨first, hfirst, h⟩ := Option.bind_eq_some_iff.1 h
    obtain ⟨v, hv, rfl⟩ := Option.map_eq_some_iff.1 hfirst
    obtain ⟨later, hlater, h⟩ := Option.bind_eq_some_iff.1 h
    cases h
    obtain ⟨hnames, hread⟩ := ih hlater
    refine ⟨by rw [List.map_cons, List.map_cons, hnames], List.forall_mem_cons.2 ⟨⟨v, hv, List.mem_cons_self⟩, ?_⟩⟩
    exact fun e he => (hread e he).imp fun _ h => ⟨h.1, List.mem_cons_of_mem _ h.2⟩

/-- In a table of different names each value is read. -/
theorem Tree.mem_of_tableOf? {β : Type} {read : Tree → Option β} {entries : List (String × Tree)} {table : Table β}
    (h : tableOf? read (.fields entries) = some table) (hnames : (entries.map Prod.fst).Nodup) {name : String} {t : Tree}
    (hmem : (name, t) ∈ entries) : ∃ v, read t = some v ∧ (name, v) ∈ table.entries := by
  obtain ⟨made, hmade, rfl⟩ := Option.map_eq_some_iff.1 h
  obtain ⟨hkept, hread⟩ := Tree.mapM_read hmade
  obtain ⟨v, hv, hmadeMem⟩ := hread _ hmem
  exact ⟨v, hv, Table.mem_entries_iff.2 (Table.get?_ofList (hkept ▸ hnames) hmadeMem)⟩

/-- Each value of a table in a document that has its names once is read into the table. -/
theorem Parts.mem_of_orElse {β : Type} {document entries : List (String × Tree)} (honce : (Tree.fields document).NamesOnce)
    {p : Parts} {part : String} {read : Tree → Option β} {usual table : Table β} (hpart : (part, .fields entries) ∈ document)
    (hfound : p.find? part = some (.fields entries)) (htable : p.orElse part (Tree.tableOf? read) usual = some table)
    {name : String} {t : Tree} (hmem : (name, t) ∈ entries) : ∃ v, read t = some v ∧ (name, v) ∈ table.entries := by
  rw [Parts.orElse, hfound] at htable
  have hnames := Tree.namesOnce_fields.1 ((Tree.namesOnce_fields.1 honce).2 _ hpart)
  exact Tree.mem_of_tableOf? htable hnames.1 hmem

/-- The limit of a service is read as the number that its document has. -/
theorem ServiceLimit.number?_of_ofTree? {t part : Tree} {l : ServiceLimit Float} (h : ofTree? t = some l)
    (hpart : t.HasPart "limit" 1 part) : part.number? = some l.limit := by
  obtain ⟨p, hp, h⟩ := Option.bind_eq_some_iff.1 h
  obtain ⟨_, -, h⟩ := Option.bind_eq_some_iff.1 h
  obtain ⟨limit, hlimit, h⟩ := Option.bind_eq_some_iff.1 h
  obtain ⟨_, -, h⟩ := Option.bind_eq_some_iff.1 h
  obtain ⟨_, -, h⟩ := Option.bind_eq_some_iff.1 h
  obtain ⟨_, -, h⟩ := Option.bind_eq_some_iff.1 h
  cases h
  rwa [Parts.required, hpart.find? (by decide) rfl hp] at hlimit

/-- The amount of a budget is read as the number that its document has. -/
theorem BudgetPreset.number?_of_ofTree? {t part : Tree} {b : BudgetPreset Float} (h : ofTree? t = some b)
    (hpart : t.HasPart "amount" 0 part) : part.number? = some b.amount := by
  obtain ⟨p, hp, h⟩ := Option.bind_eq_some_iff.1 h
  obtain ⟨amount, hamount, h⟩ := Option.bind_eq_some_iff.1 h
  obtain ⟨_, -, h⟩ := Option.bind_eq_some_iff.1 h
  cases h
  rwa [Parts.required, hpart.find? (by decide) rfl hp] at hamount

namespace FreeTier

/-! ## What is taken -/

/-- Limits and budgets of which all are finite and above zero. -/
structure IsPositive (tier : FreeTier Float) : Prop where
  limits : ∀ e ∈ tier.services.entries, e.2.limit.isFinite = true ∧ 0 < e.2.limit
  amounts : ∀ e ∈ tier.budgets.entries, e.2.amount.isFinite = true ∧ 0 < e.2.amount

/-- Limits and budgets that can be used: there are some of both, and all are finite and above zero. -/
structure IsSound (tier : FreeTier Float) : Prop extends IsPositive tier where
  some_limit : tier.services.entries ≠ []
  some_budget : tier.budgets.entries ≠ []

/-- What is built in can be used. -/
theorem standard_isSound : (standard : FreeTier Float).IsSound where
  limits := by decide +kernel
  amounts := by decide +kernel
  some_limit := by decide +kernel
  some_budget := by decide +kernel

/-- No value is refused exactly if the amounts of all are finite and above zero. -/
theorem find?_not_isPositive_eq_none_iff {β : Type} {entries : List (String × β)} {amount : β → Float} :
    (entries.find? fun e => !Amount.isPositive (amount e.2)) = none ↔
      ∀ e ∈ entries, (amount e.2).isFinite = true ∧ 0 < amount e.2 := by
  rw [List.find?_eq_none]
  refine forall₂_congr fun e _ => ?_
  rw [← Amount.isPositive_iff, Bool.not_eq_true', Bool.not_eq_false]

/-- Exactly what is finite and above zero throughout passes the check. -/
theorem check_eq_ok_iff {path : String} {tier : FreeTier Float} : tier.check path = .ok () ↔ tier.IsPositive := by
  unfold check
  constructor
  · intro h
    split at h
    · cases h
    · next hlimits =>
      split at h
      · cases h
      · next hamounts =>
        exact ⟨find?_not_isPositive_eq_none_iff.1 hlimits, find?_not_isPositive_eq_none_iff.1 hamounts⟩
  · intro h
    rw [find?_not_isPositive_eq_none_iff.2 h.limits, find?_not_isPositive_eq_none_iff.2 h.amounts]

/-- A part that is filled up if it is empty is what is built in, or it was not empty. -/
theorem filledUp_cases {β : Type} (given builtIn : Table β) :
    (if given.isEmpty then builtIn else given) = builtIn ∨
      (if given.isEmpty then builtIn else given) = given ∧ given.entries ≠ [] := by
  unfold Table.isEmpty
  cases given.entries with
  | nil => exact Or.inl rfl
  | cons e rest => exact Or.inr ⟨rfl, List.cons_ne_nil e rest⟩

/-- What passes the check can be used once its empty parts are filled up. -/
theorem IsPositive.orStandard {tier : FreeTier Float} (h : tier.IsPositive) : tier.orStandard.IsSound := by
  have hservices : tier.orStandard.services = standard.services ∨
      tier.orStandard.services = tier.services ∧ tier.services.entries ≠ [] := filledUp_cases _ _
  have hbudgets : tier.orStandard.budgets = standard.budgets ∨
      tier.orStandard.budgets = tier.budgets ∧ tier.budgets.entries ≠ [] := filledUp_cases _ _
  -- the two parts are filled up independently of each other
  refine { limits := ?_, amounts := ?_, some_limit := ?_, some_budget := ?_ }
  · rcases hservices with hs | ⟨hs, -⟩
    · exact hs ▸ standard_isSound.limits
    · exact hs ▸ h.limits
  · rcases hbudgets with hb | ⟨hb, -⟩
    · exact hb ▸ standard_isSound.amounts
    · exact hb ▸ h.amounts
  · rcases hservices with hs | ⟨hs, hne⟩
    · exact hs ▸ standard_isSound.some_limit
    · exact hs ▸ hne
  · rcases hbudgets with hb | ⟨hb, hne⟩
    · exact hb ▸ standard_isSound.some_budget
    · exact hb ▸ hne

/-- What is loaded from a file was read from it, passed the check and was filled up. -/
theorem load_some_eq_ok_iff {path text : String} {tier : FreeTier Float} :
    load path (some text) = .ok tier ↔ ∃ written, (Toml.read? text).bind ofTree? = some written ∧ written.IsPositive ∧
      written.orStandard = tier := by
  unfold load
  dsimp only
  cases (Toml.read? text).bind ofTree? with
  | none => exact iff_of_false nofun fun ⟨_, hread, _⟩ => nomatch hread
  | some written =>
    cases hcheck : written.check path with
    | error e =>
      refine iff_of_false (fun h => ?_) fun ⟨read, hread, hpositive, _⟩ => ?_
      · dsimp only at h
        rw [hcheck] at h
        cases h
      · cases hread
        rw [check_eq_ok_iff.2 hpositive] at hcheck
        cases hcheck
    | ok u =>
      dsimp only
      rw [hcheck]
      constructor
      · intro h
        cases h
        exact ⟨written, rfl, check_eq_ok_iff.1 hcheck, rfl⟩
      · rintro ⟨read, hread, -, rfl⟩
        cases hread
        rfl

/-- Whatever is loaded can be used. -/
theorem isSound_of_load {path : String} {file : Option String} {tier : FreeTier Float} (h : load path file = .ok tier) :
    tier.IsSound := by
  cases file with
  | none =>
    cases h
    exact standard_isSound
  | some text =>
    obtain ⟨written, -, hpositive, rfl⟩ := load_some_eq_ok_iff.1 h
    exact hpositive.orStandard

/-! ## What is refused -/

/-- What a file writes as a limit or as a budget. -/
inductive IsWritten (text : String) : Tree → Prop where
  | limit {document entries : List (String × Tree)} {name : String} {service limit : Tree}
      (read : Toml.read? text = some (.fields document)) (services : ("services", .fields entries) ∈ document)
      (member : (name, service) ∈ entries) (part : service.HasPart "limit" 1 limit) : IsWritten text limit
  | amount {document entries : List (String × Tree)} {name : String} {budget amount : Tree}
      (read : Toml.read? text = some (.fields document)) (budgets : ("budgets", .fields entries) ∈ document)
      (member : (name, budget) ∈ entries) (part : budget.HasPart "amount" 0 amount) : IsWritten text amount

/-- An amount that is found in a file is written in it. -/
theorem IsWritten.of_get? {text name : String} {x : Float}
    (h : (((((Toml.read? text).bind (Tree.get? "budgets")).bind (Tree.get? name)).bind (Tree.get? "amount")).bind
      Tree.number?) = some x) : ∃ t, IsWritten text t ∧ t.number? = some x := by
  obtain ⟨amount, hamount, hnumber⟩ := Option.bind_eq_some_iff.1 h
  obtain ⟨budget, hbudget, hamount⟩ := Option.bind_eq_some_iff.1 hamount
  obtain ⟨budgets, hbudgets, hbudget⟩ := Option.bind_eq_some_iff.1 hbudget
  obtain ⟨document, hread, hbudgets⟩ := Option.bind_eq_some_iff.1 hbudgets
  obtain ⟨document, rfl, hgroup⟩ := Tree.mem_of_get? hbudgets
  obtain ⟨entries, rfl, hmember⟩ := Tree.mem_of_get? hbudget
  obtain ⟨parts, rfl, hpart⟩ := Tree.mem_of_get? hamount
  exact ⟨amount, .amount hread hgroup hmember hpart, hnumber⟩

/-- The two parts of a document are tables that are read; a part that is not there is empty. -/
theorem parts_of_ofTree? {t : Tree} {tier : FreeTier Float} (h : ofTree? t = some tier) :
    ∃ p, Parts.of? ["services", "budgets"] t = some p ∧
      p.orElse "services" (Tree.tableOf? ServiceLimit.ofTree?) Table.empty = some tier.services ∧
      p.orElse "budgets" (Tree.tableOf? BudgetPreset.ofTree?) Table.empty = some tier.budgets := by
  obtain ⟨p, hp, h⟩ := Option.bind_eq_some_iff.1 h
  obtain ⟨services, hservices, h⟩ := Option.bind_eq_some_iff.1 h
  obtain ⟨budgets, hbudgets, h⟩ := Option.bind_eq_some_iff.1 h
  cases h
  exact ⟨p, hp, hservices, hbudgets⟩

/-- What a file that is loaded writes as a limit or as a budget is a number that is finite and above zero. -/
theorem IsWritten.number {path text : String} {t : Tree} (h : IsWritten text t) {tier : FreeTier Float}
    (hload : load path (some text) = .ok tier) : ∃ x, t.number? = some x ∧ x.isFinite = true ∧ 0 < x := by
  obtain ⟨written, hwritten, hpositive, -⟩ := load_some_eq_ok_iff.1 hload
  obtain ⟨document, hdocument, htier⟩ := Option.bind_eq_some_iff.1 hwritten
  have honce := Toml.read?_namesOnce hdocument
  obtain ⟨p, hp, hservices, hbudgets⟩ := parts_of_ofTree? htier
  cases h with
  | @limit document entries name service limit read services member part =>
    cases hdocument.symm.trans read
    have hpart : (Tree.fields document).HasPart "services" 0 (.fields entries) := services
    obtain ⟨l, hl, hmem⟩ := Parts.mem_of_orElse honce services (hpart.find? (by decide) rfl hp) hservices member
    exact ⟨l.limit, l.number?_of_ofTree? hl part, hpositive.limits (name, l) hmem⟩
  | @amount document entries name budget amount read budgets member part =>
    cases hdocument.symm.trans read
    have hpart : (Tree.fields document).HasPart "budgets" 1 (.fields entries) := budgets
    obtain ⟨b, hb, hmem⟩ := Parts.mem_of_orElse honce budgets (hpart.find? (by decide) rfl hp) hbudgets member
    exact ⟨b.amount, b.number?_of_ofTree? hb part, hpositive.amounts (name, b) hmem⟩

end FreeTier

end SpendLedger
