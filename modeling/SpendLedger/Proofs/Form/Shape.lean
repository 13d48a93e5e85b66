import Mathlib.Data.List.Perm.Basic
import Mathlib.Logic.Relation
import SpendLedger.Form.Basic

/-!
# Documents that say the same

A reader of named parts passes over names that it does not know, whatever stands under them, and takes a part that may be
missing for missing where it is null. Documents that differ in such things alone, at any depth, say the same. The shape of a
type tells which names it knows and what stands under them.
-/

namespace SpendLedger

/-- What a type looks for in a document. -/
inductive Shape where
  | plain
  /-- Parts under names: whether a part may be missing, and its shape. -/
  | record (parts : List (String × Bool × Shape))
  | row (item : Shape)
  | table (value : Shape)

namespace Shape

/-- One document says the same as another but for one thing. -/
inductive Step : Shape → Tree → Tree → Prop where
  | unknown {parts : List (String × Bool × Shape)} {name : String} (value : Tree) (entries : List (String × Tree))
      (new : parts.lookup name = none) : Step (record parts) (.fields entries) (.fields ((name, value) :: entries))
  /-- A part that may be missing, and is, is said to be null. -/
  | null {parts : List (String × Bool × Shape)} {name : String} {shape : Shape} (entries : List (String × Tree))
      (known : parts.lookup name = some (true, shape)) (missing : name ∉ entries.map Prod.fst) :
      Step (record parts) (.fields entries) (.fields ((name, .null) :: entries))
  | order {parts : List (String × Bool × Shape)} {entries entries' : List (String × Tree)} (perm : entries.Perm entries') :
      Step (record parts) (.fields entries) (.fields entries')
  | part {parts : List (String × Bool × Shape)} {name : String} {optional : Bool} {shape : Shape} {t t' : Tree}
      (entries : List (String × Tree)) (known : parts.lookup name = some (optional, shape)) (step : Step shape t t') :
      Step (record parts) (.fields ((name, t) :: entries)) (.fields ((name, t') :: entries))
  | item {shape : Shape} {t t' : Tree} (before after : List Tree) (step : Step shape t t') :
      Step (row shape) (.list (before ++ t :: after)) (.list (before ++ t' :: after))
  | value {shape : Shape} {t t' : Tree} (name : String) (before after : List (String × Tree)) (step : Step shape t t') :
      Step (table shape) (.fields (before ++ (name, t) :: after)) (.fields (before ++ (name, t') :: after))

/-- Documents that say the same: from one to the other there are such steps, this way or that. -/
def Alike (shape : Shape) : Tree → Tree → Prop :=
  Relation.EqvGen (Step shape)

variable {β : Type}

/-- A reader takes documents of a shape that say the same for the same. -/
def Respects (shape : Shape) (read : Tree → Option β) : Prop :=
  ∀ t t', Step shape t t' → read t' = read t

/-- Whatever stays as it is with every step is the same for documents that say the same. -/
theorem Respects.read_eq {shape : Shape} {read : Tree → Option β} (h : Respects shape read) {t t' : Tree}
    (halike : Alike shape t t') : read t' = read t := by
  induction halike with
  | rel t t' hstep => exact h t t' hstep
  | refl t => rfl
  | symm t t' _ ih => exact ih.symm
  | trans t t' t'' _ _ hfirst hsecond => exact hsecond.trans hfirst

theorem respects_plain (read : Tree → Option β) : Respects plain read := nofun

theorem Step.ne_null {shape : Shape} {t t' : Tree} (h : Step shape t t') : t ≠ .null ∧ t' ≠ .null := by
  cases h <;> exact ⟨nofun, nofun⟩

theorem nullable_of_ne_null {t : Tree} (ht : t ≠ .null) (read : Tree → Option β) :
    Parts.nullable read t = (read t).map some := by
  cases t <;> first | rfl | exact absurd rfl ht

/-- Nothing or a value is read alike where the value is. -/
theorem Respects.nullable {shape : Shape} {read : Tree → Option β} (h : Respects shape read) :
    Respects shape (Parts.nullable read) := by
  intro t t' hstep
  obtain ⟨hne, hne'⟩ := hstep.ne_null
  rw [nullable_of_ne_null hne, nullable_of_ne_null hne', h t t' hstep]

/-- A row is read alike where its values are. -/
theorem Respects.listOf? {shape : Shape} {read : Tree → Option β} (h : Respects shape read) :
    Respects (row shape) (Tree.listOf? read) := by
  intro t t' hstep
  cases hstep with
  | item before after hstep =>
    rw [Tree.listOf?, Tree.listOf?, List.mapM_append, List.mapM_append, List.mapM_cons, List.mapM_cons, h _ _ hstep]

/-- A table is read alike where its values are. -/
theorem Respects.tableOf? {shape : Shape} {read : Tree → Option β} (h : Respects shape read) :
    Respects (table shape) (Tree.tableOf? read) := by
  intro t t' hstep
  cases hstep with
  | value name before after hstep =>
    rw [Tree.tableOf?, Tree.tableOf?, List.mapM_append, List.mapM_append, List.mapM_cons, List.mapM_cons, h _ _ hstep]

/-! ## Parts -/

/-- What two documents that say the same give for a part. -/
inductive Given (optional : Bool) (shape : Shape) : Option Tree → Option Tree → Prop where
  | same (found : Option Tree) : Given optional shape found found
  | null (missing : optional = true) : Given optional shape none (some .null)
  | part {t t' : Tree} (step : Step shape t t') : Given optional shape (some t) (some t')

/-- An answer is the same for what says the same, if it is for nothing and null, and for values that say the same. -/
theorem Given.answer_eq {α : Type} {optional : Bool} {shape : Shape} {found found' : Option Tree}
    (h : Given optional shape found found') (answer : Option Tree → α)
    (hnull : optional = true → answer (some .null) = answer none)
    (hpart : ∀ t t', Step shape t t' → answer (some t') = answer (some t)) : answer found' = answer found := by
  cases h with
  | same found => rfl
  | null hmissing => exact hnull hmissing
  | part hstep => exact hpart _ _ hstep

/-- Two documents give parts that say the same. -/
structure SameParts (parts : List (String × Bool × Shape)) (p p' : Parts) : Prop where
  named : p.inOrder = false ∧ p'.inOrder = false
  given : ∀ {name optional shape}, parts.lookup name = some (optional, shape) →
    Given optional shape (p.find? name) (p'.find? name)

/-- Where names are different, the order does not matter for what is found under a name. -/
theorem find?_of_perm {entries entries' : List (String × Tree)} (hperm : entries.Perm entries')
    (hnodup : (entries.map Prod.fst).Nodup) (name : String) :
    (entries'.find? fun e => e.1 = name) = entries.find? fun e => e.1 = name := by
  induction hperm with
  | nil => rfl
  | cons e _ ih =>
    rw [List.map_cons, List.nodup_cons] at hnodup
    rw [List.find?_cons, List.find?_cons, ih hnodup.2]
  | swap e d l =>
    rw [List.map_cons, List.map_cons, List.nodup_cons] at hnodup
    have hne : d.1 ≠ e.1 := fun heq => hnodup.1 (heq ▸ List.mem_cons_self)
    by_cases he : e.1 = name
    · have hd : d.1 ≠ name := fun hd => hne (hd.trans he.symm)
      simp [he, hd]
    · simp [List.find?_cons, he]
  | trans hfirst _ ihfirst ihsecond =>
    rw [ihsecond ((hfirst.map Prod.fst).nodup_iff.1 hnodup), ihfirst hnodup]

variable {parts : List (String × Bool × Shape)}

/-- The names that are known are those of the parts. -/
theorem contains_names (name : String) : (parts.map Prod.fst).contains name = (parts.lookup name).isSome := by
  induction parts with
  | nil => rfl
  | cons part later ih =>
    obtain ⟨known, part⟩ := part
    rw [List.map_cons, List.contains_cons, List.lookup_cons, ih]
    cases name == known <;> rfl

/-- The entries of a document that are parts. -/
def own (parts : List (String × Bool × Shape)) (entries : List (String × Tree)) : List (String × Tree) :=
  entries.filter fun e => (parts.map Prod.fst).contains e.1

theorem own_cons_of_known {name : String} {known : Bool × Shape} (hknown : parts.lookup name = some known) (t : Tree)
    (entries : List (String × Tree)) : own parts ((name, t) :: entries) = (name, t) :: own parts entries :=
  List.filter_cons_of_pos (by simp only [contains_names, hknown, Option.isSome_some])

theorem own_cons_of_unknown {name : String} (hnew : parts.lookup name = none) (t : Tree)
    (entries : List (String × Tree)) : own parts ((name, t) :: entries) = own parts entries :=
  List.filter_cons_of_neg (by simp only [contains_names, hnew, Option.isSome_none, Bool.false_eq_true, not_false_eq_true])

/-- The parts are those entries, if no name stands twice among them. -/
theorem of?_fields (entries : List (String × Tree)) : Parts.of? (parts.map Prod.fst) (.fields entries) =
    if ((own parts entries).map Prod.fst).Nodup then some ⟨false, own parts entries⟩ else none := rfl

/-- A part is the first that was given under its name. -/
theorem find?_cons (inOrder : Bool) (known : String) (t : Tree) (given : List (String × Tree)) (name : String) :
    Parts.find? ⟨inOrder, (known, t) :: given⟩ name =
      if known = name then some t else Parts.find? ⟨inOrder, given⟩ name := by
  unfold Parts.find?
  by_cases hname : known = name
  · simp [hname]
  · simp [hname]

/-- What stands under none of the names is not given. -/
theorem find?_eq_none {inOrder : Bool} {given : List (String × Tree)} {name : String} (h : name ∉ given.map Prod.fst) :
    Parts.find? ⟨inOrder, given⟩ name = none := by
  unfold Parts.find?
  rw [Option.map_eq_none_iff, List.find?_eq_none]
  exact fun e he hname => h (List.mem_map.2 ⟨e, he, of_decide_eq_true hname⟩)

/-- Documents give the same parts, or none, if names stand twice in both or in none, and the parts say the same in the second
case. -/
theorem of?_fields_cases {entries entries' : List (String × Tree)}
    (hnodup : ((own parts entries').map Prod.fst).Nodup ↔ ((own parts entries).map Prod.fst).Nodup)
    (hparts : ((own parts entries).map Prod.fst).Nodup →
      SameParts parts ⟨false, own parts entries⟩ ⟨false, own parts entries'⟩) :
    (∃ p p', Parts.of? (parts.map Prod.fst) (.fields entries) = some p ∧
      Parts.of? (parts.map Prod.fst) (.fields entries') = some p' ∧ SameParts parts p p') ∨
    Parts.of? (parts.map Prod.fst) (.fields entries) = none ∧
      Parts.of? (parts.map Prod.fst) (.fields entries') = none := by
  rw [of?_fields, of?_fields]
  by_cases hentries : ((own parts entries).map Prod.fst).Nodup
  · rw [if_pos hentries, if_pos (hnodup.2 hentries)]
    exact Or.inl ⟨_, _, rfl, rfl, hparts hentries⟩
  · rw [if_neg hentries, if_neg (mt hnodup.1 hentries)]
    exact Or.inr ⟨rfl, rfl⟩

/-- Parts that are the same but for one, and say the same there, say the same. -/
theorem SameParts.of_one {name : String} {optional : Bool} {shape : Shape}
    (hknown : parts.lookup name = some (optional, shape)) {given given' : List (String × Tree)}
    (hone : Given optional shape (Parts.find? ⟨false, given⟩ name) (Parts.find? ⟨false, given'⟩ name))
    (hother : ∀ other, other ≠ name → Parts.find? ⟨false, given'⟩ other = Parts.find? ⟨false, given⟩ other) :
    SameParts parts ⟨false, given⟩ ⟨false, given'⟩ := by
  refine ⟨⟨rfl, rfl⟩, @fun other optional' shape' hlookup => ?_⟩
  by_cases hname : other = name
  · subst hname
    obtain ⟨rfl, rfl⟩ : optional = optional' ∧ shape = shape' := by simpa [hknown] using hlookup
    exact hone
  · rw [hother other hname]
    exact .same _

/-- A step gives the same parts to both documents, or none to both. -/
theorem Step.of?_cases {t t' : Tree} (h : Step (record parts) t t') :
    (∃ p p', Parts.of? (parts.map Prod.fst) t = some p ∧ Parts.of? (parts.map Prod.fst) t' = some p' ∧
      SameParts parts p p') ∨
    Parts.of? (parts.map Prod.fst) t = none ∧ Parts.of? (parts.map Prod.fst) t' = none := by
  cases h with
  | unknown value entries hnew =>
    refine of?_fields_cases ?_ fun _ => ⟨⟨rfl, rfl⟩, fun _ => ?_⟩
    · rw [own_cons_of_unknown hnew]
    · rw [own_cons_of_unknown hnew]
      exact .same _
  | @null _ name shape entries hknown hmissing =>
    have habsent : name ∉ (own parts entries).map Prod.fst := fun hmem =>
      hmissing ((List.filter_sublist.map Prod.fst).subset hmem)
    refine of?_fields_cases ?_ fun _ => .of_one hknown ?_ fun other hother => ?_
    · rw [own_cons_of_known hknown, List.map_cons, List.nodup_cons]
      exact ⟨And.right, And.intro habsent⟩
    · rw [own_cons_of_known hknown, find?_cons, if_pos rfl, find?_eq_none habsent]
      exact .null rfl
    · rw [own_cons_of_known hknown, find?_cons, if_neg (Ne.symm hother)]
  | @order _ entries entries' hperm =>
    have howns : (own parts entries).Perm (own parts entries') := hperm.filter _
    refine of?_fields_cases (howns.map Prod.fst).nodup_iff.symm fun hnodup => ⟨⟨rfl, rfl⟩, @fun other _ _ _ => ?_⟩
    have hfound : Parts.find? ⟨false, own parts entries'⟩ other = Parts.find? ⟨false, own parts entries⟩ other :=
      congrArg (Option.map Prod.snd) (find?_of_perm howns hnodup other)
    rw [hfound]
    exact .same _
  | @part _ name optional shape t t' entries hknown hstep =>
    refine of?_fields_cases ?_ fun _ => .of_one hknown ?_ fun other hother => ?_
    · rw [own_cons_of_known hknown, own_cons_of_known hknown, List.map_cons, List.map_cons]
    · rw [own_cons_of_known hknown, own_cons_of_known hknown, find?_cons, find?_cons, if_pos rfl, if_pos rfl]
      exact .part hstep
    · rw [own_cons_of_known hknown, own_cons_of_known hknown, find?_cons, find?_cons, if_neg (Ne.symm hother),
        if_neg (Ne.symm hother)]

/-- A reader that takes parts that say the same for the same respects the shape of these parts. -/
theorem respects_record {body : Parts → Option β} (hbody : ∀ p p', SameParts parts p p' → body p' = body p) :
    Respects (record parts) fun t => (Parts.of? (parts.map Prod.fst) t).bind body := by
  intro t t' hstep
  rcases hstep.of?_cases with ⟨p, p', hp, hp', hsame⟩ | ⟨hnone, hnone'⟩
  · simp only [hp, hp', Option.bind_some, hbody p p' hsame]
  · simp only [hnone, hnone', Option.bind_none]

/-- A part that has a usual value is what is found, read, or else the usual value. -/
theorem orElse_eq (p : Parts) (name : String) (read : Tree → Option β) (usual : β) :
    p.orElse name read usual = (p.find? name).elim (some usual) read := by
  unfold Parts.orElse
  cases p.find? name <;> rfl

/-- Where parts have names, one that may be null is usually none. -/
theorem optional_eq {p : Parts} (hnamed : p.inOrder = false) (name : String) (read : Tree → Option β) :
    p.optional name read = p.orElse name (Parts.nullable read) none := by
  unfold Parts.optional Parts.orElse
  rw [hnamed]
  cases p.find? name <;> rfl

namespace SameParts

variable {p p' : Parts} {shape : Shape} {read : Tree → Option β}

theorem required (h : SameParts parts p p') (name : String) (hpart : parts.lookup name = some (false, shape))
    (hread : Respects shape read) : p'.required name read = p.required name read :=
  (h.given hpart).answer_eq (fun found => found.bind read) nofun hread

theorem orElse (h : SameParts parts p p') (name : String) (hpart : parts.lookup name = some (false, shape))
    (hread : Respects shape read) (usual : β) : p'.orElse name read usual = p.orElse name read usual := by
  rw [orElse_eq, orElse_eq]
  exact (h.given hpart).answer_eq (fun found => found.elim (some usual) read) nofun hread

/-- A part that may be null or left out is read alike. -/
theorem orElse_nullable (h : SameParts parts p p') (name : String) (hpart : parts.lookup name = some (true, shape))
    (hread : Respects shape read) :
    p'.orElse name (Parts.nullable read) none = p.orElse name (Parts.nullable read) none := by
  rw [orElse_eq, orElse_eq]
  exact (h.given hpart).answer_eq (fun found => found.elim (some none) (Parts.nullable read)) (fun _ => rfl) hread.nullable

theorem optional (h : SameParts parts p p') (name : String) (hpart : parts.lookup name = some (true, shape))
    (hread : Respects shape read) : p'.optional name read = p.optional name read := by
  rw [optional_eq h.named.1, optional_eq h.named.2, h.orElse_nullable name hpart hread]

end SameParts

end Shape

end SpendLedger
