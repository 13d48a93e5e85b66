import SpendLedger.Proofs.Toml.Plainest
import SpendLedger.Toml.Reader

/-!
# Documents of texts under plain names

A document that has one text a line, each under a plain name of its own, is read back as these names and texts in their
order. A line is read from its name to the line feed behind the closing quotes, and puts its text behind those of the lines
before it.
-/

namespace SpendLedger

namespace Toml

/-- A name that stands in a document without quotes. -/
def IsBareName (name : String) : Prop :=
  name.toList ≠ [] ∧ ∀ c ∈ name.toList, isBare c = true

instance (name : String) : Decidable (IsBareName name) :=
  decidable_of_iff (name.toList ≠ [] ∧ name.toList.all isBare = true) (by rw [List.all_eq_true, IsBareName])

/-- A character of such a name is none that cannot be one. -/
theorem ne_of_isBare {c d : Char} (hc : isBare c = true) (hd : isBare d = false) : c ≠ d := by
  rintro rfl
  rw [hc] at hd
  cases hd

theorem skip_cons {c : Char} (h : isSpace c = false) (cs : List Char) : skip (c :: cs) = c :: cs := by
  simp [skip, h]

/-- A character of a plain name begins a part of a line. -/
theorem isSpace_of_isBare {c : Char} (h : isBare c = true) : isSpace c = false := by
  simp only [isSpace, Bool.or_eq_false_iff, beq_eq_false_iff_ne]
  exact ⟨ne_of_isBare h (by decide), ne_of_isBare h (by decide)⟩

/-- A plain name is read up to the first character that is not its own. -/
theorem namePart?_append {name : String} (h : IsBareName name) {d : Char} (hd : isBare d = false) (rest : List Char) :
    namePart? (name.toList ++ d :: rest) = some (name, d :: rest) := by
  obtain ⟨hne, hbare⟩ := h
  have htake : (name.toList ++ d :: rest).takeWhile isBare = name.toList := by
    rw [List.takeWhile_append_of_pos hbare, List.takeWhile_cons_of_neg (by simp [hd]), List.append_nil]
  have hdrop : (name.toList ++ d :: rest).dropWhile isBare = d :: rest := by
    rw [List.dropWhile_append_of_pos hbare, List.dropWhile_cons_of_neg (by simp [hd])]
  obtain ⟨c, cs, hcs⟩ := List.exists_cons_of_ne_nil hne
  have hc : isBare c = true := hbare c (hcs ▸ List.mem_cons_self)
  unfold namePart?
  split
  · next heq =>
    rw [hcs, List.cons_append] at heq
    exact absurd (List.cons.inj heq).1 (ne_of_isBare hc (by decide))
  · next heq =>
    rw [hcs, List.cons_append] at heq
    exact absurd (List.cons.inj heq).1 (ne_of_isBare hc (by decide))
  · rw [htake, hdrop, if_neg (by simpa using hne), String.ofList_toList]

/-- A plain name before an equals sign is read as a name of one part. -/
theorem name?_append {name : String} (h : IsBareName name) (rest : List Char) (fuel : Nat) :
    name? (fuel + 1) (name.toList ++ ' ' :: '=' :: rest) = some ([name], '=' :: rest) := by
  rw [name?, namePart?_append h (by decide)]
  rfl

/-- A value that begins with a quote is a text. -/
theorem value?_quote {cs : List Char} (h : cs.head? = some '"' ∨ cs.head? = some '\'') (fuel : Nat) :
    value? (fuel + 1) cs = (readText? cs).map fun r => (.text (String.ofList r.1), r.2) := by
  rcases cs with - | ⟨c, cs⟩
  · simp at h
  · simp only [List.head?_cons, Option.some.injEq] at h
    rcases h with rfl | rfl <;> rfl

/-- A text in the plainest quotes begins with a quote. -/
theorem head?_textLiteral (s : String) (rest : List Char) :
    ((textLiteral s).toList ++ rest).head? = some '"' ∨ ((textLiteral s).toList ++ rest).head? = some '\'' := by
  unfold textLiteral between
  simp only
  repeat' split
  all_goals simp

/-! ## Lines -/

/-- The entries of texts under their names. -/
def leaves (entries : List (String × String)) : Entries :=
  entries.map fun e => (e.1, .leaf (.text e.2))

/-- What is put under a new name comes behind what is there. -/
theorem put_of_not_mem {name : String} {entries : Entries} (h : name ∉ entries.map Prod.fst) (node : Node) :
    Entries.put name node entries = entries ++ [(name, node)] := by
  induction entries with
  | nil => rfl
  | cons e entries ih =>
    obtain ⟨n, x⟩ := e
    simp only [List.map_cons, List.mem_cons, not_or] at h
    rw [Entries.put, if_neg (Ne.symm h.1), ih h.2, List.cons_append]

/-- A text is given under a new name outside of any group. -/
theorem change_give {name : String} {entries : Entries} (h : name ∉ entries.map Prod.fst) (value : Tree) :
    entries.change (Entries.give .headed value [name]) [] = some (entries ++ [(name, .leaf value)]) := by
  have hnew : entries.find? name = none := by
    rw [Entries.find?, List.lookup_eq_none_iff]
    intro e he
    rw [bne_iff_ne]
    rintro rfl
    exact h (List.mem_map_of_mem he)
  show Entries.give .headed value [name] entries = _
  rw [Entries.give, if_neg (by decide), hnew]
  simp only [put_of_not_mem h]

/-- A line with a text under a plain name puts the text behind those of the lines before it. -/
theorem line?_append {name : String} (hname : IsBareName name) {entries : Entries}
    (hnew : name ∉ entries.map Prod.fst) (value : String) (rest : List Char) :
    line? ⟨entries, []⟩ (name.toList ++ ' ' :: '=' :: ' ' :: ((textLiteral value).toList ++ '\n' :: rest)) =
      some (⟨entries ++ [(name, .leaf (.text value))], []⟩, '\n' :: rest) := by
  obtain ⟨c, cs, hcs⟩ := List.exists_cons_of_ne_nil hname.1
  have hopen : isBare '[' = false := by decide
  have hc : c ≠ '[' := ne_of_isBare (hname.2 c (hcs ▸ List.mem_cons_self)) hopen
  have hskip : skip (' ' :: ((textLiteral value).toList ++ '\n' :: rest)) =
      (textLiteral value).toList ++ '\n' :: rest := by
    obtain ⟨q, more, hq, hspace⟩ : ∃ q more, (textLiteral value).toList ++ '\n' :: rest = q :: more ∧
        isSpace q = false := by
      rcases head?_textLiteral value ('\n' :: rest) with h | h
      all_goals
        obtain ⟨more, hmore⟩ := List.head?_eq_some_iff.1 h
        exact ⟨_, more, hmore, by decide⟩
    rw [hq]
    exact skip_cons hspace more
  have hvalue (fuel : Nat) : value? (fuel + 1) ((textLiteral value).toList ++ '\n' :: rest) =
      some (.text value, '\n' :: rest) := by
    rw [value?_quote (head?_textLiteral value _), readText?_textLiteral value (by simp) (by simp), Option.map_some,
      String.ofList_toList]
  rw [line?.eq_def]
  split
  · next heq =>
    rw [hcs] at heq
    exact absurd (List.cons.inj heq).1 hc
  · next heq =>
    rw [hcs] at heq
    exact absurd (List.cons.inj heq).1 hc
  · rw [name?_append hname]
    simp only [Option.bind_eq_bind, Option.bind_some, hskip, hvalue, change_give hnew]
    rfl

/-- A line is followed by the next one behind its line feed. -/
theorem endLine?_lineFeed (rest : List Char) : endLine? ('\n' :: rest) = some rest := rfl

/-- The characters of a line and of those behind it. -/
theorem toList_write_cons (name value : String) (entries : List (String × String)) :
    (write ((name, value) :: entries)).toList =
      name.toList ++ ' ' :: '=' :: ' ' :: ((textLiteral value).toList ++ '\n' :: (write entries).toList) := by
  simp [write, String.join_cons, List.append_assoc]

/-- Lines with texts under plain names of their own are read one after the other. -/
theorem lines?_write {entries : List (String × String)} (hbare : ∀ e ∈ entries, IsBareName e.1) {found : Entries}
    (hnew : (found.map Prod.fst ++ entries.map Prod.fst).Nodup) {fuel : Nat} (h : entries.length < fuel) :
    lines? fuel ⟨found, []⟩ (write entries).toList = some (found ++ leaves entries) := by
  induction entries generalizing found fuel with
  | nil =>
    obtain ⟨fuel, rfl⟩ := Nat.exists_eq_succ_of_ne_zero (Nat.ne_zero_of_lt h)
    exact congrArg some (List.append_nil found).symm
  | cons e entries ih =>
    obtain ⟨fuel, rfl⟩ := Nat.exists_eq_succ_of_ne_zero (Nat.ne_zero_of_lt h)
    obtain ⟨name, value⟩ := e
    have hname : IsBareName name := hbare _ List.mem_cons_self
    obtain ⟨c, cs, hcs⟩ := List.exists_cons_of_ne_nil hname.1
    have hc : isBare c = true := hname.2 c (hcs ▸ List.mem_cons_self)
    have hnotin : name ∉ found.map Prod.fst :=
      fun hmem => (List.nodup_append.1 hnew).2.2 name hmem name List.mem_cons_self rfl
    have hline := line?_append hname hnotin value (write entries).toList
    have hrest : lines? fuel ⟨found ++ [(name, .leaf (.text value))], []⟩ (write entries).toList =
        some (found ++ [(name, .leaf (.text value))] ++ leaves entries) :=
      ih (fun e he => hbare e (List.mem_cons_of_mem _ he)) (by simpa using hnew) (by simpa using h)
    rw [toList_write_cons]
    obtain ⟨more, hmore⟩ : ∃ more, name.toList ++ ' ' :: '=' :: ' ' ::
        ((textLiteral value).toList ++ '\n' :: (write entries).toList) = c :: more := ⟨_, by rw [hcs, List.cons_append]⟩
    rw [hmore] at hline ⊢
    have hno : ¬(c = '#' ∨ (afterBreak? (c :: more)).isSome = true) := by
      rw [afterBreak?_eq_none (ne_of_isBare hc (by decide)) (ne_of_isBare hc (by decide))]
      have hhash : c ≠ '#' := ne_of_isBare hc (by decide)
      simpa using hhash
    rw [lines?, skip_cons (isSpace_of_isBare hc)]
    simp only [if_neg hno, hline, endLine?_lineFeed, hrest, List.append_assoc]
    rfl

/-- There are not more lines than characters. -/
theorem length_le_write (entries : List (String × String)) : entries.length ≤ (write entries).toList.length := by
  induction entries with
  | nil => exact Nat.zero_le _
  | cons e entries ih =>
    obtain ⟨name, value⟩ := e
    rw [toList_write_cons]
    simp only [List.length_append, List.length_cons]
    omega

/-- The values of texts under their names. -/
theorem entriesTrees_leaves (entries : List (String × String)) :
    entriesTrees (leaves entries) = entries.map fun e => (e.1, .text e.2) := by
  induction entries with
  | nil => rfl
  | cons e entries ih =>
    show (e.1, Tree.text e.2) :: entriesTrees (leaves entries) = _
    rw [ih, List.map_cons]

/-- The first character of texts under plain names is one of a name. -/
theorem head?_write {entries : List (String × String)} (hbare : ∀ e ∈ entries, IsBareName e.1) :
    ∀ c ∈ (write entries).toList.head?, isBare c = true := by
  intro c hc
  cases entries with
  | nil => cases hc
  | cons e entries =>
    obtain ⟨name, value⟩ := e
    obtain ⟨hne, hchars⟩ : IsBareName name := hbare _ List.mem_cons_self
    obtain ⟨d, cs, hcs⟩ := List.exists_cons_of_ne_nil hne
    rw [toList_write_cons, hcs] at hc
    rw [← Option.some.inj hc]
    exact hchars d (hcs ▸ List.mem_cons_self)

/-- Without a mark of byte order the whole text is read. -/
theorem read?_of_unmarked {s : String} (h : ∀ c ∈ s.toList.head?, c.toNat ≠ 0xFEFF) :
    read? s = (lines? (s.toList.length + 2) ⟨[], []⟩ s.toList).map fun entries => .fields (entriesTrees entries) := by
  unfold read?
  cases hs : s.toList with
  | nil => rfl
  | cons c cs =>
    have hc : c.toNat ≠ 0xFEFF := h c (by rw [hs]; rfl)
    simp only [if_neg hc]

/-- A document of texts under plain names, each name once, is read back as it was. -/
theorem read?_write {entries : List (String × String)} (hbare : ∀ e ∈ entries, IsBareName e.1)
    (hnodup : (entries.map Prod.fst).Nodup) :
    read? (write entries) = some (.fields (entries.map fun e => (e.1, .text e.2))) := by
  have hunmarked : ∀ c ∈ (write entries).toList.head?, c.toNat ≠ 0xFEFF := by
    intro c hc hmark
    have hfalse : isBare '\ufeff' = false := by decide
    exact ne_of_isBare (head?_write hbare c hc) hfalse (Char.toNat_inj.1 hmark)
  have hlength : entries.length < (write entries).toList.length + 2 := by
    have := length_le_write entries
    omega
  rw [read?_of_unmarked hunmarked, lines?_write hbare (by simpa using hnodup) hlength, List.nil_append, Option.map_some,
    entriesTrees_leaves]

end Toml

end SpendLedger
