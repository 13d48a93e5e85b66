import SpendLedger.Provider.Basic

/-!
# Pages

An answer in pages is followed from cursor to cursor. An answer that does not end within the limit counts as failed, so
that part of it is never taken for the whole.
-/

namespace SpendLedger

namespace Provider

/-- How many pages are followed at most. -/
def maxPages : Nat := 50

/-- What is said when an answer does not end. -/
def endless (p : Provider) : Failure :=
  .transport p.name none ("result still paginated after " ++ toString maxPages ++ " pages; range not stored")

variable {σ γ : Type}

/-- The rows of at most `fuel` pages behind those that were already read. -/
def followPages (p : Provider) (fetch : γ → Action σ (List UsageRow × Option γ)) :
    Nat → γ → List UsageRow → Action σ (List UsageRow)
  | 0, _, _ => throw p.endless
  | fuel + 1, cursor, rows => do
    let (page, next) ← fetch cursor
    match next with
    | some next => followPages p fetch fuel next (rows ++ page)
    | none => return rows ++ page

/-- The rows of all pages, from the first cursor on. -/
def collectPages (p : Provider) (first : γ) (fetch : γ → Action σ (List UsageRow × Option γ)) :
    Action σ (List UsageRow) :=
  followPages p fetch maxPages first []

end Provider

end SpendLedger
