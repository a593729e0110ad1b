import LinkLedger.Failure
import LinkLedger.Index.Access
import LinkLedger.Settings.Basic

/-!
# Removing all records

A job removes all records page by page.  Its progress can be saved between two pages and the job be
taken up from there.
-/

namespace LinkLedger

/-- How far a job has come: the number of the last record removed, the pages done, the records
removed, and whether nothing is left. -/
structure Progress where
  cursor : Option Nat
  pages : Nat
  deleted : Nat
  finished : Bool
  deriving DecidableEq, Repr

/-- The progress of a job that has not begun. -/
def Progress.initial : Progress := ⟨none, 0, 0, false⟩

instance : Inhabited Progress := ⟨.initial⟩

/-- What processing a page did. -/
inductive PageOutcome where
  | deleted (n : Nat)
  | finished
  deriving DecidableEq, Repr

/-- A job: the largest number of records of a page, and its progress. -/
structure Removal where
  pageSize : Nat
  progress : Progress
  deriving DecidableEq, Repr

namespace Removal

variable {σ : Type}

/-- Takes up a job; a page has one record at least. -/
def resume (pageSize : Nat) (progress : Progress) : Removal := ⟨max pageSize 1, progress⟩

/-- A new job. -/
def start (pageSize : Nat) : Removal := resume pageSize .initial

/-- The text of the failure of an index that counts records and lists none. -/
def emptyPageText (remaining : Nat) : String :=
  s!"link index reports {remaining} records but returned an empty first page"

/-- What to do at an empty page. -/
def atEmptyPage (p : Progress) (remaining : Nat) : Except Failure (PageOutcome × Progress) :=
  if remaining = 0 then .ok (.finished, { p with finished := true })
  else
    match p.cursor with
    | none => .error (.storage (emptyPageText remaining))
    | some _ => .ok (.deleted 0, { p with cursor := none })

/-- The progress behind a page whose records had the numbers `ids`, of which `deleted` were
there. -/
def behindPage (p : Progress) (ids : List Nat) (deleted : Nat) : Progress :=
  { p with cursor := ids.max?.or p.cursor, pages := p.pages + 1, deleted := p.deleted + deleted }

/-- Processes a page that has been loaded; gives the new progress. -/
def processLoaded (a : Access σ) (p : Progress) (page : List LinkRecord) :
    Step Failure σ (PageOutcome × Progress) :=
  if page.isEmpty then do
    let remaining ← a.count.mapFailure .storage
    ExceptT.mk (pure (atEmptyPage p remaining))
  else do
    let ids := page.filterMap (·.id)
    let deleted ← (a.delete ids).mapFailure .storage
    pure (.deleted deleted, behindPage p ids deleted)

/-- Processes the next page; gives the new progress. -/
def processPage (a : Access σ) (pageSize : Nat) (p : Progress) :
    Step Failure σ (PageOutcome × Progress) := do
  if p.finished then pure (.finished, p)
  else do
    let page ← (a.page p.cursor pageSize).mapFailure .storage
    processLoaded a p page

/-- Processes the next page of a job; a failure leaves the job as it is. -/
def next (a : Access σ) (job : Removal) (s : σ) : (Except Failure PageOutcome × Removal) × σ :=
  match processPage a job.pageSize job.progress s with
  | (.ok (outcome, p), s') => ((.ok outcome, { job with progress := p }), s')
  | (.error e, s') => ((.error e, job), s')

/-- Processes at most `fuel` pages; gives nothing if that is not enough.  `cancelled k` tells
whether the job is found to be cancelled when that is looked up for the `k`-th time, from 0 on. -/
def runFor (a : Access σ) : (Nat → Bool) → Nat → Removal → σ →
    (Option (Except Failure Progress) × Removal) × σ
  | _, 0, job, s => ((none, job), s)
  | cancelled, fuel + 1, job, s =>
      if job.progress.finished then ((some (.ok job.progress), job), s)
      else if cancelled 0 then ((some (.error .cancelled), job), s)
      else
        match job.next a s with
        | ((.ok _, job'), s') => runFor a (fun k => cancelled (k + 1)) fuel job' s'
        | ((.error e, job'), s') => ((some (.error e), job'), s')

/-- The number of rounds that suffice for `records` records: every page that is not empty takes one
away, two sweeps have such a page between them, and the last round finds nothing. -/
def rounds (records : Nat) : Nat := 2 * records + 3

/-- Processes pages until nothing is left, or until it fails or is found to be cancelled. -/
def runUntil (a : Access σ) (cancelled : Nat → Bool) (job : Removal) (s : σ) :
    (Option (Except Failure Progress) × Removal) × σ :=
  runFor a cancelled (rounds (a.bound s)) job s

/-- Processes pages until nothing is left or one fails, unless the job has been cancelled. -/
def run (a : Access σ) (cancelled : Bool) (job : Removal) (s : σ) :
    (Option (Except Failure Progress) × Removal) × σ :=
  job.runUntil a (fun _ => cancelled) s

end Removal
end LinkLedger
