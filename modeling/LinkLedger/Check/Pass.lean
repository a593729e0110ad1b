import LinkLedger.Check.Result
import LinkLedger.Extract.Unique
import LinkLedger.Failure
import LinkLedger.Index.Access

/-!
# Checking links

Every link of some records is fetched once, whatever the number of records it occurs in, and what
was found is written to each of them.  Several fetches are under way at a time, so their results
come in any order.  A check of all records goes through the index page by page.
-/

namespace LinkLedger

/-- Finds out about a link within some milliseconds. -/
abbrev Fetcher (σ : Type) := String → Nat → StateM σ CheckResult

/-- What a check leaves open: the order in which the results for some links come, and the time when
all of them are there. -/
structure Course (σ : Type) where
  order : σ → List String → List String
  time : σ → Timestamp

/-- A time stands for the course in which results come in the order of the links. -/
instance {σ : Type} : Coe Timestamp (Course σ) := ⟨fun now => ⟨fun _ urls => urls, fun _ => now⟩⟩

/-- Totals of a check of all records. -/
structure CheckSummary where
  checked : Nat
  ok : Nat
  broken : Nat
  deriving DecidableEq, Repr

namespace Check

variable {σ : Type}

/-- The form of a link that is fetched; one that leaves its scheme open is fetched over the plain
web. -/
def fetchable (url : String) : String :=
  if "//".toList.isPrefixOf url.toList then "http:" ++ url else url

/-- A record behind a check at the time `now`. -/
def mark (now : Timestamp) (result : CheckResult) (r : LinkRecord) : LinkRecord :=
  { r with
    status := some result.status
    lastChecked := some now
    failCount := if result.isOk then 0 else r.failCount + 1 }

/-- Fetches a link; the result goes by the link as it is recorded. -/
def fetchOne (fetch : Fetcher σ) (timeout : Nat) (url : String) : StateM σ CheckResult := do
  let result ← fetch (fetchable url) timeout
  pure { result with url := url }

/-- Fetches links in their order. -/
def fetchAll (fetch : Fetcher σ) (timeout : Nat) : List String → StateM σ (List CheckResult)
  | [] => pure []
  | url :: urls => do
      let result ← fetchOne fetch timeout url
      let results ← fetchAll fetch timeout urls
      pure (result :: results)

/-- Writes records back to the index; those that are in no index are passed over. -/
def writeBack (a : Access σ) : List LinkRecord → Step Failure σ Unit
  | [] => pure ()
  | r :: rest => do
      if r.id.isSome then (a.update r).mapFailure .storage else pure ()
      writeBack a rest

/-- The records that carry the link of a result, behind the check. -/
def marked (now : Timestamp) (records : List LinkRecord) (result : CheckResult) :
    List LinkRecord :=
  (records.filter fun r => r.url == result.url).map (mark now result)

/-- Checks the links of records; gives one result for each link. -/
def checkLinks (a : Access σ) (fetch : Fetcher σ) (course : Course σ) (timeout : Nat)
    (records : List LinkRecord) : Step Failure σ (List CheckResult) := do
  let urls ← Step.ofView fun s => course.order s (unique (records.map (·.url)))
  let results ← ExceptT.lift (fetchAll fetch timeout urls)
  let now ← Step.ofView course.time
  writeBack a (results.flatMap (marked now records))
  pure results

/-- A summary with more results. -/
def addResults (s : CheckSummary) (results : List CheckResult) : CheckSummary :=
  let ok := (results.filter (·.isOk)).length
  ⟨s.checked + results.length, s.ok + ok, s.broken + (results.length - ok)⟩

/-- Checks at most `fuel` pages of records from the cursor on; an empty page is the last. -/
def checkPages (a : Access σ) (fetch : Fetcher σ) (course : Course σ) (timeout pageSize : Nat) :
    Nat → Option Nat → CheckSummary → Step Failure σ CheckSummary
  | 0, _, summary => pure summary
  | fuel + 1, cursor, summary => do
      let page ← (a.page cursor pageSize).mapFailure .storage
      match page.getLast? with
      | none => pure summary
      | some last => do
          let results ← checkLinks a fetch course timeout page
          let summary := addResults summary results
          if last.id.isNone then pure summary
          else checkPages a fetch course timeout pageSize fuel last.id summary

/-- Checks all records of an index, page by page; a page has one record at least. -/
def checkAll (a : Access σ) (fetch : Fetcher σ) (course : Course σ) (timeout pageSize : Nat) :
    Step Failure σ CheckSummary := fun s =>
  checkPages a fetch course timeout (max pageSize 1) (a.bound s + 1) none ⟨0, 0, 0⟩ s

end Check
end LinkLedger
