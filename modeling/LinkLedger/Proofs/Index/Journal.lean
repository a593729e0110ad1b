import LinkLedger.Check.Pass

/-!
# Stores with a journal

To say how often something was done to an index, and in which order, the services are given access
that writes a journal.  Beside the store stands the web, which links are fetched from and which has
nothing to do with the store.

**Results.**
* `Access.observed`: access that writes a journal; `Fetcher.observed`: fetching beside a store.
* `written_of_ok`, `written_of_error`: only calls that succeed are written down.
* `Check.fetchAll_beside`, `Check.fetchAll_steady`: fetching leaves the store and the journal as
  they are, and gives what the web has.
* `Fetcher.noted`, `Check.fetchAll_noted`: what the web has been asked for.
-/

namespace LinkLedger

/-- What has been done to an index. -/
inductive Deed where
  | created (r : LinkRecord)
  | updated (r : LinkRecord)
  deriving DecidableEq, Repr

/-- The records that have been created, in this order. -/
def Deed.creations (deeds : List Deed) : List LinkRecord :=
  deeds.filterMap fun
    | .created r => some r
    | .updated _ => none

/-- The numbers of the records that have been updated, in this order. -/
def Deed.updates (deeds : List Deed) : List Nat :=
  deeds.filterMap fun
    | .created _ => none
    | .updated r => r.id

/-- A store with its journal, beside the web. -/
structure Observed (σ τ : Type) where
  store : σ
  deeds : List Deed
  web : τ

theorem Deed.updates_append
    (deeds deeds' : List Deed) :
    Deed.updates (deeds ++ deeds') = Deed.updates deeds ++ Deed.updates deeds' :=
  List.filterMap_append

namespace Observed

variable {ε σ τ α : Type}

/-- A step on the store that is written down, as `deeds` of what it gives, if it succeeds. -/
def written (deeds : α → List Deed) (step : Step ε σ α) : Step ε (Observed σ τ) α := fun o =>
  match step o.store with
  | (.ok a, store) => (.ok a, { o with store := store, deeds := o.deeds ++ deeds a })
  | (.error e, store) => (.error e, { o with store := store })

/-- A step on the store that is not written down. -/
def unwritten (step : Step ε σ α) : Step ε (Observed σ τ) α :=
  step.onPart (·.store) fun store o => { o with store := store }

variable {step : Step ε σ α} {o : Observed σ τ} {store : σ}

theorem written_of_ok
    {deeds : α → List Deed}
    {a : α}
    (h : step o.store = (.ok a, store)) :
    written deeds step o = (.ok a, { o with store := store, deeds := o.deeds ++ deeds a }) := by
  simp only [written, h]

theorem written_of_error
    {deeds : α → List Deed}
    {e : ε}
    (h : step o.store = (.error e, store)) :
    written deeds step o = (.error e, { o with store := store }) := by
  simp only [written, h]

theorem unwritten_of_eq
    {result : Except ε α}
    (h : step o.store = (result, store)) :
    unwritten step o = (result, { o with store := store }) := by
  simp only [unwritten, Step.onPart, h]

end Observed

/-- Access to a store that writes a journal. -/
def Access.observed {σ : Type} (a : Access σ) (τ : Type) : Access (Observed σ τ) where
  create r := Observed.written (fun saved => [.created saved]) (a.create r)
  update r := Observed.written (fun _ => [.updated r]) (a.update r)
  ownedBy owner field := Observed.unwritten (a.ownedBy owner field)
  page after limit := Observed.unwritten (a.page after limit)
  delete ids := Observed.unwritten (a.delete ids)
  count := Observed.unwritten a.count
  bound o := a.bound o.store

/-- Fetching from the web beside a store. -/
def Fetcher.observed {τ : Type} (fetch : Fetcher τ) (σ : Type) : Fetcher (Observed σ τ) :=
  fun url timeout o =>
    let (result, web) := fetch url timeout o.web
    (result, { o with web := web })

/-! ## Fetching -/

namespace Check

variable {σ τ : Type}

/-- What is reported for a link that `answer` is found for. -/
def found (answer : String → CheckResult) (url : String) : CheckResult :=
  { answer (fetchable url) with url := url }

theorem fetchAll_cons
    (fetch : Fetcher σ)
    (timeout : Nat)
    (url : String)
    (urls : List String)
    (s : σ) :
    fetchAll fetch timeout (url :: urls) s =
      ((fetchOne fetch timeout url s).1 ::
          (fetchAll fetch timeout urls (fetchOne fetch timeout url s).2).1,
        (fetchAll fetch timeout urls (fetchOne fetch timeout url s).2).2) :=
  rfl

/-- Fetching beside a store is fetching from the web alone. -/
theorem fetchAll_beside
    (fetch : Fetcher τ)
    (timeout : Nat)
    (urls : List String)
    (o : Observed σ τ) :
    fetchAll (fetch.observed σ) timeout urls o =
      ((fetchAll fetch timeout urls o.web).1,
        { o with web := (fetchAll fetch timeout urls o.web).2 }) := by
  induction urls generalizing o with
  | nil => rfl
  | cons url urls ih =>
      rw [fetchAll_cons, ih, fetchAll_cons]
      rfl

/-- Fetching changes nothing but the web. -/
theorem fetchAll_observed
    (fetch : Fetcher τ)
    (timeout : Nat)
    (urls : List String)
    (o : Observed σ τ) :
    ∃ web, (fetchAll (fetch.observed σ) timeout urls o).2 = { o with web := web } := by
  rw [fetchAll_beside]
  exact ⟨_, rfl⟩

/-- Every link fetched has one result, which goes by it. -/
theorem url_fetchAll
    (fetch : Fetcher σ)
    (timeout : Nat)
    (urls : List String)
    (s : σ) :
    (fetchAll fetch timeout urls s).1.map (·.url) = urls := by
  induction urls generalizing s with
  | nil => rfl
  | cons url urls ih =>
      rw [fetchAll_cons, List.map_cons, ih]
      rfl

/-- Links may be fetched in two goes. -/
theorem fetchAll_append
    (fetch : Fetcher σ)
    (timeout : Nat)
    (urls urls' : List String)
    (s : σ) :
    fetchAll fetch timeout (urls ++ urls') s =
      ((fetchAll fetch timeout urls s).1 ++
          (fetchAll fetch timeout urls' (fetchAll fetch timeout urls s).2).1,
        (fetchAll fetch timeout urls' (fetchAll fetch timeout urls s).2).2) := by
  induction urls generalizing s with
  | nil => rfl
  | cons url urls ih =>
      rw [List.cons_append, fetchAll_cons, ih, fetchAll_cons]
      rfl

/-- Every result is what is fetched of its link at some time. -/
theorem exists_fetchOne_of_mem
    {fetch : Fetcher σ}
    {timeout : Nat}
    {urls : List String}
    {s : σ}
    {result : CheckResult}
    (h : result ∈ (fetchAll fetch timeout urls s).1) :
    ∃ web, result = (fetchOne fetch timeout result.url web).1 := by
  induction urls generalizing s with
  | nil => cases h
  | cons url urls ih =>
      rw [fetchAll_cons] at h
      rcases List.mem_cons.1 h with rfl | h
      · exact ⟨s, rfl⟩
      · exact ih h

/-- A web that always gives the same of a link is found as it is. -/
theorem fetchAll_steady
    {fetch : Fetcher τ}
    {timeout : Nat}
    {answer : String → CheckResult}
    (hsteady : ∀ url web, (fetch url timeout web).1 = answer url)
    (urls : List String)
    (web : τ) :
    (fetchAll fetch timeout urls web).1 = urls.map (found answer) := by
  induction urls generalizing web with
  | nil => rfl
  | cons url urls ih =>
      have hone : (fetchOne fetch timeout url web).1 = found answer url :=
        congrArg (fun result : CheckResult => { result with url := url })
          (hsteady (fetchable url) web)
      rw [fetchAll_cons, ih, hone, List.map_cons]

/-! ## What is asked -/

/-- The web with a list of what it has been asked for: links, with the time allowed for each. -/
structure Noted (τ : Type) where
  calls : List (String × Nat)
  web : τ

end Check

/-- Fetching with a note of every call. -/
def Fetcher.noted {τ : Type} (fetch : Fetcher τ) : Fetcher (Check.Noted τ) :=
  fun url timeout s =>
    let (result, web) := fetch url timeout s.web
    (result, ⟨s.calls ++ [(url, timeout)], web⟩)

namespace Check

variable {τ : Type}

/-- Each link is asked for once, in the form that is fetched, and with the time of the check. -/
theorem fetchAll_noted
    (fetch : Fetcher τ)
    (timeout : Nat)
    (urls : List String)
    (s : Noted τ) :
    fetchAll fetch.noted timeout urls s =
      ((fetchAll fetch timeout urls s.web).1,
        ⟨s.calls ++ urls.map fun url => (fetchable url, timeout),
          (fetchAll fetch timeout urls s.web).2⟩) := by
  induction urls generalizing s with
  | nil => rw [List.map_nil, List.append_nil]; rfl
  | cons url urls ih =>
      rw [fetchAll_cons, ih, fetchAll_cons, List.map_cons, List.append_cons]
      rfl

end Check
end LinkLedger
