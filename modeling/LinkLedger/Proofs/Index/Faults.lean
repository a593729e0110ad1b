import LinkLedger.Index.Faults

/-!
# Access that fails does nothing

Behind faults an index does what it would do without them, or it does nothing and fails.

**Results.**
* `guarded_cases`, `ownedBy_cases`, `page_cases` and the like: a call that a fault may hit is made
  or fails without effect.
* `Follows`: a step that, when it succeeds, does what another does to the index alone.  Sequences
  of such steps are such steps (`Follows.bind`), and so are the calls (`follows_delete` and the
  like).
* `Mirrors`: a step that does without faults what another does to the index alone.
-/

namespace LinkLedger
namespace Fallible

variable {ε ε' α β : Type}

/-- The same store with no faults armed. -/
def calm (st : Fallible) : Fallible := { st with faults := [] }

/-- Without faults none fires, and none is left. -/
theorem of_takeFault_nil
    {call : Call}
    {faults rest : List ArmedFault}
    {fired : Option ArmedFault}
    (h : takeFault call faults = (fired, rest))
    (hnone : faults = []) :
    fired = none ∧ rest = [] := by
  subst hnone
  cases h
  exact ⟨rfl, rfl⟩

theorem ne_nil_of_takeFault
    {call : Call}
    {faults rest : List ArmedFault}
    {fault : ArmedFault}
    (h : takeFault call faults = (some fault, rest)) :
    faults ≠ [] := by
  intro hnone
  cases (of_takeFault_nil h hnone).1

/-- A call that a fault may hit fails without effect, or it is made; without faults it is made. -/
theorem guarded_cases
    (call : Call)
    (step : Step String Fallible α)
    (st : Fallible) :
    ∃ rest, (st.faults = [] → rest = []) ∧
      ((st.faults ≠ [] ∧ ∃ text, guarded call step st = (.error text, { st with faults := rest })) ∨
        guarded call step st = step { st with faults := rest }) := by
  unfold guarded
  rcases htake : takeFault call st.faults with ⟨_ | fault, rest⟩
  · exact ⟨rest, fun hnone => (of_takeFault_nil htake hnone).2, Or.inr rfl⟩
  · exact ⟨rest, fun hnone => (of_takeFault_nil htake hnone).2,
      Or.inl ⟨ne_nil_of_takeFault htake, _, rfl⟩⟩

/-- Reading the records of an owner fails without effect, or it gives them. -/
theorem ownedBy_cases
    {st : Fallible}
    (hhidden : st.hidden = false)
    (owner : Owner)
    (field : Option String) :
    ∃ rest, (st.faults = [] → rest = []) ∧
      ((st.faults ≠ [] ∧
          ∃ text, access.ownedBy owner field st = (.error text, { st with faults := rest })) ∨
        access.ownedBy owner field st =
          (.ok (st.index.ownedBy owner field), { st with faults := rest })) := by
  obtain ⟨rest, hrest, hfail | hmade⟩ :=
    guarded_cases .ownedBy (.ofView fun s => s.listed (s.index.ownedBy owner field)) st
  · exact ⟨rest, hrest, Or.inl hfail⟩
  · refine ⟨rest, hrest, Or.inr (hmade.trans ?_)⟩
    simp only [Step.ofView_apply, listed, hhidden]
    rfl

/-- Taking a record in fails without effect, or it is made in the index. -/
theorem create_cases
    (r : LinkRecord)
    (st : Fallible) :
    ∃ rest, (st.faults = [] → rest = []) ∧
      ((st.faults ≠ [] ∧ ∃ text, access.create r st = (.error text, { st with faults := rest })) ∨
        access.create r st =
          (.ok (st.index.create r).1, { st with index := (st.index.create r).2, faults := rest })) :=
  guarded_cases .create (onIndex (Index.access.create r)) st

/-- Removing records fails without effect, or it is made in the index. -/
theorem delete_cases
    (ids : List Nat)
    (st : Fallible) :
    ∃ rest, (st.faults = [] → rest = []) ∧
      ((st.faults ≠ [] ∧ ∃ text, access.delete ids st = (.error text, { st with faults := rest })) ∨
        access.delete ids st =
          (.ok (st.index.delete ids).1,
            { st with index := (st.index.delete ids).2, faults := rest })) :=
  guarded_cases .delete (onIndex (Index.access.delete ids)) st

/-- A page may fail without effect or be empty if there are faults; otherwise it is the page. -/
theorem page_cases
    {st : Fallible}
    (hhidden : st.hidden = false)
    (after : Option Nat)
    (limit : Nat) :
    ∃ rest, (st.faults = [] → rest = []) ∧
      ((st.faults ≠ [] ∧
          ∃ text, access.page after limit st = (.error text, { st with faults := rest })) ∨
        ∃ page, access.page after limit st = (.ok page, { st with faults := rest }) ∧
          (page = st.index.page after limit ∨ st.faults ≠ [] ∧ page = [])) := by
  change ∃ rest, (st.faults = [] → rest = []) ∧
    ((st.faults ≠ [] ∧
        ∃ text, pageStep after limit st = (.error text, { st with faults := rest })) ∨
      ∃ page, pageStep after limit st = (.ok page, { st with faults := rest }) ∧
        (page = st.index.page after limit ∨ st.faults ≠ [] ∧ page = []))
  unfold pageStep
  rcases htake : takeFault .page st.faults with ⟨_ | ⟨call, _ | text, skip⟩, rest⟩
  · refine ⟨rest, fun hnone => (of_takeFault_nil htake hnone).2, Or.inr ⟨_, rfl, Or.inl ?_⟩⟩
    simp only [listed, hhidden]
    rfl
  · exact ⟨rest, fun hnone => (of_takeFault_nil htake hnone).2,
      Or.inr ⟨[], rfl, Or.inr ⟨ne_nil_of_takeFault htake, rfl⟩⟩⟩
  · exact ⟨rest, fun hnone => (of_takeFault_nil htake hnone).2,
      Or.inl ⟨ne_nil_of_takeFault htake, text, rfl⟩⟩

/-- An update fails without effect, or it is made in the index. -/
theorem update_cases
    (r : LinkRecord)
    (st : Fallible) :
    ∃ rest,
      (∃ text, access.update r st = (.error text, { st with faults := rest })) ∨
        ∃ y, st.index.update r = .ok y ∧
          access.update r st = (.ok (), { st with index := y, faults := rest }) := by
  obtain ⟨rest, -, ⟨-, text, hfail⟩ | hmade⟩ :=
    guarded_cases .update (onIndex (Index.access.update r)) st
  · exact ⟨rest, Or.inl ⟨text, hfail⟩⟩
  · refine ⟨rest, ?_⟩
    cases hupdate : st.index.update r with
    | error fault =>
        refine Or.inl ⟨fault.message, hmade.trans ?_⟩
        simp only [onIndex, Step.onPart, Index.access, Index.updateStep, hupdate]
    | ok y =>
        refine Or.inr ⟨y, rfl, hmade.trans ?_⟩
        simp only [onIndex, Step.onPart, Index.access, Index.updateStep, hupdate]

/-- A call that succeeds has been made. -/
theorem eq_of_guarded_ok
    {call : Call}
    {step : Step String Fallible α}
    {st st' : Fallible}
    {a : α}
    (h : guarded call step st = (.ok a, st')) :
    ∃ rest, step { st with faults := rest } = (.ok a, st') := by
  obtain ⟨rest, -, ⟨-, text, hfail⟩ | hmade⟩ := guarded_cases call step st
  · rw [hfail] at h
    cases h
  · rw [hmade] at h
    exact ⟨rest, h⟩

/-! ## Steps behind faults and steps on the index -/

/-- A step that, when it succeeds, does to the index what another one does to the index alone; the
store of content stays as it is. -/
def Follows (step : Step ε Fallible α) (plain : Step ε Index α) : Prop :=
  ∀ ⦃st st' : Fallible⦄ ⦃a : α⦄, st.hidden = false → step st = (.ok a, st') →
    plain st.index = (.ok a, st'.index) ∧ st'.hidden = false ∧ st'.contents = st.contents

theorem Follows.pure
    (a : α) :
    Follows (pure a : Step ε Fallible α) (Pure.pure a) := by
  intro st st' b hhidden h
  cases h
  exact ⟨rfl, hhidden, rfl⟩

theorem Follows.bind
    {step : Step ε Fallible α}
    {plain : Step ε Index α}
    {next : α → Step ε Fallible β}
    {plainNext : α → Step ε Index β}
    (hstep : Follows step plain)
    (hnext : ∀ a, Follows (next a) (plainNext a)) :
    Follows (step >>= next) (plain >>= plainNext) := by
  intro st st'' b hhidden h
  obtain ⟨a, st', ha, hb⟩ := Step.bind_eq_ok.1 h
  obtain ⟨hplain, hhidden', hcontents⟩ := hstep hhidden ha
  obtain ⟨hplain', hhidden'', hcontents'⟩ := hnext a hhidden' hb
  exact ⟨Step.bind_eq_ok.2 ⟨a, st'.index, hplain, hplain'⟩, hhidden'', hcontents'.trans hcontents⟩

theorem Follows.mapFailure
    {step : Step ε Fallible α}
    {plain : Step ε Index α}
    (h : Follows step plain)
    (f : ε → ε') :
    Follows (step.mapFailure f) (plain.mapFailure f) := by
  intro st st' a hhidden ha
  obtain ⟨hplain, hrest⟩ := h hhidden (Step.eq_ok_of_mapFailure ha)
  exact ⟨Step.mapFailure_of_ok hplain, hrest⟩

/-! ## The calls -/

theorem follows_ownedBy
    (owner : Owner)
    (field : Option String) :
    Follows (access.ownedBy owner field) (Index.access.ownedBy owner field) := by
  intro st st' a hhidden h
  obtain ⟨rest, h⟩ := eq_of_guarded_ok h
  cases h
  refine ⟨?_, hhidden, rfl⟩
  simp only [Index.access, Step.ofView_apply, listed, hhidden]
  rfl

theorem follows_delete
    (ids : List Nat) :
    Follows (access.delete ids) (Index.access.delete ids) := by
  intro st st' a hhidden h
  obtain ⟨rest, h⟩ := eq_of_guarded_ok h
  cases h
  exact ⟨rfl, hhidden, rfl⟩

/-! ## Steps without faults -/

/-- A step that without faults does what another one does to the index alone. -/
def Mirrors (step : Step ε Fallible α) (plain : Step ε Index α) : Prop :=
  ∀ ⦃st : Fallible⦄, st.hidden = false →
    step st.calm = ((plain st.index).1, { st.calm with index := (plain st.index).2 })

theorem Mirrors.pure
    (a : α) :
    Mirrors (pure a : Step ε Fallible α) (Pure.pure a) :=
  fun _ _ => rfl

theorem Mirrors.bind
    {step : Step ε Fallible α}
    {plain : Step ε Index α}
    {next : α → Step ε Fallible β}
    {plainNext : α → Step ε Index β}
    (hstep : Mirrors step plain)
    (hnext : ∀ a, Mirrors (next a) (plainNext a)) :
    Mirrors (step >>= next) (plain >>= plainNext) := by
  intro st hhidden
  have hfirst := hstep hhidden
  rcases hplain : plain st.index with ⟨e | a, y⟩
  · rw [hplain] at hfirst
    rw [Step.bind_of_error hplain, Step.bind_of_error hfirst]
  · rw [hplain] at hfirst
    rw [Step.bind_of_ok hplain, Step.bind_of_ok hfirst]
    have hbehind : ({ st with index := y } : Fallible).hidden = false := hhidden
    exact hnext a hbehind

theorem Mirrors.mapFailure
    {step : Step ε Fallible α}
    {plain : Step ε Index α}
    (h : Mirrors step plain)
    (f : ε → ε') :
    Mirrors (step.mapFailure f) (plain.mapFailure f) := by
  intro st hhidden
  have hstep := h hhidden
  rcases hplain : plain st.index with ⟨e | a, y⟩
  · rw [hplain] at hstep
    rw [Step.mapFailure_of_error hplain, Step.mapFailure_of_error hstep]
  · rw [hplain] at hstep
    rw [Step.mapFailure_of_ok hplain, Step.mapFailure_of_ok hstep]

theorem mirrors_ownedBy
    (owner : Owner)
    (field : Option String) :
    Mirrors (access.ownedBy owner field) (Index.access.ownedBy owner field) := by
  intro st hhidden
  have hlisted : st.calm.listed (st.index.ownedBy owner field) = st.index.ownedBy owner field := by
    rw [listed, calm, hhidden, if_neg Bool.false_ne_true]
  change (Except.ok (st.calm.listed (st.index.ownedBy owner field)), st.calm) = _
  rw [hlisted]
  rfl

theorem mirrors_create
    (r : LinkRecord) :
    Mirrors (access.create r) (Index.access.create r) :=
  fun _ _ => rfl

theorem mirrors_delete
    (ids : List Nat) :
    Mirrors (access.delete ids) (Index.access.delete ids) :=
  fun _ _ => rfl

/-! ## Loading content -/

/-- Loading content that succeeds gives what is stored. -/
theorem load_eq_ok
    {owner : Owner}
    {st st' : Fallible}
    {found : Option ContentView}
    (h : load owner st = (.ok found, st')) :
    ∃ rest, found = (st.content? owner).map Content.view ∧ st' = { st with faults := rest } := by
  obtain ⟨rest, h⟩ := eq_of_guarded_ok h
  cases h
  exact ⟨rest, rfl, rfl⟩

/-- Content that is loaded belongs to its owner. -/
theorem owner_of_content?
    {owner : Owner}
    {st : Fallible}
    {c : Content}
    (h : st.content? owner = some c) :
    c.owner = owner := by
  rw [content?] at h
  simpa using List.find?_some h

end Fallible
end LinkLedger
