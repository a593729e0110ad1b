/-!
# Steps that may fail

A step changes a state and gives a value or a failure.  The state is kept when a step fails, as the
step left it.

**Results.**
* `Step.bind_of_ok`, `Step.bind_of_error`: what a step and a second one behind it do together.
* `Step.bind_eq_ok`: both succeed exactly if the two together do.
* `Step.mapM_cons_of_ok`, `Step.mapM_append_of_ok`: what a list of steps does, one after the other.
-/

namespace LinkLedger

/-- A step on states of type `σ` that gives an `α` or fails with an `ε`. -/
abbrev Step (ε σ α : Type) := ExceptT ε (StateM σ) α

namespace Step

variable {ε ε' σ τ α : Type}

/-- The step that makes a state anew and gives a value. -/
def ofUpdate (f : σ → α × σ) : Step ε σ α := fun s =>
  let (a, s') := f s
  (.ok a, s')

/-- The step that looks at the state. -/
def ofView (f : σ → α) : Step ε σ α := fun s => (.ok (f s), s)

/-- The same step with its failures put in another way. -/
def mapFailure (f : ε → ε') (step : Step ε σ α) : Step ε' σ α := fun s =>
  match step s with
  | (.ok a, s') => (.ok a, s')
  | (.error e, s') => (.error (f e), s')

/-- A step on a part of a state. -/
def onPart (get : τ → σ) (set : σ → τ → τ) (step : Step ε σ α) : Step ε τ α := fun t =>
  let (result, s) := step (get t)
  (result, set s t)

variable {β : Type} {step : Step ε σ α} {next : α → Step ε σ β} {s s' : σ}

@[simp] theorem pure_apply (a : α) (s : σ) : (pure a : Step ε σ α) s = (.ok a, s) := rfl

@[simp] theorem ofUpdate_apply (f : σ → α × σ) (s : σ) :
    (ofUpdate f : Step ε σ α) s = (.ok (f s).1, (f s).2) := rfl

@[simp] theorem ofView_apply (f : σ → α) (s : σ) :
    (ofView f : Step ε σ α) s = (.ok (f s), s) := rfl

theorem bind_of_ok {a : α} (h : step s = (.ok a, s')) : (step >>= next) s = next a s' := by
  simp only [bind, ExceptT.bind, ExceptT.mk, StateT.bind, h]
  rfl

theorem bind_of_error {e : ε} (h : step s = (.error e, s')) :
    (step >>= next) s = (.error e, s') := by
  simp only [bind, ExceptT.bind, ExceptT.mk, StateT.bind, h]
  rfl

theorem mapFailure_of_ok {f : ε → ε'} {a : α} (h : step s = (.ok a, s')) :
    step.mapFailure f s = (.ok a, s') := by
  simp only [mapFailure, h]

theorem mapFailure_of_error {f : ε → ε'} {e : ε} (h : step s = (.error e, s')) :
    step.mapFailure f s = (.error (f e), s') := by
  simp only [mapFailure, h]

theorem eq_ok_of_mapFailure {f : ε → ε'} {a : α} (h : step.mapFailure f s = (.ok a, s')) :
    step s = (.ok a, s') := by
  unfold mapFailure at h
  split at h
  · next heq =>
    cases h
    exact heq
  · cases h

/-- A list of steps does what its first one does and then what the others do. -/
theorem mapM_cons_of_ok {f : α → Step ε σ β} {a : α} {as : List α} {b : β} {bs : List β}
    {s'' : σ} (ha : f a s = (.ok b, s')) (has : as.mapM f s' = (.ok bs, s'')) :
    (a :: as).mapM f s = (.ok (b :: bs), s'') := by
  rw [List.mapM_cons, bind_of_ok ha, bind_of_ok has]
  rfl

/-- Two lists of steps do together what the first does and then what the second does. -/
theorem mapM_append_of_ok {f : α → Step ε σ β} {as as' : List α} {bs bs' : List β} {s'' : σ}
    (h : as.mapM f s = (.ok bs, s')) (h' : as'.mapM f s' = (.ok bs', s'')) :
    (as ++ as').mapM f s = (.ok (bs ++ bs'), s'') := by
  rw [List.mapM_append, bind_of_ok h, bind_of_ok h']
  rfl

/-- Two steps succeed together exactly if the second succeeds behind the first. -/
theorem bind_eq_ok {b : β} {s'' : σ} :
    (step >>= next) s = (.ok b, s'') ↔
      ∃ a s', step s = (.ok a, s') ∧ next a s' = (.ok b, s'') := by
  rcases h : step s with ⟨e | a, s₁⟩
  · rw [bind_of_error h]
    constructor
    · intro hb
      cases hb
    · rintro ⟨a, s', ha, -⟩
      cases ha
  · rw [bind_of_ok h]
    constructor
    · intro hb
      exact ⟨a, s₁, rfl, hb⟩
    · rintro ⟨a', s', ha, hb⟩
      cases ha
      exact hb

end Step
end LinkLedger
