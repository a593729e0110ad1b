import LinkLedger.Proofs.CleanUp.Existence
import LinkLedger.Proofs.CleanUp.Guard

/-!
# What a pass removes, and what a failed pass leaves

A pass looks up the links of every field once and keeps them for the records behind.  It removes the
stale records of its owner and nothing else.  A pass that fails has removed nothing and gives the
lock of its owner back, so that whoever comes next does what it would have done.

**Results.**
* `cleanUpKeeping_eq`: links that are kept are those that would be looked up anew.
* `mirrors_cleanUp`, `cleanUp_of_error`: a pass without faults, and one that fails.
* `OwnerLocks.Agrees.line_release`, `OwnerLocks.Agrees.line_lock`: the line of an owner when its
  first goes and when someone joins.
* `Crew.underLock_eq_moves`: a pass under its lock is what a worker does on its own.
* `cleanUp_exact`: what a pass does, at once, again and after a failure.
-/

namespace LinkLedger
namespace Service

variable {s : Service} {c : ContentView}

/-! ## Links that are kept -/

/-- The links that are kept are those that the content has. -/
def Fresh (s : Service) (c : ContentView) (current : KeptLinks) : Prop :=
  ∀ e ∈ current, e.2 = s.fieldLinks c e.1.1 e.1.2

/-- Looking up links gives those that the content has, and keeps no others. -/
theorem Fresh.lookUp
    {current : KeptLinks}
    (h : s.Fresh c current)
    (field language : String) :
    (s.lookUp c current field language).1 = s.fieldLinks c field language ∧
      s.Fresh c (s.lookUp c current field language).2 := by
  unfold Service.lookUp
  split
  · next links hfound =>
    obtain ⟨front, back, rfl, -⟩ := List.lookup_eq_some_iff.1 hfound
    exact ⟨h ((field, language), links) (by simp), h⟩
  · refine ⟨rfl, fun e he => ?_⟩
    rcases List.mem_cons.1 he with rfl | he
    · rfl
    · exact h e he

/-- The records that are found stale one after the other are the stale ones. -/
theorem Fresh.staleFrom_eq
    {current : KeptLinks}
    (h : s.Fresh c current)
    (records : List LinkRecord) :
    s.staleFrom c current records =
      (records.filter fun r => s.isStale c r).filterMap (·.id) := by
  induction records generalizing current with
  | nil => rfl
  | cons r rest ih =>
      rw [staleFrom]
      cases hid : r.id with
      | none =>
          by_cases hstale : s.isStale c r = true
          · rw [List.filter_cons_of_pos hstale, List.filterMap_cons_none hid]
            exact ih h
          · rw [List.filter_cons_of_neg hstale]
            exact ih h
      | some id =>
          dsimp only
          split
          · next hearly =>
            have hstale : s.isStale c r = true := by rw [isStale, hearly, Bool.true_or]
            rw [List.filter_cons_of_pos hstale, List.filterMap_cons_some hid, ih h]
          · next hlate =>
            obtain ⟨hlinks, hfresh⟩ := h.lookUp r.field r.language
            have hstale : s.isStale c r = !(s.lookUp c current r.field r.language).1.contains
                (s.classifier.classify r.url (s.baseOf c)).url := by
              rw [isStale, Bool.eq_false_iff.2 hlate, Bool.false_or, hlinks]
            split
            · next hthere =>
              rw [hthere, Bool.not_true] at hstale
              rw [List.filter_cons_of_neg (Bool.eq_false_iff.1 hstale), ih hfresh]
            · next hgone =>
              rw [Bool.eq_false_iff.2 hgone, Bool.not_false] at hstale
              rw [List.filter_cons_of_pos hstale, List.filterMap_cons_some hid, ih hfresh]

theorem cleanUpKeeping_eq
    {σ : Type}
    (s : Service)
    (a : Access σ)
    (c : ContentView) :
    s.cleanUpKeeping a c = s.cleanUp a c := by
  have hnone : s.Fresh c [] := by simp [Fresh]
  unfold cleanUpKeeping cleanUp
  congr 1
  funext records
  rw [staleIds, hnone.staleFrom_eq]
  split
  · next hempty =>
    rw [List.isEmpty_iff] at hempty
    subst hempty
    cases c.isLive <;> rfl
  · rfl

/-! ## Passes behind faults -/

theorem mirrors_cleanUp
    (s : Service)
    (c : ContentView) :
    Fallible.Mirrors (s.cleanUp Fallible.access c) (s.cleanUp Index.access c) := by
  refine ((Fallible.mirrors_ownedBy _ _).mapFailure _).bind fun records => ?_
  unfold removeIds
  split
  · exact .pure _
  · exact ((Fallible.mirrors_delete _).mapFailure _).bind fun deleted => .pure _

/-- A pass that fails has done nothing, and the same call may be made again. -/
theorem cleanUp_of_error
    {st st' : Fallible}
    {e : Failure}
    (hshown : st.hidden = false)
    (h : s.cleanUp Fallible.access c st = (.error e, st')) :
    e.isRetryable = true ∧ ∃ faults, st' = { st with faults := faults } := by
  rw [cleanUp] at h
  obtain ⟨faults, -, ⟨-, text, hfail⟩ | hload⟩ := Fallible.ownedBy_cases hshown c.owner none
  · rw [Step.bind_of_error (Step.mapFailure_of_error hfail)] at h
    cases h
    exact ⟨rfl, faults, rfl⟩
  · rw [Step.bind_of_ok (Step.mapFailure_of_ok hload), removeIds] at h
    split at h
    · cases h
    · obtain ⟨faults', -, ⟨-, text, hfail⟩ | hdelete⟩ := Fallible.delete_cases
        (s.staleIds c (st.index.ownedBy c.owner none)) { st with faults := faults }
      · rw [Step.bind_of_error (Step.mapFailure_of_error hfail)] at h
        cases h
        exact ⟨rfl, faults', rfl⟩
      · rw [Step.bind_of_ok (Step.mapFailure_of_ok hdelete)] at h
        cases h

end Service

/-! ## Lines -/

namespace OwnerLocks

variable {l : OwnerLocks} {q : OwnerQueues} {calls : List Ticket}

/-- Callers in a line: the first has the lock, the others wait. -/
def lineOf : List String → List (String × Bool)
  | [] => []
  | caller :: rest => (caller, true) :: rest.map fun other => (other, false)

theorem line_eq_lineOf
    (ts : List Ticket) :
    OwnerQueues.line ts = lineOf (ts.map (·.caller)) := by
  cases ts with
  | nil => rfl
  | cons t ts => rw [OwnerQueues.line, List.map_cons, lineOf, List.map_map]; rfl

theorem map_fst_lineOf
    (callers : List String) :
    (lineOf callers).map (·.1) = callers := by
  cases callers with
  | nil => rfl
  | cons caller rest =>
      rw [lineOf, List.map_cons, List.map_map]
      exact congrArg _ (List.map_id rest)

/-- Only the first in a line has the lock. -/
theorem mem_lineOf_iff
    {callers : List String}
    {caller : String} :
    (caller, true) ∈ lineOf callers ↔ callers.head? = some caller := by
  cases callers with
  | nil => simp [lineOf]
  | cons first rest => simp [lineOf, eq_comm]

/-- When the first in a line goes, the others stay. -/
theorem Agrees.line_release
    (h : Agrees l q calls)
    {owner : Owner}
    {caller : String}
    {waiting : List String}
    (hline : l.line owner = lineOf (caller :: waiting)) :
    (l.step (.release caller)).line owner = lineOf waiting := by
  rw [h.line_eq, line_eq_lineOf] at hline
  have hcallers := congrArg (List.map (·.1)) hline
  rw [map_fst_lineOf, map_fst_lineOf] at hcallers
  rw [(h.step _).line_eq, line_eq_lineOf]
  change lineOf ((OwnerQueues.leave caller (q.queue owner)).map (·.caller)) = _
  obtain ⟨t, ts, hqueue, rfl, rfl⟩ := List.map_eq_cons_iff.1 hcallers
  rw [hqueue, OwnerQueues.leave, if_pos rfl]

/-- Whoever joins a line goes to its end. -/
theorem Agrees.line_lock
    (h : Agrees l q calls)
    {owner : Owner}
    {waiting : List String}
    (hline : l.line owner = lineOf waiting)
    (caller : String) :
    (l.step (.lock caller owner)).line owner = lineOf (waiting ++ [caller]) := by
  rw [h.line_eq, line_eq_lineOf] at hline
  have hcallers := congrArg (List.map (·.1)) hline
  rw [map_fst_lineOf, map_fst_lineOf] at hcallers
  rw [(h.step _).line_eq, line_eq_lineOf]
  change lineOf ((if owner = owner then _ else _ : List Ticket).map (·.caller)) = _
  rw [if_pos rfl, List.map_append, hcallers]
  rfl

theorem holds_of_mem_line
    {locks : OwnerLocks}
    {owner : Owner}
    {caller : String}
    (h : (caller, true) ∈ locks.line owner) :
    locks.holds caller = true := by
  obtain ⟨call, hcall, -, hface⟩ := mem_line.1 h
  exact holds_iff.2 ⟨call, hcall, congrArg Prod.fst hface, congrArg Prod.snd hface⟩

end OwnerLocks

/-! ## Passes under a lock -/

namespace Pass

/-- A pass by someone who has asked for the lock of its owner.  It is made under the lock, which is
given back however the pass ends; without the lock nothing is done yet. -/
def underLock {σ : Type} (s : Service) (a : Access σ) (caller : String) (p : Pass)
    (locks : OwnerLocks) (st : σ) : Option (Except Failure CleanUpReport) × OwnerLocks × σ :=
  if (caller, true) ∈ locks.line p.owner then
    let (result, st') := p.run s a st
    (some result, locks.drop caller, st')
  else (none, locks, st)

variable {σ : Type} {s : Service} {a : Access σ} {p : Pass} {locks : OwnerLocks} {caller : String}
variable {waiting : List String}

/-- The first in the line makes the pass and goes. -/
theorem underLock_of_line
    (hline : locks.line p.owner = OwnerLocks.lineOf (caller :: waiting))
    {st st' : σ}
    {result : Except Failure CleanUpReport}
    (hrun : p.run s a st = (result, st')) :
    p.underLock s a caller locks st = (some result, locks.step (.release caller), st') := by
  have hfirst : (caller, true) ∈ locks.line p.owner := by
    rw [hline]
    exact OwnerLocks.mem_lineOf_iff.2 rfl
  rw [underLock, if_pos hfirst, hrun, OwnerLocks.drop, if_pos (OwnerLocks.holds_of_mem_line hfirst)]

end Pass

namespace Crew

theorem worker?_put
    {crew : Crew}
    {v w : Worker}
    (hw : crew.worker? v.caller = some w) :
    (crew.put v).worker? v.caller = some v := by
  unfold worker? at hw ⊢
  rw [put]
  generalize crew.workers = workers at hw
  induction workers with
  | nil => cases hw
  | cons u workers ih =>
      by_cases hu : u.caller = v.caller
      · rw [List.map_cons, if_pos hu, List.find?_cons_of_pos (by simp)]
      · rw [List.find?_cons_of_neg (by simpa using hu)] at hw
        rw [List.map_cons, if_neg hu, List.find?_cons_of_neg (by simpa using hu)]
        exact ih hw

theorem after_advance
    {s : Service}
    {crew : Crew}
    {w : Worker}
    {caller : String}
    (hw : crew.worker? caller = some w) :
    crew.after s (.advance caller) = crew.advance s w := by
  rw [after, hw]

theorem advance_of_load
    {s : Service}
    {crew : Crew}
    {w : Worker}
    (hstage : w.stage = .holding)
    {records : List LinkRecord}
    {x : Index}
    (hload : w.pass.load Index.access crew.index = (.ok records, x)) :
    crew.advance s w = { crew with index := x }.put { w with stage := .loaded records } := by
  rw [advance, hstage]
  dsimp only
  rw [hload]

theorem advance_of_finish
    {s : Service}
    {crew : Crew}
    {w : Worker}
    {records : List LinkRecord}
    (hstage : w.stage = .loaded records)
    {report : CleanUpReport}
    {x : Index}
    (hfinish : w.pass.finish s Index.access records crew.index = (.ok report, x)) :
    crew.advance s w = { crew with index := x }.put { w with stage := .removed report } := by
  rw [advance, hstage]
  dsimp only
  rw [hfinish]

/-- The four steps of a pass that meets no fault are the pass under its lock. -/
theorem underLock_eq_moves
    {s : Service}
    {crew : Crew}
    {w : Worker}
    (hw : crew.worker? w.caller = some w)
    (hstage : w.stage = .waiting)
    (hfirst : (w.caller, true) ∈ crew.locks.line w.pass.owner)
    {report : CleanUpReport}
    {y : Index}
    (hrun : w.pass.run s Index.access crew.index = (.ok report, y)) :
    let crew' := (List.replicate 4 (Move.advance w.caller)).foldl (after s) crew
    w.pass.underLock s Index.access w.caller crew.locks crew.index =
        (some (.ok report), crew'.locks, crew'.index) ∧
      crew'.worker? w.caller = some { w with stage := .returned report } := by
  intro crew'
  rw [Pass.run_eq] at hrun
  obtain ⟨records, x, hload, hfinish⟩ := Step.bind_eq_ok.1 hrun
  rw [Pass.underLock, if_pos hfirst, Pass.run_eq, hrun]
  -- The stages one after the other, each with who stands in the crew behind it.
  let holding : Worker := { w with stage := .holding }
  let loaded : Worker := { w with stage := .loaded records }
  let removed : Worker := { w with stage := .removed report }
  let returned : Worker := { w with stage := .returned report }
  let crew₁ := crew.put holding
  let crew₂ := { crew₁ with index := x }.put loaded
  let crew₃ := { crew₂ with index := y }.put removed
  let crew₄ := { crew₃ with locks := crew.locks.drop w.caller }.put returned
  have hw₁ : crew₁.worker? w.caller = some holding := worker?_put hw
  have hw₂ : crew₂.worker? w.caller = some loaded := worker?_put hw₁
  have hw₃ : crew₃.worker? w.caller = some removed := worker?_put hw₂
  have hw₄ : crew₄.worker? w.caller = some returned := worker?_put hw₃
  have h₁ : crew.after s (.advance w.caller) = crew₁ := by
    rw [after_advance hw, advance, hstage]
    exact if_pos (OwnerLocks.holds_of_mem_line hfirst)
  have h₂ : crew₁.after s (.advance w.caller) = crew₂ :=
    (after_advance hw₁).trans (advance_of_load rfl hload)
  have h₃ : crew₂.after s (.advance w.caller) = crew₃ :=
    (after_advance hw₂).trans (advance_of_finish rfl hfinish)
  have h₄ : crew₃.after s (.advance w.caller) = crew₄ := after_advance hw₃
  have hcrew : crew' = crew₄ := by
    rw [← h₄, ← h₃, ← h₂, ← h₁]
    rfl
  rw [hcrew]
  exact ⟨rfl, hw₄⟩

end Crew

namespace Service

/-! ## Exactness -/

/-- Why a pass over content removes a record of its owner. -/
theorem removes_iff
    {s : Service}
    {c : ContentView}
    {r : LinkRecord} :
    s.removes c r = true ↔
      r.owner = c.owner ∧
        (c.isLive = false ∨ c.isScanned r.field = false ∨
          (s.classifier.classify r.url (s.baseOf c)).kept = false ∨
          (s.classifier.classify r.url (s.baseOf c)).url ∉ s.fieldLinks c r.field r.language) := by
  rw [removes, isStale, Bool.and_eq_true, beq_iff_eq]
  simp only [Bool.or_eq_true, Bool.not_eq_true', ← Bool.not_eq_true, List.contains_iff_mem]
  tauto

/-- A pass leaves out what it removes and nothing else. -/
theorem not_mem_restrict_iff
    {s : Service}
    {c : ContentView}
    {x : Index}
    {e : Nat × LinkRecord}
    (he : e ∈ x.entries) :
    e ∉ (x.restrict fun r => !s.removes c r).entries ↔ s.removes c e.2 = true := by
  rw [Index.restrict, List.mem_filter, Bool.not_eq_true', and_iff_right he, Bool.not_eq_false]

/-- Whoever makes a pass behind one that failed does what the failed one would have done. -/
theorem underLock_again
    {s : Service}
    {c : ContentView}
    {st st' : Fallible}
    {report : CleanUpReport}
    {y : Index}
    (hpass : s.cleanUp Index.access c st.index = (.ok report, y))
    (hshown : st.hidden = false)
    {locks locks' : OwnerLocks}
    {q : OwnerQueues}
    {calls : List Ticket}
    (hagrees : locks.Agrees q calls)
    {caller : String}
    {waiting : List String}
    (hline : locks.line c.owner = OwnerLocks.lineOf (caller :: waiting))
    {e : Failure}
    (hfail : (Pass.content c).underLock s Fallible.access caller locks st =
      (some (.error e), locks', st')) :
    st'.index = st.index ∧ st'.contents = st.contents ∧ e.isRetryable = true ∧
      ∀ later, (locks'.step (.lock later c.owner)).line c.owner =
          OwnerLocks.lineOf (waiting ++ [later]) ∧
        ∀ next, (waiting ++ [later]).head? = some next →
          ∃ locks'', (Pass.content c).underLock s Fallible.access next
            (locks'.step (.lock later c.owner)) st'.calm =
              (some (.ok report), locks'', { st.calm with index := y }) := by
  rcases hrun : (Pass.content c).run s Fallible.access st with ⟨result, st₁⟩
  rw [Pass.underLock_of_line hline hrun] at hfail
  cases hfail
  obtain ⟨hretry, faults, rfl⟩ := cleanUp_of_error hshown hrun
  refine ⟨rfl, rfl, hretry, fun later => ?_⟩
  have hjoined := (hagrees.step _).line_lock (hagrees.line_release hline) later
  refine ⟨hjoined, fun next hnext => ?_⟩
  obtain ⟨rest, hrest⟩ := List.head?_eq_some_iff.1 hnext
  rw [hrest] at hjoined
  have hagain : (Pass.content c).run s Fallible.access st.calm =
      (.ok report, { st.calm with index := y }) := by
    have hmirrors := mirrors_cleanUp s c hshown
    rwa [hpass] at hmirrors
  exact ⟨_, Pass.underLock_of_line hjoined hagain⟩

/--
A pass over content removes exactly those records of its owner whose content is gone, whose field is
not searched, whose link is not tracked, or whose link is not one of the field's; all other entries
stay as they are, none is created, and the report counts what was removed and what stays.  It does
not matter that links are looked up once for all records of a field.  A second pass removes nothing.
A pass that fails behind its lock has done nothing but give the lock to the next in the line, and
whoever has the lock then and makes the pass comes to what the failed one would have come to.
-/
theorem cleanUp_exact
    {x : Index}
    (hx : x.WellFormed)
    (s : Service)
    (c : ContentView) :
    ∃ report y,
      s.cleanUp Index.access c x = (.ok report, y) ∧
      s.cleanUpKeeping Index.access c x = (.ok report, y) ∧
      y.last = x.last ∧ y.entries.Sublist x.entries ∧
      (∀ e ∈ x.entries, e ∉ y.entries ↔
        e.2.owner = c.owner ∧
          (c.isLive = false ∨ c.isScanned e.2.field = false ∨
            (s.classifier.classify e.2.url (s.baseOf c)).kept = false ∨
            (s.classifier.classify e.2.url (s.baseOf c)).url ∉
              s.fieldLinks c e.2.field e.2.language)) ∧
      y.count + report.deleted = x.count ∧
      report.kept + report.deleted = (x.ownedBy c.owner none).length ∧
      s.cleanUp Index.access c y = (.ok ⟨report.kept, 0⟩, y) ∧
      ∀ actions caller waiting st e locks' st',
        (OwnerLocks.run actions).line c.owner = OwnerLocks.lineOf (caller :: waiting) →
        st.index = x → st.hidden = false →
        (Pass.content c).underLock s Fallible.access caller (OwnerLocks.run actions) st =
          (some (.error e), locks', st') →
        st'.index = x ∧ st'.contents = st.contents ∧ e.isRetryable = true ∧
          ∀ later, (locks'.step (.lock later c.owner)).line c.owner =
              OwnerLocks.lineOf (waiting ++ [later]) ∧
            ∀ next, (waiting ++ [later]).head? = some next →
              ∃ locks'', (Pass.content c).underLock s Fallible.access next
                (locks'.step (.lock later c.owner)) st'.calm =
                  (some (.ok report), locks'', { st.calm with index := y }) := by
  have hpass := cleanUp_access hx s c
  have hclean : ∀ r ∈ (x.restrict fun r => !s.removes c r).records, s.removes c r = false := by
    intro r hr
    rw [Index.records_restrict, List.mem_filter, Bool.not_eq_true'] at hr
    exact hr.2
  refine ⟨_, _, hpass, ?_, rfl, List.filter_sublist, ?_, x.count_restrict _,
    length_ownedBy x fun _ => owner_of_removes,
    cleanUp_access_of_clean (hx.restrict _) hclean, ?_⟩
  · rw [cleanUpKeeping_eq, hpass]
  · intro e he
    rw [not_mem_restrict_iff he, removes_iff]
  · rintro actions caller waiting st e locks' st' hline rfl hshown hfail
    obtain ⟨calls, hagrees⟩ := OwnerLocks.exists_agrees_run actions
    exact underLock_again hpass hshown hagrees hline hfail

/-- A pass whose removal is refused.  The pass that waited for the lock removes the link that is not
in the content, keeps the one that is, and leaves the link of the other owner. -/
theorem cleanUp_exact_behind_refusal :
    let record (url id : String) : LinkRecord := .ofOccurrence url ⟨"node", id⟩ "see" "en"
    let x := Index.empty.createAll [record "/gone" "1", record "/about" "1", record "/gone" "2"]
    let s : Service := ⟨{ Settings.standard with sitePath := "[::1]" }, .standard⟩
    let c : ContentView := ((Content.ofOwner ⟨"node", "1"⟩).withConfig "see"
      (.scanned "link_link_extractor")).withField "see" "en" ["/about"]
    let st : Fallible := ⟨x, [], [⟨.delete, some "busy", 0⟩], false⟩
    let locks := OwnerLocks.run [.lock "first" ⟨"node", "1"⟩, .lock "second" ⟨"node", "1"⟩]
    x.WellFormed ∧ ∃ locks' st' locks'' y,
      (Pass.content c).underLock s Fallible.access "first" locks st =
        (some (.error (.storage "busy")), locks', st') ∧
      st'.index = x ∧
      (Pass.content c).underLock s Fallible.access "second"
        (locks'.step (.lock "third" ⟨"node", "1"⟩)) st'.calm =
          (some (.ok ⟨1, 1⟩), locks'', { st.calm with index := y }) ∧
      y.records.map (·.id) = [some 2, some 3] := by
  intro record x s c st locks
  have hx : x.WellFormed := Index.wellFormed_empty.createAll _
  obtain ⟨report, y, hpass, -, -, -, -, -, -, -, hfault⟩ := cleanUp_exact hx s c
  have hstale : s.staleIds c (x.ownedBy c.owner none) = [1] := by decide +kernel
  have hreport : s.cleanUp Index.access c x = (.ok ⟨1, 1⟩, ⟨x.entries.drop 1, 3⟩) := by
    change removeIds Index.access 2 (s.staleIds c (x.ownedBy c.owner none)) x = _
    rw [hstale]
    rfl
  rw [hreport] at hpass
  cases hpass
  have hline : locks.line ⟨"node", "1"⟩ = OwnerLocks.lineOf ["first", "second"] := by decide
  have hrun : (Pass.content c).run s Fallible.access st =
      (.error (.storage "busy"), { st with faults := [] }) := by
    change removeIds Fallible.access 2 (s.staleIds c (x.ownedBy c.owner none)) st = _
    rw [hstale]
    rfl
  have hrefused := Pass.underLock_of_line hline hrun
  obtain ⟨hindex, -, -, hnext⟩ := hfault
    [.lock "first" ⟨"node", "1"⟩, .lock "second" ⟨"node", "1"⟩] "first" ["second"] st _ _ _
    hline rfl rfl hrefused
  obtain ⟨-, hagain⟩ := hnext "third"
  obtain ⟨locks'', hsecond⟩ := hagain "second" rfl
  exact ⟨hx, _, _, locks'', _, hrefused, hindex, hsecond, by decide⟩

end Service
end LinkLedger
