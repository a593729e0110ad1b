import LinkLedger.Check.Pass
import LinkLedger.CleanUp.Pass
import LinkLedger.CleanUp.Removal
import LinkLedger.Proofs.Index.Faults
import LinkLedger.Proofs.Index.Ledger

/-!
# Operations one after another

The services only ever change an index through calls that may fail, and any of them may stop half
way through its work.  Whatever operations follow each other from an empty index on, and whatever
calls of theirs fail, the index agrees with its journal behind each of them.

**Results.**
* `Operation.perform`: what an operation does; `Operation.run`: what a sequence of them does.
* `Upholds`: a step that keeps the agreement, with what holds behind it when it succeeds; it is
  closed under sequence, and the calls and the services uphold the agreement.
* `Operation.run_ledger`: numbers ascend and are given once, occurrences are stored once, and
  records keep standing for what they were created for.
-/

namespace LinkLedger

/-- A store behind faults with its journal, beside the web. -/
abbrev World (τ : Type) := Observed Fallible τ

/-- What can be done: records or the links of content saved, the records of an owner cleaned up, a
page removed at some progress, all records checked; beside these, faults armed and content stored or
forgotten. -/
inductive Operation (τ : Type) where
  | save (records : List LinkRecord)
  | saveContent (s : Service) (c : ContentView)
  | cleanUp (s : Service) (c : ContentView)
  | cleanUpGone (owner : Owner)
  | cleanUpOwner (s : Service) (owner : Owner)
  | removePage (pageSize : Nat) (progress : Progress)
  | checkAll (fetch : Fetcher τ) (course : Course (World τ)) (timeout pageSize : Nat)
  | arm (faults : List ArmedFault)
  | putContent (c : Content)
  | removeContent (owner : Owner)

variable {ε ε' τ α β : Type}

namespace World

/-- Access to the index of a world. -/
def access (τ : Type) : Access (World τ) := Fallible.access.observed τ

/-- Loads the content of an owner. -/
def load (owner : Owner) : Step String (World τ) (Option ContentView) :=
  Observed.unwritten (Fallible.load owner)

/-- A world with nothing in its index. -/
def start (contents : List Content) (web : τ) : World τ :=
  ⟨{ Fallible.empty with contents := contents }, [], web⟩

end World

namespace Operation

/-- The world behind an operation, whether it succeeds or fails. -/
def perform (w : World τ) : Operation τ → World τ
  | .save records => (Service.save (World.access τ) records w).2
  | .saveContent s c => (s.saveContent (World.access τ) c w).2
  | .cleanUp s c => (s.cleanUp (World.access τ) c w).2
  | .cleanUpGone owner => (Service.cleanUpGone (World.access τ) owner w).2
  | .cleanUpOwner s owner => (s.cleanUpOwner (World.access τ) World.load owner w).2
  | .removePage pageSize progress =>
      (Removal.processPage (World.access τ) pageSize progress w).2
  | .checkAll fetch course timeout pageSize =>
      (Check.checkAll (World.access τ) (fetch.observed Fallible) course timeout pageSize w).2
  | .arm faults => { w with store := { w.store with faults := faults } }
  | .putContent c => { w with store := w.store.putContent c }
  | .removeContent owner => { w with store := (w.store.removeContent owner).2 }

/-- The world behind operations, one after the other. -/
def run (w : World τ) (ops : List (Operation τ)) : World τ := ops.foldl perform w

end Operation

/-! ## Steps that keep the agreement -/

namespace World

/-- Records are listed with their numbers, and the index agrees with the journal. -/
structure Sound (w : World τ) : Prop where
  shown : w.store.hidden = false
  ledger : w.store.index.Ledger w.deeds

/-- The step leads from a world to a sound one and only adds to the journal.  What it gives, if it
succeeds, satisfies `Q` there. -/
def Upholds (w : World τ) (step : Step ε (World τ) α) (Q : α → World τ → Prop) : Prop :=
  ∀ ⦃result w'⦄, step w = (result, w') →
    w'.Sound ∧ w.deeds <+: w'.deeds ∧ ∀ a, result = .ok a → Q a w'

variable {w w' : World τ} {step : Step ε (World τ) α} {Q : α → World τ → Prop}

theorem Upholds.of_ok
    {a : α}
    (h : step w = (.ok a, w'))
    (hsound : w'.Sound)
    (hdeeds : w.deeds <+: w'.deeds)
    (hq : Q a w') :
    w.Upholds step Q := by
  intro result w'' hstep
  cases h.symm.trans hstep
  refine ⟨hsound, hdeeds, fun b hb => ?_⟩
  cases hb
  exact hq

theorem Upholds.of_error
    {e : ε}
    (h : step w = (.error e, w'))
    (hsound : w'.Sound)
    (hdeeds : w.deeds <+: w'.deeds) :
    w.Upholds step Q := by
  intro result w'' hstep
  cases h.symm.trans hstep
  refine ⟨hsound, hdeeds, fun b hb => ?_⟩
  cases hb

theorem Upholds.pure
    {a : α}
    (hsound : w.Sound)
    (hq : Q a w) :
    w.Upholds (pure a : Step ε (World τ) α) Q :=
  .of_ok rfl hsound (List.prefix_refl _) hq

theorem Upholds.bind
    {next : α → Step ε (World τ) β}
    {R : β → World τ → Prop}
    (hstep : w.Upholds step Q)
    (hnext : ∀ a w', w'.Sound → Q a w' → w'.Upholds (next a) R) :
    w.Upholds (step >>= next) R := by
  intro result w'' hboth
  rcases h : step w with ⟨e | a, w'⟩
  · obtain ⟨hsound, hdeeds, -⟩ := hstep h
    exact Upholds.of_error (Step.bind_of_error h) hsound hdeeds hboth
  · obtain ⟨hsound, hdeeds, hq⟩ := hstep h
    rw [Step.bind_of_ok h] at hboth
    obtain ⟨hsound', hdeeds', hr⟩ := hnext a w' hsound (hq a rfl) hboth
    exact ⟨hsound', hdeeds.trans hdeeds', hr⟩

theorem Upholds.mapFailure
    (h : w.Upholds step Q)
    (f : ε → ε') :
    w.Upholds (step.mapFailure f) Q := by
  rcases hstep : step w with ⟨e | a, w'⟩
  · obtain ⟨hsound, hdeeds, -⟩ := h hstep
    exact .of_error (Step.mapFailure_of_error hstep) hsound hdeeds
  · obtain ⟨hsound, hdeeds, hq⟩ := h hstep
    exact .of_ok (Step.mapFailure_of_ok hstep) hsound hdeeds (hq a rfl)

/-! ## Calls -/

/-- Other faults do not matter for the agreement. -/
theorem Sound.withFaults
    (hw : w.Sound)
    (faults : List ArmedFault) :
    Sound { w with store := { w.store with faults := faults } } :=
  ⟨hw.shown, hw.ledger⟩

/-- A call that is not written down and leaves the index as it is. -/
theorem upholds_view
    (hw : w.Sound)
    (call : Call)
    (f : Fallible → α)
    (hq : ∀ faults, Q (f { w.store with faults := faults })
      { w with store := { w.store with faults := faults } }) :
    w.Upholds (Observed.unwritten (Fallible.guarded call (.ofView f))) Q := by
  obtain ⟨rest, -, ⟨-, text, hfail⟩ | hmade⟩ :=
    Fallible.guarded_cases call (.ofView f) w.store
  · exact .of_error (Observed.unwritten_of_eq hfail) (hw.withFaults rest) (List.prefix_refl _)
  · exact .of_ok (Observed.unwritten_of_eq hmade) (hw.withFaults rest) (List.prefix_refl _)
      (hq rest)

theorem upholds_ownedBy
    (hw : w.Sound)
    (owner : Owner)
    (field : Option String) :
    w.Upholds ((access τ).ownedBy owner field) fun rs w' =>
      rs = w'.store.index.ownedBy owner field :=
  upholds_view hw .ownedBy (fun st => st.listed (st.index.ownedBy owner field)) fun faults => by
    simp [Fallible.listed, hw.shown]

theorem upholds_load
    (hw : w.Sound)
    (owner : Owner) :
    w.Upholds (load owner) fun _ _ => True :=
  upholds_view hw .load _ fun _ => trivial

theorem upholds_count
    (hw : w.Sound) :
    w.Upholds (access τ).count fun _ _ => True :=
  upholds_view hw .count (fun st => st.index.count) fun _ => trivial

/-- The records of a page are stored. -/
theorem upholds_page
    (hw : w.Sound)
    (after : Option Nat)
    (limit : Nat) :
    w.Upholds ((access τ).page after limit) fun rs w' => ∀ r ∈ rs, r ∈ w'.store.index.records := by
  obtain ⟨rest, -, ⟨-, text, hfail⟩ | ⟨page, hmade, hpage⟩⟩ :=
    Fallible.page_cases hw.shown after limit
  · exact .of_error (Observed.unwritten_of_eq hfail) (hw.withFaults rest) (List.prefix_refl _)
  · refine .of_ok (Observed.unwritten_of_eq hmade) (hw.withFaults rest) (List.prefix_refl _)
      fun r hr => ?_
    rcases hpage with rfl | ⟨-, rfl⟩
    · obtain ⟨e, he, rfl⟩ := Index.mem_of_mem_page hr
      exact List.mem_map_of_mem he
    · cases hr

theorem upholds_create
    (hw : w.Sound)
    {r : LinkRecord}
    (hnew : w.store.index.records.any (·.sameOccurrence r) = false) :
    w.Upholds ((access τ).create r) fun _ _ => True := by
  obtain ⟨rest, -, ⟨-, text, hfail⟩ | hmade⟩ := Fallible.create_cases r w.store
  · exact .of_error (Observed.written_of_error hfail) (hw.withFaults rest) (List.prefix_refl _)
  · exact .of_ok (Observed.written_of_ok hmade) ⟨hw.shown, hw.ledger.create hnew⟩
      (List.prefix_append _ _) trivial

theorem upholds_delete
    (hw : w.Sound)
    (ids : List Nat) :
    w.Upholds ((access τ).delete ids) fun _ _ => True := by
  obtain ⟨rest, -, ⟨-, text, hfail⟩ | hmade⟩ := Fallible.delete_cases ids w.store
  · exact .of_error (Observed.unwritten_of_eq hfail) (hw.withFaults rest) (List.prefix_refl _)
  · exact .of_ok (Observed.unwritten_of_eq hmade) ⟨hw.shown, hw.ledger.delete ids⟩
      (List.prefix_refl _) trivial

/-- Writing a record that the index admits moves no occurrence. -/
theorem upholds_update
    (hw : w.Sound)
    {r : LinkRecord}
    (hadmits : w.store.index.Admits r) :
    w.Upholds ((access τ).update r) fun _ w' => w'.store.index.places = w.store.index.places := by
  obtain ⟨rest, ⟨text, hfail⟩ | ⟨y, hupdate, hdone⟩⟩ := Fallible.update_cases r w.store
  · exact .of_error (Observed.written_of_error hfail) (hw.withFaults rest) (List.prefix_refl _)
  · exact .of_ok (Observed.written_of_ok hdone) ⟨hw.shown, hw.ledger.update hadmits hupdate⟩
      (List.prefix_append _ _) (Index.places_update hadmits hupdate)

/-! ## Services -/

theorem upholds_saveFrom
    (hw : w.Sound)
    (created records : List LinkRecord) :
    w.Upholds (Service.saveFrom (access τ) created records) fun _ _ => True := by
  -- What the index lacks decides: of the two tests in front of a creation only the first matters.
  induction records generalizing w created with
  | nil => exact .pure hw trivial
  | cons r rest ih =>
      refine ((upholds_ownedBy hw r.owner (some r.field)).mapFailure _).bind ?_
      rintro existing w' hw' rfl
      dsimp only
      rw [LinkRecord.any_ownedBy]
      split
      · exact ih hw' created
      · next hnew =>
        simp only [Bool.or_eq_true, not_or, Bool.not_eq_true] at hnew
        refine ((upholds_create hw' hnew.1).mapFailure _).bind ?_
        exact fun saved w'' hw'' _ => ih hw'' (saved :: created)

theorem upholds_removeIds
    (hw : w.Sound)
    (total : Nat)
    (ids : List Nat) :
    w.Upholds (Service.removeIds (access τ) total ids) fun _ _ => True := by
  unfold Service.removeIds
  split
  · exact .pure hw trivial
  · refine ((upholds_delete hw ids).mapFailure _).bind ?_
    exact fun _ w' hw' _ => .pure hw' trivial

theorem upholds_cleanUp
    (hw : w.Sound)
    (s : Service)
    (c : ContentView) :
    w.Upholds (s.cleanUp (access τ) c) fun _ _ => True :=
  ((upholds_ownedBy hw c.owner none).mapFailure _).bind fun records _ hw' _ =>
    upholds_removeIds hw' records.length (s.staleIds c records)

theorem upholds_cleanUpGone
    (hw : w.Sound)
    (owner : Owner) :
    w.Upholds (Service.cleanUpGone (access τ) owner) fun _ _ => True :=
  ((upholds_ownedBy hw owner none).mapFailure _).bind fun records _ hw' _ =>
    upholds_removeIds hw' records.length (records.filterMap (·.id))

theorem upholds_cleanUpOwner
    (hw : w.Sound)
    (s : Service)
    (owner : Owner) :
    w.Upholds (s.cleanUpOwner (access τ) load owner) fun _ _ => True := by
  refine ((upholds_load hw owner).mapFailure _).bind ?_
  intro content w' hw' _
  cases content with
  | none => exact upholds_cleanUpGone hw' owner
  | some c => exact upholds_cleanUp hw' s c

theorem upholds_processPage
    (hw : w.Sound)
    (pageSize : Nat)
    (p : Progress) :
    w.Upholds (Removal.processPage (access τ) pageSize p) fun _ _ => True := by
  unfold Removal.processPage
  split
  · exact .pure hw trivial
  refine ((upholds_page hw p.cursor pageSize).mapFailure _).bind ?_
  intro page w' hw' _
  unfold Removal.processLoaded
  split
  · refine ((upholds_count hw').mapFailure _).bind ?_
    intro remaining w'' hw'' _
    cases hempty : Removal.atEmptyPage p remaining with
    | error e => exact .of_error rfl hw'' (List.prefix_refl _)
    | ok done => exact .of_ok rfl hw'' (List.prefix_refl _) trivial
  · refine ((upholds_delete hw' _).mapFailure _).bind ?_
    exact fun deleted w'' hw'' _ => .pure hw'' trivial

/-! ## Checks -/

theorem upholds_writeBack
    (hw : w.Sound)
    {rs : List LinkRecord}
    (hadmits : ∀ r ∈ rs, w.store.index.Admits r) :
    w.Upholds (Check.writeBack (access τ) rs) fun _ _ => True := by
  induction rs generalizing w with
  | nil => exact .pure hw trivial
  | cons r rest ih =>
      have hrest : ∀ w' : World τ, w'.Sound → w'.store.index.places = w.store.index.places →
          w'.Upholds (Check.writeBack (access τ) rest) fun _ _ => True := by
        intro w' hw' hplaces
        refine ih hw' fun q hq => ?_
        rw [Index.Admits, hplaces]
        exact hadmits q (List.mem_cons_of_mem _ hq)
      unfold Check.writeBack
      split
      · refine ((upholds_update hw (hadmits r List.mem_cons_self)).mapFailure _).bind ?_
        exact fun _ w' hw' hplaces => hrest w' hw' hplaces
      · exact hrest w hw rfl

theorem upholds_ofView
    (hw : w.Sound)
    (f : World τ → α) :
    w.Upholds (Step.ofView f : Step ε (World τ) α) fun _ w' => w' = w :=
  .of_ok rfl hw (List.prefix_refl _) rfl

theorem upholds_fetchAll
    (hw : w.Sound)
    (fetch : Fetcher τ)
    (timeout : Nat)
    (urls : List String) :
    w.Upholds (ExceptT.lift (Check.fetchAll (fetch.observed Fallible) timeout urls) :
      Step ε (World τ) _) fun _ w' => ∃ web, w' = { w with web := web } := by
  obtain ⟨web, hweb⟩ := Check.fetchAll_observed fetch timeout urls w
  have hfetch : (ExceptT.lift (Check.fetchAll (fetch.observed Fallible) timeout urls) :
      Step ε (World τ) _) w =
        (.ok (Check.fetchAll (fetch.observed Fallible) timeout urls w).1,
          { w with web := web }) := by
    rw [← hweb]
    rfl
  exact .of_ok hfetch ⟨hw.shown, hw.ledger⟩ (List.prefix_refl _) ⟨web, rfl⟩

/-- The records of a page may be written back behind their check. -/
theorem upholds_checkLinks
    (hw : w.Sound)
    (fetch : Fetcher τ)
    (course : Course (World τ))
    (timeout : Nat)
    {page : List LinkRecord}
    (hpage : ∀ r ∈ page, r ∈ w.store.index.records) :
    w.Upholds (Check.checkLinks (access τ) (fetch.observed Fallible) course timeout page)
      fun _ _ => True := by
  have hwrite : ∀ (results : List CheckResult) (now : Timestamp),
      ∀ r ∈ results.flatMap (Check.marked now page), w.store.index.Admits r := by
    intro results now r hr
    obtain ⟨result, -, hr⟩ := List.mem_flatMap.1 hr
    obtain ⟨d, hd, rfl⟩ := List.mem_map.1 hr
    exact hw.ledger.wellFormed.admits_of_mem (hpage d (List.mem_filter.1 hd).1) rfl rfl
  refine (upholds_ofView hw _).bind ?_
  rintro urls _ - rfl
  refine (upholds_fetchAll hw fetch timeout urls).bind ?_
  rintro results _ hw' ⟨web, rfl⟩
  refine (upholds_ofView hw' _).bind ?_
  rintro now _ - rfl
  refine (upholds_writeBack hw' (hwrite results now)).bind ?_
  exact fun _ w' hw'' _ => .pure hw'' trivial

theorem upholds_checkPages
    (hw : w.Sound)
    (fetch : Fetcher τ)
    (course : Course (World τ))
    (timeout limit fuel : Nat)
    (cursor : Option Nat)
    (summary : CheckSummary) :
    w.Upholds (Check.checkPages (access τ) (fetch.observed Fallible) course timeout limit fuel
      cursor summary) fun _ _ => True := by
  induction fuel generalizing w cursor summary with
  | zero => exact .pure hw trivial
  | succ fuel ih =>
      unfold Check.checkPages
      refine ((upholds_page hw cursor limit).mapFailure _).bind ?_
      intro page w' hw' hpage
      cases page.getLast? with
      | none => exact .pure hw' trivial
      | some last =>
          refine (upholds_checkLinks hw' fetch course timeout hpage).bind ?_
          intro results w'' hw'' _
          dsimp only
          split
          · exact .pure hw'' trivial
          · exact ih hw'' last.id _

/-- The world behind a step that upholds the agreement. -/
theorem Upholds.behind
    (h : w.Upholds step Q) :
    (step w).2.Sound ∧ w.deeds <+: (step w).2.deeds := by
  obtain ⟨hsound, hdeeds, -⟩ := h rfl
  exact ⟨hsound, hdeeds⟩

theorem sound_start
    (contents : List Content)
    (web : τ) :
    (start contents web).Sound :=
  ⟨rfl, Index.ledger_empty⟩

end World

/-! ## Operations -/

namespace Operation

open World

/-- Every operation keeps the agreement and only adds to the journal. -/
theorem perform_sound
    {w : World τ}
    (hw : w.Sound)
    (op : Operation τ) :
    (perform w op).Sound ∧ w.deeds <+: (perform w op).deeds := by
  cases op with
  | save records => exact (upholds_saveFrom hw [] records).behind
  | saveContent s c => exact (upholds_saveFrom hw [] (s.contentRecords c)).behind
  | cleanUp s c => exact (upholds_cleanUp hw s c).behind
  | cleanUpGone owner => exact (upholds_cleanUpGone hw owner).behind
  | cleanUpOwner s owner => exact (upholds_cleanUpOwner hw s owner).behind
  | removePage pageSize progress => exact (upholds_processPage hw pageSize progress).behind
  | checkAll fetch course timeout pageSize =>
      exact (upholds_checkPages hw fetch course timeout _ _ none _).behind
  | arm faults => exact ⟨hw.withFaults faults, List.prefix_refl _⟩
  | putContent c => exact ⟨⟨hw.shown, hw.ledger⟩, List.prefix_refl _⟩
  | removeContent owner => exact ⟨⟨hw.shown, hw.ledger⟩, List.prefix_refl _⟩

theorem run_sound
    {w : World τ}
    (hw : w.Sound)
    (ops : List (Operation τ)) :
    (run w ops).Sound ∧ w.deeds <+: (run w ops).deeds := by
  induction ops generalizing w with
  | nil => exact ⟨hw, List.prefix_refl _⟩
  | cons op ops ih =>
      obtain ⟨hsound, hdeeds⟩ := perform_sound hw op
      obtain ⟨hsound', hdeeds'⟩ := ih hsound
      exact ⟨hsound', hdeeds.trans hdeeds'⟩

/--
Whatever operations follow each other from an empty index on, and whatever calls fail in them:
every record has the number that it is stored under; numbers are given in ascending order, so none
is given twice; no two records stand for the same occurrence; every record stands for what the
record with its number stood for when it was created, and so does any record that is stored under
this number later.
-/
theorem run_ledger
    (contents : List Content)
    (web : τ)
    (ops more : List (Operation τ)) :
    (∀ e ∈ (run (start contents web) ops).store.index.entries, e.2.id = some e.1) ∧
      (run (start contents web) ops).store.index.entries.Pairwise (fun d e => d.1 < e.1) ∧
      (∃ ids : List Nat, ids.Pairwise (· < ·) ∧
        (Deed.creations (run (start contents web) ops).deeds).map (·.id) = ids.map some) ∧
      (run (start contents web) ops).store.index.records.Pairwise
        (fun r q => r.sameOccurrence q = false) ∧
      (∀ r ∈ (run (start contents web) ops).store.index.records,
        ∃ q ∈ Deed.creations (run (start contents web) ops).deeds,
          q.id = r.id ∧ q.sameOccurrence r = true) ∧
      ∀ r ∈ (run (start contents web) ops).store.index.records,
        ∀ q ∈ (run (start contents web) (ops ++ more)).store.index.records,
          r.id = q.id → r.sameOccurrence q = true := by
  obtain ⟨hsound, -⟩ := run_sound (sound_start contents web) ops
  obtain ⟨hsound', hdeeds⟩ := run_sound hsound more
  rw [run, run, ← List.foldl_append] at hsound' hdeeds
  have hledger := hsound.ledger
  exact ⟨hledger.wellFormed.numbered, hledger.wellFormed.ascending,
    ⟨_, List.pairwise_lt_range', hledger.numbers⟩, hledger.pairwise_records,
    fun _ hr => hledger.exists_creation hr,
    fun _ hr _ hq hid => hledger.sameOccurrence hsound'.ledger hdeeds hr hq hid⟩

-- The number of a record that is gone is not given again, nor is one lost by a save that fails.
example :
    (run (start [] ())
      [.save [.ofOccurrence "a" ⟨"node", "1"⟩ "see" "en"], .cleanUpGone ⟨"node", "1"⟩,
        .arm [⟨.create, some "locked", 1⟩],
        .save [.ofOccurrence "a" ⟨"node", "1"⟩ "see" "en",
          .ofOccurrence "b" ⟨"node", "1"⟩ "see" "en"],
        .save [.ofOccurrence "b" ⟨"node", "1"⟩ "see" "en"]]).store.index.entries.map (·.1) =
      [2, 3] := by
  decide

end Operation
end LinkLedger
