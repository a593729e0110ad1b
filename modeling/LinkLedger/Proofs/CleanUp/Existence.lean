import LinkLedger.Proofs.CleanUp.Pass
import LinkLedger.Proofs.Index.Faults
import LinkLedger.Proofs.Service.Filtering

/-!
# What a pass leaves is there

A pass judges by all settings and looks a link up among those of its field.  Whether a link still is
in its content is judged without excluded patterns, by references that are collected anew.  The two
differ by the excluded patterns alone.

**Results.**
* `isStale_eq_false_iff_occurs`: a record stays if its link is in the content and is not excluded.
* `cleanUpOwner_of_ok`: a pass behind faults that succeeds is a pass over the index.
* `cleanUp_agrees_with_occurs`: the two procedures agree.
-/

namespace LinkLedger

namespace Service

/-! ## Passes over content and the search for a link -/

theorem occurs_iff
    {s : Service}
    {c : ContentView}
    {r : LinkRecord} :
    s.occurs c r = true ↔
      ∃ references, s.references? c r.field r.language = some references ∧
        (s.classifier.lenient.classify r.url (s.baseOf c)).kept = true ∧
        (s.classifier.classify r.url (s.baseOf c)).url ∈
          s.classifier.lenient.links references (s.baseOf c) := by
  unfold occurs
  cases s.references? c r.field r.language with
  | none => simp
  | some references =>
      simp only [Bool.and_eq_true, List.contains_iff_mem, Classifier.classify_lenient_url,
        Option.some.injEq, exists_eq_left']

/-- A record of content that is there stays if its link is in the content and is not excluded. -/
theorem isStale_eq_false_iff_occurs
    {s : Service}
    {c : ContentView}
    {r : LinkRecord} :
    s.isStale c r = false ↔
      s.occurs c r = true ∧
        s.classifier.excludes (s.classifier.classify r.url (s.baseOf c)).url = false := by
  rw [isStale_eq_false_iff, occurs_iff, mem_fieldLinks, Classifier.classify_kept,
    Bool.and_eq_true, Bool.not_eq_true']
  constructor
  · rintro ⟨⟨hkept, hfree⟩, references, href, hurl⟩
    exact ⟨⟨references, href, hkept, (Classifier.mem_links_iff.1 hurl).1⟩, hfree⟩
  · rintro ⟨⟨references, href, hkept, hurl⟩, hfree⟩
    exact ⟨⟨hkept, hfree⟩, references, href, Classifier.mem_links_iff.2 ⟨hurl, hfree⟩⟩

/-- The records of an owner that a pass over content leaves. -/
theorem mem_restrict_removes
    {s : Service}
    {c : ContentView}
    {x : Index}
    {r : LinkRecord}
    (howner : r.owner = c.owner) :
    r ∈ (x.restrict fun r => !s.removes c r).records ↔
      r ∈ x.records ∧ c.isLive = true ∧ s.isStale c r = false := by
  rw [Index.records_restrict, List.mem_filter, removes, howner, beq_self_eq_true, Bool.true_and,
    Bool.not_or, Bool.not_not, Bool.and_eq_true, Bool.not_eq_true']

/-! ## Passes behind faults -/

theorem follows_removeIds
    (total : Nat)
    (ids : List Nat) :
    Fallible.Follows (removeIds Fallible.access total ids) (removeIds Index.access total ids) := by
  unfold removeIds
  split
  · exact Fallible.Follows.pure _
  · exact ((Fallible.follows_delete ids).mapFailure _).bind fun _ => Fallible.Follows.pure _

theorem follows_cleanUp
    (s : Service)
    (c : ContentView) :
    Fallible.Follows (s.cleanUp Fallible.access c) (s.cleanUp Index.access c) :=
  ((Fallible.follows_ownedBy _ _).mapFailure _).bind fun _ => follows_removeIds _ _

theorem follows_cleanUpGone
    (owner : Owner) :
    Fallible.Follows (cleanUpGone Fallible.access owner) (cleanUpGone Index.access owner) :=
  ((Fallible.follows_ownedBy _ _).mapFailure _).bind fun _ => follows_removeIds _ _

/--
A pass that loads the content of an owner and succeeds has left those records of the owner whose
links are in the content and not excluded.
-/
theorem cleanUpOwner_of_ok
    {s : Service}
    {owner : Owner}
    {st st' : Fallible}
    {report : CleanUpReport}
    (hhidden : st.hidden = false)
    (hx : st.index.WellFormed)
    (h : s.cleanUpOwner Fallible.access Fallible.load owner st = (.ok report, st')) :
    st'.contents = st.contents ∧
      ∀ r ∈ st'.index.records, r.owner = owner →
        ∃ c, st.content? owner = some c ∧ c.isLive = true ∧ s.isStale c r = false := by
  -- What is loaded decides between two passes; faults that did not fire are left in the store, so
  -- it is not the one the pass began with.
  obtain ⟨found, st₁, hload, hpass⟩ := Step.bind_eq_ok.1 h
  obtain ⟨rest, rfl, rfl⟩ := Fallible.load_eq_ok (Step.eq_ok_of_mapFailure hload)
  have hlisted : ({ st with faults := rest } : Fallible).hidden = false := hhidden
  cases hfound : st.content? owner with
  | none =>
      rw [hfound] at hpass
      change cleanUpGone Fallible.access owner { st with faults := rest } = _ at hpass
      obtain ⟨hplain, -, hcontents⟩ := follows_cleanUpGone owner hlisted hpass
      change cleanUpGone Index.access owner st.index = _ at hplain
      rw [cleanUpGone_access hx] at hplain
      obtain ⟨-, hindex⟩ := Prod.mk.inj hplain
      refine ⟨hcontents, fun r hr howner => ?_⟩
      rw [← hindex, Index.records_restrict] at hr
      simp [howner] at hr
  | some c =>
      rw [hfound] at hpass
      change s.cleanUp Fallible.access c { st with faults := rest } = _ at hpass
      obtain ⟨hplain, -, hcontents⟩ := follows_cleanUp s c hlisted hpass
      change s.cleanUp Index.access c st.index = _ at hplain
      rw [cleanUp_access hx] at hplain
      obtain ⟨-, hindex⟩ := Prod.mk.inj hplain
      refine ⟨hcontents, fun r hr howner => ?_⟩
      rw [← hindex] at hr
      have howner' : r.owner = c.view.owner := howner.trans (Fallible.owner_of_content? hfound).symm
      obtain ⟨-, hlive, hstay⟩ := (mem_restrict_removes howner').1 hr
      exact ⟨c, rfl, hlive, hstay⟩

/-! ## The search for a link -/

/-- Without faults the search for a link gives what the content says. -/
theorem stillOccurs_of_content?
    {s : Service}
    {st : Fallible}
    {r : LinkRecord}
    {c : Content}
    (h : st.content? r.owner = some c) :
    (s.stillOccurs Fallible.load r st.calm).1 =
      .ok (c.isLive && s.occurs c r) := by
  have hload : ((Fallible.load r.owner).mapFailure Failure.contentSource) st.calm =
      (.ok (some c.view), st.calm) := by
    refine Step.mapFailure_of_ok ?_
    change (Except.ok ((st.content? r.owner).map Content.view), _) = _
    rw [h]
    rfl
  rw [stillOccurs, Step.bind_of_ok hload]
  rfl

theorem occurs_excluding
    (s : Service)
    (excluded : String)
    (c : ContentView)
    (r : LinkRecord) :
    (s.excluding excluded).occurs c r = s.occurs c r :=
  rfl

theorem stillOccurs_excluding
    {σ : Type}
    (s : Service)
    (excluded : String)
    (load : Owner → Step String σ (Option ContentView))
    (r : LinkRecord) :
    (s.excluding excluded).stillOccurs load r = s.stillOccurs load r := by
  unfold stillOccurs
  simp only [occurs_excluding]

/--
A pass over content that is there keeps exactly those records of its owner whose links are found in
the content and are not excluded.  So every record that a pass leaves is found again, whatever
faults the pass met, and excluded patterns do not matter for what is found.
-/
theorem cleanUp_agrees_with_occurs
    (s : Service) :
    (∀ (c : ContentView) (x : Index), c.isLive = true → x.WellFormed →
      ∃ report y, s.cleanUp Index.access c x = (.ok report, y) ∧
        ∀ r ∈ x.records, r.owner = c.owner →
          (r ∈ y.records ↔
            s.occurs c r = true ∧
              s.classifier.excludes (s.classifier.classify r.url (s.baseOf c)).url = false)) ∧
      (∀ (owner : Owner) (st st' : Fallible) (report : CleanUpReport),
        st.hidden = false → st.index.WellFormed →
        s.cleanUpOwner Fallible.access Fallible.load owner st = (.ok report, st') →
        ∀ r ∈ st'.index.records, r.owner = owner →
          (s.stillOccurs Fallible.load r st'.calm).1 = .ok true) ∧
      ∀ (excluded : String) (σ : Type) (load : Owner → Step String σ (Option ContentView))
        (r : LinkRecord),
        (s.excluding excluded).stillOccurs load r = s.stillOccurs load r := by
  refine ⟨?_, ?_, fun excluded _ load r => s.stillOccurs_excluding excluded load r⟩
  · intro c x hlive hx
    refine ⟨_, _, cleanUp_access hx s c, fun r hr howner => ?_⟩
    rw [mem_restrict_removes howner, isStale_eq_false_iff_occurs]
    exact ⟨fun h => h.2.2, fun h => ⟨hr, hlive, h⟩⟩
  · intro owner st st' report hhidden hx h r hr howner
    obtain ⟨hcontents, hleft⟩ := cleanUpOwner_of_ok hhidden hx h
    obtain ⟨c, hfound, hlive, hstay⟩ := hleft r hr howner
    have hfound' : st'.content? r.owner = some c := by
      rw [Fallible.content?, hcontents, howner]
      exact hfound
    rw [stillOccurs_of_content? hfound', hlive, (isStale_eq_false_iff_occurs.1 hstay).1]
    rfl

/-- A relative link that a pass leaves and that is found again. -/
theorem cleanUp_leaves_relative_link :
    ∃ report st',
      cleanUpOwner ⟨{ Settings.standard with sitePath := "[::1]" }, .standard⟩ Fallible.access
          Fallible.load ⟨"node", "1"⟩
          ⟨(Index.empty.create (.ofOccurrence "about" ⟨"node", "1"⟩ "see" "en")).2,
            [((Content.ofOwner ⟨"node", "1"⟩).withConfig "see"
              (.scanned "link_link_extractor")).withField "see" "en" ["/about"]], [], false⟩ =
        (.ok report, st') ∧
      { LinkRecord.ofOccurrence "about" ⟨"node", "1"⟩ "see" "en" with id := some 1 } ∈
        st'.index.records ∧
      (stillOccurs ⟨{ Settings.standard with sitePath := "[::1]" }, .standard⟩ Fallible.load
        { LinkRecord.ofOccurrence "about" ⟨"node", "1"⟩ "see" "en" with id := some 1 }
        st'.calm).1 = .ok true := by
  have hleaves := (cleanUp_agrees_with_occurs
    ⟨{ Settings.standard with sitePath := "[::1]" }, .standard⟩).2.1 ⟨"node", "1"⟩
    ⟨(Index.empty.create (.ofOccurrence "about" ⟨"node", "1"⟩ "see" "en")).2,
      [((Content.ofOwner ⟨"node", "1"⟩).withConfig "see"
        (.scanned "link_link_extractor")).withField "see" "en" ["/about"]], [], false⟩ _ ⟨1, 0⟩
    rfl (Index.wellFormed_empty.create _) (Prod.ext rfl rfl)
  refine ⟨⟨1, 0⟩, _, Prod.ext rfl rfl, ?_, hleaves _ ?_ rfl⟩
  · decide +kernel
  · decide +kernel

end Service
end LinkLedger
