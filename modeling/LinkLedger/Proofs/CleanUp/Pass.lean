import LinkLedger.CleanUp.Pass
import LinkLedger.Proofs.Service.Occurrences
import LinkLedger.Proofs.Service.Saving

/-!
# What a pass removes

A pass over the records of an owner leaves out those that its content does not bear out, and it
touches nothing else.

**Results.**
* `isStale_eq_false_iff`: a record stays if its link is one of its field's.
* `cleanUp_access`: what a pass over the records of content does to an index.
* `cleanUpGone_access`: what it does if the content is gone.
-/

namespace LinkLedger
namespace Service

/-! ## Stale records -/

/-- A record is not stale exactly if its link is tracked and one of its field's. -/
theorem isStale_eq_false_iff
    {s : Service}
    {c : ContentView}
    {r : LinkRecord} :
    s.isStale c r = false ↔
      (s.classifier.classify r.url (s.baseOf c)).kept = true ∧
        (s.classifier.classify r.url (s.baseOf c)).url ∈ s.fieldLinks c r.field r.language := by
  simp only [isStale, Bool.or_eq_false_iff, Bool.not_eq_false', List.contains_iff_mem]
  constructor
  · rintro ⟨⟨hkept, -⟩, hurl⟩
    exact ⟨hkept, hurl⟩
  · rintro ⟨hkept, hurl⟩
    exact ⟨⟨hkept, isScanned_of_mem_fieldLinks hurl⟩, hurl⟩

/-- Whether a pass over content removes a record: one of its owner, if the content is gone or the
record is stale. -/
def removes (s : Service) (c : ContentView) (r : LinkRecord) : Bool :=
  r.owner == c.owner && (!c.isLive || s.isStale c r)

theorem removes_of_owner_ne
    {c : ContentView}
    {r : LinkRecord}
    (h : r.owner ≠ c.owner)
    (s : Service) :
    s.removes c r = false := by
  rw [removes, beq_eq_false_iff_ne.2 h, Bool.false_and]

theorem removes_of_owner_eq
    {c : ContentView}
    {r : LinkRecord}
    (h : r.owner = c.owner)
    (hlive : c.isLive = true)
    (s : Service) :
    s.removes c r = s.isStale c r := by
  rw [removes, h, beq_self_eq_true, Bool.true_and, hlive, Bool.not_true, Bool.false_or]

theorem owner_of_removes
    {s : Service}
    {c : ContentView}
    {r : LinkRecord}
    (h : s.removes c r = true) :
    r.owner = c.owner := by
  rw [removes, Bool.and_eq_true, beq_iff_eq] at h
  exact h.1

/-- The number of a record does not matter for whether it is removed. -/
theorem removes_withId
    (s : Service)
    (c : ContentView)
    (r : LinkRecord)
    (id : Option Nat) :
    s.removes c { r with id := id } = s.removes c r :=
  rfl

/-- Records of one occurrence are removed together. -/
theorem removes_congr
    {a b : LinkRecord}
    (h : a.sameOccurrence b = true)
    (s : Service)
    (c : ContentView) :
    s.removes c a = s.removes c b := by
  obtain ⟨hurl, howner, hfield, hlanguage⟩ := (LinkRecord.sameOccurrence_iff a b).1 h
  rw [removes, removes, isStale, isStale, hurl, howner, hfield, hlanguage]

theorem ownedBy_eq_filter
    (x : Index)
    (owner : Owner) :
    x.ownedBy owner none = x.records.filter fun r => r.owner == owner := by
  simp only [Index.ownedBy, Option.all_none, Bool.and_true]

theorem staleIds_ownedBy
    (s : Service)
    (c : ContentView)
    (x : Index) :
    s.staleIds c (x.ownedBy c.owner none) =
      (x.records.filter (s.removes c)).filterMap (·.id) := by
  rw [ownedBy_eq_filter, staleIds]
  split
  · next hlive =>
    rw [List.filter_filter]
    congr 1
    refine List.filter_congr fun r _ => ?_
    rw [removes, hlive, Bool.and_comm, Bool.not_true, Bool.false_or]
  · next hlive =>
    congr 1
    refine List.filter_congr fun r _ => ?_
    rw [removes, Bool.eq_false_iff.2 hlive, Bool.not_false, Bool.true_or, Bool.and_true]

/-- A test that only records of an owner satisfy parts the records of the owner. -/
theorem length_ownedBy
    (x : Index)
    {owner : Owner}
    {p : LinkRecord → Bool}
    (hp : ∀ r, p r = true → r.owner = owner) :
    ((x.restrict fun r => !p r).ownedBy owner none).length + (x.records.filter p).length =
      (x.ownedBy owner none).length := by
  have hgone : (x.ownedBy owner none).filter p = x.records.filter p := by
    rw [ownedBy_eq_filter, List.filter_filter]
    refine List.filter_congr fun r _ => ?_
    cases hr : p r with
    | false => rw [Bool.false_and]
    | true => rw [hp r hr, beq_self_eq_true, Bool.and_true]
  have hstay : (x.restrict fun r => !p r).ownedBy owner none =
      (x.ownedBy owner none).filter fun r => !p r := by
    rw [ownedBy_eq_filter, ownedBy_eq_filter, Index.records_restrict, List.filter_filter,
      List.filter_filter]
    simp only [Bool.and_comm]
  rw [hstay, ← hgone, ← List.countP_eq_length_filter, ← List.countP_eq_length_filter,
    List.length_eq_countP_add_countP p, Nat.add_comm]
  simp

/-! ## The passes -/

theorem load_ownedBy
    (x : Index)
    (owner : Owner) :
    ((Index.access.ownedBy owner none).mapFailure Failure.storage) x =
      (.ok (x.ownedBy owner none), x) :=
  Step.mapFailure_of_ok (Index.access_ownedBy _ _ _)

/--
Removing those of an owner's records that satisfy a test leaves them out; what stays and what goes
is counted.
-/
theorem removeIds_access
    {x : Index}
    (hx : x.WellFormed)
    {owner : Owner}
    {p : LinkRecord → Bool}
    (hp : ∀ r, p r = true → r.owner = owner) :
    removeIds Index.access (x.ownedBy owner none).length
        ((x.records.filter p).filterMap (·.id)) x =
      (.ok ⟨((x.restrict fun r => !p r).ownedBy owner none).length, (x.records.filter p).length⟩,
        x.restrict fun r => !p r) := by
  have hlength : ((x.records.filter p).filterMap (·.id)).length = (x.records.filter p).length :=
    hx.length_ids fun r hr => (List.mem_filter.1 hr).1
  have hdelete : ((Index.access.delete ((x.records.filter p).filterMap (·.id))).mapFailure
      Failure.storage) x = (.ok (x.records.filter p).length, x.restrict fun r => !p r) := by
    refine Step.mapFailure_of_ok ?_
    rw [Index.access_delete, hx.delete_ids p]
  unfold removeIds
  split
  · next hempty =>
    have hnone : x.records.filter p = [] := by
      rw [List.isEmpty_iff_length_eq_zero, hlength] at hempty
      exact List.eq_nil_of_length_eq_zero hempty
    have hsame : (x.restrict fun r => !p r) = x :=
      Index.restrict_eq_self fun r hr => by
        simpa using List.filter_eq_nil_iff.1 hnone r hr
    rw [hsame, hnone]
    rfl
  · rw [Step.bind_of_ok hdelete, hlength, ← length_ownedBy x hp, Nat.add_sub_cancel]
    rfl

/-- A pass over the records of content leaves out those that are to be removed. -/
theorem cleanUp_access
    {x : Index}
    (hx : x.WellFormed)
    (s : Service)
    (c : ContentView) :
    s.cleanUp Index.access c x =
      (.ok ⟨((x.restrict fun r => !s.removes c r).ownedBy c.owner none).length,
          (x.records.filter (s.removes c)).length⟩,
        x.restrict fun r => !s.removes c r) := by
  rw [cleanUp, Step.bind_of_ok (load_ownedBy x c.owner), staleIds_ownedBy]
  exact removeIds_access hx fun _ => owner_of_removes

/-- A pass over the records of an owner without content leaves out all of them. -/
theorem cleanUpGone_access
    {x : Index}
    (hx : x.WellFormed)
    (owner : Owner) :
    cleanUpGone Index.access owner x =
      (.ok ⟨0, (x.ownedBy owner none).length⟩, x.restrict fun r => !(r.owner == owner)) := by
  have hnone : ((x.restrict fun r => !(r.owner == owner)).ownedBy owner none).length = 0 := by
    rw [ownedBy_eq_filter, Index.records_restrict, List.filter_filter]
    simp
  have hremove := removeIds_access hx (p := fun r => r.owner == owner)
    fun r hr => beq_iff_eq.1 hr
  rw [cleanUpGone, Step.bind_of_ok (load_ownedBy x owner)]
  rw [hnone, ← ownedBy_eq_filter] at hremove
  exact hremove

/-- A pass that has nothing to remove changes nothing. -/
theorem cleanUp_access_of_clean
    {x : Index}
    (hx : x.WellFormed)
    {s : Service}
    {c : ContentView}
    (h : ∀ r ∈ x.records, s.removes c r = false) :
    s.cleanUp Index.access c x = (.ok ⟨(x.ownedBy c.owner none).length, 0⟩, x) := by
  have hsame : (x.restrict fun r => !s.removes c r) = x :=
    Index.restrict_eq_self fun r hr => by rw [h r hr, Bool.not_false]
  have hnone : x.records.filter (s.removes c) = [] :=
    List.filter_eq_nil_iff.2 fun r hr => by rw [h r hr]; exact Bool.false_ne_true
  rw [cleanUp_access hx, hsame, hnone]
  rfl

end Service
end LinkLedger
