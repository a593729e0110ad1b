import LinkLedger.Service.Save

/-!
# Removing stale records

A record is stale when its content is gone, its field is not searched any more, its link is not
tracked any more, or its link is not among those of its field.  A pass over the records of one owner
removes the stale ones and creates none.  It may keep the links of a field that it has looked up for
the records behind.
-/

namespace LinkLedger

/-- What a pass did: how many records stay and how many it removed. -/
structure CleanUpReport where
  kept : Nat
  deleted : Nat
  deriving DecidableEq, Repr

namespace Service

variable {σ : Type}

/-- Whether a record is stale against content that is there. -/
def isStale (s : Service) (c : ContentView) (r : LinkRecord) : Bool :=
  let recorded := s.classifier.classify r.url (s.baseOf c)
  !recorded.kept || !c.isScanned r.field ||
    !(s.fieldLinks c r.field r.language).contains recorded.url

/-- The numbers of the stale records of content. -/
def staleIds (s : Service) (c : ContentView) (records : List LinkRecord) : List Nat :=
  if c.isLive then (records.filter fun r => s.isStale c r).filterMap (·.id)
  else records.filterMap (·.id)

/-- Removes records of an owner with `total` records. -/
def removeIds (a : Access σ) (total : Nat) (ids : List Nat) : Step Failure σ CleanUpReport :=
  if ids.isEmpty then pure ⟨total, 0⟩
  else do
    let deleted ← (a.delete ids).mapFailure .storage
    pure ⟨total - ids.length, deleted⟩

/-- Removes the stale records of content. -/
def cleanUp (s : Service) (a : Access σ) (c : ContentView) : Step Failure σ CleanUpReport := do
  let records ← (a.ownedBy c.owner none).mapFailure .storage
  removeIds a records.length (s.staleIds c records)

/-- Links by the field and the language that they were found in. -/
abbrev KeptLinks := List ((String × String) × List String)

/-- The links of a field in one language, and the links kept with them. -/
def lookUp (s : Service) (c : ContentView) (current : KeptLinks) (field language : String) :
    List String × KeptLinks :=
  match current.lookup (field, language) with
  | some links => (links, current)
  | none =>
      let links := s.fieldLinks c field language
      (links, ((field, language), links) :: current)

/-- The numbers of the stale records, one record after the other; links are looked up where none
are kept. -/
def staleFrom (s : Service) (c : ContentView) : KeptLinks → List LinkRecord → List Nat
  | _, [] => []
  | current, r :: rest =>
      match r.id with
      | none => staleFrom s c current rest
      | some id =>
          let recorded := s.classifier.classify r.url (s.baseOf c)
          if !recorded.kept || !c.isScanned r.field then id :: staleFrom s c current rest
          else
            let (links, current) := s.lookUp c current r.field r.language
            if links.contains recorded.url then staleFrom s c current rest
            else id :: staleFrom s c current rest

/-- Removes the stale records of content in a pass that keeps the links it has looked up. -/
def cleanUpKeeping (s : Service) (a : Access σ) (c : ContentView) :
    Step Failure σ CleanUpReport := do
  let records ← (a.ownedBy c.owner none).mapFailure .storage
  if records.isEmpty then pure ⟨0, 0⟩
  else
    removeIds a records.length
      (if c.isLive then s.staleFrom c [] records else records.filterMap (·.id))

/-- Removes all records of an owner whose content is gone. -/
def cleanUpGone (a : Access σ) (owner : Owner) : Step Failure σ CleanUpReport := do
  let records ← (a.ownedBy owner none).mapFailure .storage
  removeIds a records.length (records.filterMap (·.id))

/-- Loads the content of an owner and removes the stale records. -/
def cleanUpOwner (s : Service) (a : Access σ) (load : Owner → Step String σ (Option ContentView))
    (owner : Owner) : Step Failure σ CleanUpReport := do
  match ← (load owner).mapFailure .contentSource with
  | some c => s.cleanUp a c
  | none => cleanUpGone a owner

end Service
end LinkLedger
