import LinkLedger.CleanUp.Document
import LinkLedger.Index.Faults

/-!
# A removal among others

A removal takes long, and others use its index meanwhile.  A page is first loaded and then removed,
or the records are counted if it is empty; a record is taken in under a number that has been drawn
before.  Between the two steps of either, anybody else may come in.
-/

namespace LinkLedger

/-- A removal with the index that it works on, how many records have been taken in since it began,
the numbers drawn for records that are not in yet, the page that has been loaded and waits for the
rest of its work, and the texts that the progress has been saved as. -/
structure SharedRemoval where
  store : Fallible
  job : Removal
  created : Nat
  underway : List Nat
  loaded : Option (List LinkRecord)
  saved : List String

namespace SharedRemoval

/-- What can happen: the next page of the job, or only its loading and later on the rest of it; a
run that is found to be cancelled by `cancelled` or by none; a record taken in by others, or only
its number drawn and later on the rest; records written to and removed by others; faults armed in
place of those there were; the progress saved, and the job taken up, with pages of another size,
from progress that has been saved or from that of the moment. -/
inductive Event where
  | page
  | load
  | process
  | run (cancelled : Nat → Bool)
  | create (r : LinkRecord)
  | draw
  | insert (id : Nat) (r : LinkRecord)
  | update (r : LinkRecord)
  | delete (ids : List Nat)
  | arm (faults : List ArmedFault)
  | save
  | restore (text : String) (pageSize : Nat)
  | resume (pageSize : Nat)

/-- A new job on an index.  It has done nothing yet, so what others do next may as well have been
done before the job was there. -/
def start (x : Index) (contents : List Content) (pageSize : Nat) : SharedRemoval :=
  ⟨⟨x, contents, [], false⟩, Removal.start pageSize, 0, [], none, []⟩

/-- What is there behind an event. -/
def after (s : SharedRemoval) : Event → SharedRemoval
  | .page =>
      let (done, store) := s.job.next Fallible.access s.store
      { s with store := store, job := done.2, loaded := none }
  | .load =>
      if s.job.progress.finished then { s with loaded := none }
      else
        match Fallible.access.page s.job.progress.cursor s.job.pageSize s.store with
        | (.ok page, store) => { s with store := store, loaded := some page }
        | (.error _, store) => { s with store := store, loaded := none }
  | .process =>
      match s.loaded with
      | none => s
      | some page =>
          match Removal.processLoaded Fallible.access s.job.progress page s.store with
          | (.ok (_, progress), store) =>
              { s with store := store, job := { s.job with progress := progress }, loaded := none }
          | (.error _, store) => { s with store := store, loaded := none }
  | .run cancelled =>
      let (done, store) := s.job.runUntil Fallible.access cancelled s.store
      { s with store := store, job := done.2, loaded := none }
  | .create r =>
      match Fallible.access.create r s.store with
      | (.ok _, store) => { s with store := store, created := s.created + 1 }
      | (.error _, store) => { s with store := store }
  | .draw =>
      match Fallible.draw s.store with
      | (.ok id, store) => { s with store := store, underway := id :: s.underway }
      | (.error _, store) => { s with store := store }
  | .insert id r =>
      if id ∈ s.underway then
        { s with
          store := { s.store with index := (s.store.index.insert id r).2 }
          created := s.created + 1
          underway := s.underway.erase id }
      else s
  | .update r => { s with store := (Fallible.access.update r s.store).2 }
  | .delete ids => { s with store := (Fallible.access.delete ids s.store).2 }
  | .arm faults => { s with store := { s.store with faults := faults } }
  | .save => { s with saved := s.job.progress.toText :: s.saved }
  | .restore text pageSize =>
      if text ∈ s.saved then
        match Progress.ofText text with
        | .ok progress => { s with job := .resume pageSize progress, loaded := none }
        | .error _ => s
      else s
  | .resume pageSize =>
      match Progress.ofText s.job.progress.toText with
      | .ok progress => { s with job := .resume pageSize progress, loaded := none }
      | .error _ => s

/-- What is there behind events, one after the other. -/
def afterAll (s : SharedRemoval) (events : List Event) : SharedRemoval := events.foldl after s

end SharedRemoval
end LinkLedger
