import LinkLedger.Failure
import LinkLedger.Index.Access
import LinkLedger.Service.Basic

/-!
# Links of content and the index

Links are saved once for every occurrence, and a saved link can be looked for in its content again.
-/

namespace LinkLedger
namespace Service

variable {σ : Type}

/-- Saves records, one after the other; `created` are those that have been saved, last one first. -/
def saveFrom (a : Access σ) (created : List LinkRecord) :
    List LinkRecord → Step Failure σ (List LinkRecord)
  | [] => pure created.reverse
  | r :: rest => do
      let existing ← (a.ownedBy r.owner (some r.field)).mapFailure .storage
      let isSame (known : LinkRecord) : Bool := known.sameOccurrence r
      if existing.any isSame || created.any isSame then
        saveFrom a created rest
      else do
        let saved ← (a.create r).mapFailure .storage
        saveFrom a (saved :: created) rest

/-- Saves the records whose occurrences the index does not hold; gives the new ones. -/
def save (a : Access σ) (records : List LinkRecord) : Step Failure σ (List LinkRecord) :=
  saveFrom a [] records

/-- Finds the links of content and saves them. -/
def saveContent (s : Service) (a : Access σ) (c : ContentView) : Step Failure σ (List LinkRecord) :=
  save a (s.contentRecords c)

/-- Whether a saved link still is in its content, which is loaded anew. -/
def stillOccurs (s : Service) (load : Owner → Step String σ (Option ContentView))
    (r : LinkRecord) :
    Step Failure σ Bool := do
  match ← (load r.owner).mapFailure .contentSource with
  | some c => pure (c.isLive && s.occurs c r)
  | none => pure false

end Service
end LinkLedger
