import LinkLedger.Content.Basic
import LinkLedger.Timestamp

/-!
# Link records

A record says that a link occurs in one field of one piece of content in one language, and what its
last check found.
-/

namespace LinkLedger

/-- What a check of a link found. -/
inductive LinkStatus where
  | ok
  | redirect (target : String)
  | broken
  | timeout
  | sslError
  | tooManyRedirects
  | dnsError
  | error
  deriving DecidableEq, Repr, Inhabited

/-- Whether a link leads somewhere. -/
def LinkStatus.isOk : LinkStatus → Bool
  | .ok => true
  | .redirect _ => true
  | _ => false

/-- An occurrence of a link, with its number in the index and the outcome of its last check. -/
structure LinkRecord where
  id : Option Nat
  url : String
  owner : Owner
  field : String
  language : String
  status : Option LinkStatus
  failCount : Nat
  lastChecked : Option Timestamp
  deriving DecidableEq, Repr, Inhabited

namespace LinkRecord

/-- An occurrence that is not in the index and has not been checked. -/
def ofOccurrence (url : String) (owner : Owner) (field language : String) : LinkRecord :=
  ⟨none, url, owner, field, language, none, 0, none⟩

/-- Whether two records stand for the same link in the same place. -/
def sameOccurrence (a b : LinkRecord) : Bool :=
  a.url == b.url && a.owner == b.owner && a.field == b.field && a.language == b.language

theorem sameOccurrence_iff (a b : LinkRecord) :
    a.sameOccurrence b = true ↔
      a.url = b.url ∧ a.owner = b.owner ∧ a.field = b.field ∧ a.language = b.language := by
  simp [sameOccurrence, and_assoc]

end LinkRecord
end LinkLedger
