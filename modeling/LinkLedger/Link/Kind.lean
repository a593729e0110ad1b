/-!
# Kinds of link

Every link is of exactly one kind, and a filter says which kinds are tracked.

**Results.**
* `KindFilter.permits_iff`: what a filter lets through.
-/

namespace LinkLedger

/-- What a link is: on the site, elsewhere, excluded by a pattern, or nothing that can be
followed. -/
inductive LinkKind where
  | internal
  | external
  | blacklisted
  | unsupported
  deriving DecidableEq, Repr, Inhabited

/-- The name of a kind in documents. -/
def LinkKind.name : LinkKind → String
  | .internal => "internal"
  | .external => "external"
  | .blacklisted => "blacklisted"
  | .unsupported => "unsupported"

/-- Which links are tracked. -/
inductive KindFilter where
  | all
  | external
  | internal
  deriving DecidableEq, Repr, Inhabited

/-- The name of a filter in documents. -/
def KindFilter.name : KindFilter → String
  | .all => "all"
  | .external => "external"
  | .internal => "internal"

/-- Whether a filter lets links of a kind through; excluded and unsupported ones never pass. -/
def KindFilter.permits : KindFilter → LinkKind → Bool
  | .all, .internal => true
  | .all, .external => true
  | .internal, .internal => true
  | .external, .external => true
  | _, _ => false

theorem KindFilter.permits_iff (f : KindFilter) (k : LinkKind) :
    f.permits k = true ↔
      (k = .internal ∧ f ≠ .external) ∨ (k = .external ∧ f ≠ .internal) := by
  cases f <;> cases k <;> simp [permits]

end LinkLedger
