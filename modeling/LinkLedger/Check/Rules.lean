import LinkLedger.Check.Pass
import LinkLedger.Text.Search

/-!
# Fetching by rules

A fetcher that asks nobody: the first rule whose text occurs in a link says what is found, and a
link without a rule is found to be good.  It keeps a list of what it was asked for.
-/

namespace LinkLedger
namespace Check

/-- What is found of the links with a text in them. -/
structure Rule where
  text : String
  status : LinkStatus
  code : Option Nat
  message : Option String
  deriving DecidableEq, Repr

/-- What rules say of a link. -/
def byRules (rules : List Rule) (url : String) : CheckResult :=
  match rules.find? fun r => Text.contains url r.text with
  | some r => ⟨url, r.status, r.code, r.message⟩
  | none => ⟨url, .ok, none, none⟩

/-- Fetches by rules, and adds the link and the time allowed for it to the list. -/
def fetchByRules (rules : List Rule) : Fetcher (List (String × Nat)) := fun url timeout asked =>
  (byRules rules url, (url, timeout) :: asked)

end Check
end LinkLedger
