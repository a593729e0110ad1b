import LinkLedger.Check.Pass
import Mathlib.Logic.Relation

/-!
# Fetches at the same time

A check begins its fetches one after the other, in an order of no meaning, as long as fewer than some
number of them are under way.  A fetch that is under way ends at any time, and the results stand in
the order in which the fetches end.  The records are marked and written back behind the last one.
-/

namespace LinkLedger
namespace Check

variable {σ : Type}

/-- Fetches at the same time: the links that wait for their turn, what will be found of those that
are being fetched, and the results that have come. -/
structure Fetching (σ : Type) where
  waiting : List String
  underway : List CheckResult
  results : List CheckResult
  state : σ

/-- What may happen next where at most `limit` links are fetched at a time: the fetch of the next
link begins, or one that is under way ends. -/
inductive Fetching.Moves (fetch : Fetcher σ) (timeout limit : Nat) :
    Fetching σ → Fetching σ → Prop where
  | begins
      {url : String}
      {waiting : List String}
      {underway results : List CheckResult}
      {s : σ}
      (hroom : underway.length < limit) :
      Moves fetch timeout limit ⟨url :: waiting, underway, results, s⟩
        ⟨waiting, underway ++ [(fetchOne fetch timeout url s).1], results,
          (fetchOne fetch timeout url s).2⟩
  | ends
      {waiting : List String}
      {front back : List CheckResult}
      {result : CheckResult}
      {results : List CheckResult}
      {s : σ} :
      Moves fetch timeout limit ⟨waiting, front ++ result :: back, results, s⟩
        ⟨waiting, front ++ back, results ++ [result], s⟩

end Check
end LinkLedger
