import LinkLedger.Http.Exchange
import Mathlib.Data.List.Chain

/-!
# Chains of requests

A client that follows redirects visits one URL after the other.  Seen from behind, the URLs visited
form a chain in which every response but the last one leads on to the next URL, even where the
responses lead round in circles; the last one decides how the chain ends.

**Results.**
* `Chain`: the URLs visited and the end, for a URL to begin with and a number of requests.
* `follow_chain`, `send_chain`: the requests of a client are those of a chain.
* `Chain.silent_of_mem`: a chain with a request that is never answered ends with it.
-/

namespace LinkLedger
namespace Http

variable {transport : Transport} {method : Method}

/-- Where a request for a URL leads on to. -/
def leadsOn (transport : Transport) (method : Method) (u : Url) : Option Url :=
  match ask transport method u with
  | .response _ status location => target? u status location
  | _ => none

/-- How requests end of which the last one was for `last`, when there were `count` of at most
`limit`. -/
def EndsBehind (transport : Transport) (method : Method) (limit count : Nat) (last : Url)
    (ending : Ending) : Prop :=
  match leadsOn transport method last with
  | none => ending = ask transport method last
  | some next =>
      if count < limit then canAsk next = false ∧ ending = .failed (.scheme next)
      else ending = .failed .tooManyRedirects

/-- The URLs that are visited from `u` on with at most `limit` requests, and how that ends. -/
structure Chain (transport : Transport) (method : Method) (limit : Nat) (u : Url)
    (urls : List Url) (ending : Ending) : Prop where
  within : urls.length ≤ limit
  starts : urls.head? = if canAsk u then some u else none
  askable : ∀ v ∈ urls, canAsk v = true
  linked : urls.IsChain fun v w => leadsOn transport method v = some w
  ends : ∀ v, urls.getLast? = some v → EndsBehind transport method limit urls.length v ending
  fails : urls = [] → ending = .failed (.scheme u)

variable {limit : Nat} {u v : Url} {urls : List Url} {ending : Ending}

/-- There are requests exactly if the URL can be asked for. -/
theorem Chain.ne_nil_iff
    (hchain : Chain transport method limit u urls ending) :
    urls ≠ [] ↔ canAsk u = true := by
  have hstarts := hchain.starts
  cases urls with
  | nil => simpa using hstarts
  | cons v urls =>
      split at hstarts
      · next h => simp [h]
      · cases hstarts

/-- A URL that cannot be asked for is not visited. -/
theorem chain_nil
    (h : canAsk u = false)
    (limit : Nat) :
    Chain transport method limit u [] (.failed (.scheme u)) where
  within := Nat.zero_le _
  starts := by simp [h]
  askable := by simp
  linked := List.isChain_nil
  ends := by simp
  fails := fun _ => rfl

/-- A URL that nothing follows is the only one. -/
theorem chain_singleton
    (h : canAsk u = true)
    (hlimit : 1 ≤ limit)
    (hends : EndsBehind transport method limit 1 u ending) :
    Chain transport method limit u [u] ending where
  within := hlimit
  starts := by simp [h]
  askable := by simpa using h
  linked := List.isChain_singleton _
  ends := by simpa using hends
  fails := by simp

/-- A URL goes in front of the chain of the one that it leads on to. -/
theorem Chain.cons
    (hchain : Chain transport method limit v urls ending)
    (hlimit : 1 ≤ limit)
    (h : canAsk u = true)
    (hnext : leadsOn transport method u = some v) :
    Chain transport method (limit + 1) u (u :: urls) ending := by
  cases urls with
  | nil =>
      have hnone : canAsk v = false := by simpa using hchain.starts
      refine chain_singleton h (Nat.le_add_left 1 limit) ?_
      simp only [EndsBehind, hnext]
      rw [if_pos (by omega)]
      exact ⟨hnone, hchain.fails rfl⟩
  | cons w ws =>
      have hstarts := hchain.starts
      rw [if_pos (hchain.ne_nil_iff.1 (by simp))] at hstarts
      obtain rfl : w = v := Option.some.inj hstarts
      refine ⟨Nat.succ_le_succ hchain.within, by simp [h], ?_,
        List.isChain_cons_cons.2 ⟨hnext, hchain.linked⟩, ?_, by simp⟩
      · intro x hx
        rcases List.mem_cons.1 hx with rfl | hx
        · exact h
        · exact hchain.askable x hx
      · intro x hx
        rw [List.getLast?_cons_cons] at hx
        have hends := hchain.ends x hx
        simpa only [EndsBehind, List.length_cons, Nat.add_lt_add_iff_right] using hends

/-! ## Clients -/

theorem follow_zero
    (h : canAsk u = true) :
    follow transport method 0 u = ([requestLine method u],
      if (leadsOn transport method u).isSome then .failed .tooManyRedirects
      else ask transport method u) := by
  rw [follow, if_pos h, leadsOn]
  dsimp only
  cases hask : ask transport method u <;> rfl

theorem follow_succ
    (h : canAsk u = true)
    (more : Nat) :
    follow transport method (more + 1) u =
      match leadsOn transport method u with
      | some next => (requestLine method u :: (follow transport method more next).1,
          (follow transport method more next).2)
      | none => ([requestLine method u], ask transport method u) := by
  rw [follow, if_pos h, leadsOn]
  dsimp only
  cases hask : ask transport method u with
  | response url status location => cases target? u status location <;> rfl
  | failed fault => rfl
  | silent => rfl

theorem follow_of_not_canAsk
    (h : canAsk u = false)
    (more : Nat) :
    follow transport method more u = ([], .failed (.scheme u)) := by
  cases more <;> rw [follow, h] <;> rfl

/-- The requests of a client that may follow some redirects are those of a chain. -/
theorem follow_chain
    (transport : Transport)
    (method : Method)
    (more : Nat)
    (u : Url) :
    ∃ urls, (follow transport method more u).1 = urls.map (requestLine method) ∧
      Chain transport method (more + 1) u urls (follow transport method more u).2 := by
  induction more generalizing u with
  | zero =>
      cases h : canAsk u with
      | false =>
          rw [follow_of_not_canAsk h]
          exact ⟨[], rfl, chain_nil h _⟩
      | true =>
          rw [follow_zero h]
          refine ⟨[u], rfl, chain_singleton h (Nat.le_refl 1) ?_⟩
          cases hnext : leadsOn transport method u <;> simp [EndsBehind, hnext]
  | succ more ih =>
      cases h : canAsk u with
      | false =>
          rw [follow_of_not_canAsk h]
          exact ⟨[], rfl, chain_nil h _⟩
      | true =>
          rw [follow_succ h]
          cases hnext : leadsOn transport method u with
          | none =>
              refine ⟨[u], rfl, chain_singleton h (Nat.le_add_left 1 _) ?_⟩
              simp [EndsBehind, hnext]
          | some next =>
              obtain ⟨urls, hlines, hchain⟩ := ih next
              refine ⟨u :: urls, ?_, hchain.cons (Nat.le_add_left 1 more) h hnext⟩
              rw [List.map_cons, ← hlines]

/-- A client with a limit makes at most so many requests, which begin with the URL. -/
theorem send_chain
    (transport : Transport)
    (hlimit : 1 ≤ limit)
    (method : Method)
    (u : Url) :
    ∃ urls, (send transport (.limited limit) method u).1 = urls.map (requestLine method) ∧
      Chain transport method limit (send.withoutUser u) urls
        (send transport (.limited limit) method u).2 := by
  have hchain := follow_chain transport method (limit - 1) (send.withoutUser u)
  rwa [Nat.sub_add_cancel hlimit] at hchain

/-- Requests never name the user, so they begin with the link itself. -/
theorem requestLine_withoutUser
    (method : Method)
    (u : Url) :
    requestLine method (send.withoutUser u) = requestLine method u := by
  unfold send.withoutUser
  split
  · next a hauthority =>
    split
    · let v : Url := { u with authority := some { a with user := [], password := [] } }
      have hendpoint : endpoint v = endpoint u := by simp only [v, endpoint, hauthority]
      have hbare : bare v = bare u := by simp only [v, bare, hauthority, Option.map_some]
      change requestLine method v = requestLine method u
      rw [requestLine, requestLine, hendpoint, hbare]
      rfl
    · rfl
  · rfl

/-! ## Requests without an answer -/

/-- Behind a URL that leads nowhere a chain does not go on. -/
theorem Chain.getLast?_of_leadsOn
    (hchain : Chain transport method limit u urls ending)
    (hv : v ∈ urls)
    (hstop : leadsOn transport method v = none) :
    urls.getLast? = some v := by
  obtain ⟨front, back, rfl⟩ := List.append_of_mem hv
  cases back with
  | nil => simp
  | cons w back =>
      have hlinked := (List.isChain_append_cons_cons.1 hchain.linked).2.1
      rw [hstop] at hlinked
      cases hlinked

/-- A chain with a request that is never answered ends with it. -/
theorem Chain.silent_of_mem
    (hchain : Chain transport method limit u urls ending)
    {line : String}
    (hline : line ∈ urls.map (requestLine method))
    (hsilent : transport line = .silent) :
    ending = .silent := by
  obtain ⟨v, hv, rfl⟩ := List.mem_map.1 hline
  have hask : ask transport method v = .silent := by rw [ask, hsilent]
  have hstop : leadsOn transport method v = none := by rw [leadsOn, hask]
  have hends := hchain.ends v (hchain.getLast?_of_leadsOn hv hstop)
  rw [EndsBehind, hstop] at hends
  exact hends.trans hask

end Http
end LinkLedger
