import LinkLedger.Http.Fetch
import LinkLedger.Proofs.Http.Chain

/-!
# What becomes of a link

A link is asked for by one chain of requests for its header.  If that ends with a response that says
that the header is not to be had, a chain of requests for all of it follows, from the link on again.
The end of the last chain decides the result, and a request that is never answered is an end, too.

**Results.**
* `Ending.Reported`: what a result has to say of the end of the requests; `reported_resultOf`: what
  is made of an end says it.
* `fetch_outcome`: the chains of a link and its result.
-/

namespace LinkLedger
namespace Http

/-! ## Results -/

/-- The status of the response that requests end with, if they do. -/
def Ending.status? : Ending → Option Nat
  | .response _ status _ => some status
  | _ => none

/-- What a result has to say of the end of the requests. -/
structure Ending.Reported (ending : Ending) (result : CheckResult) : Prop where
  code : result.code = ending.status?
  isOk : result.isOk = true ↔ ∃ s, ending.status? = some s ∧ 200 ≤ s ∧ s ≤ 399
  broken : result.status = .broken ↔ ∃ s, ending.status? = some s ∧ (s = 404 ∨ s = 410)
  error : ∀ s, ending.status? = some s →
    (result.status = .error ↔ ¬(200 ≤ s ∧ s ≤ 399) ∧ s ≠ 404 ∧ s ≠ 410)
  silent : ending = .silent → result.status = .timeout

/-- What is found is decided by the status of a response: successes and redirects lead somewhere,
two statuses say that the link is broken, and all others are errors. -/
theorem ofResponse_iff
    (link : String)
    (last : Url)
    (status : Nat)
    (location : Option String) :
    ((ofResponse link last status location).1.isOk = true ↔ 200 ≤ status ∧ status ≤ 399) ∧
      ((ofResponse link last status location).1 = .broken ↔ status = 404 ∨ status = 410) ∧
      ((ofResponse link last status location).1 = .error ↔
        ¬(200 ≤ status ∧ status ≤ 399) ∧ status ≠ 404 ∧ status ≠ 410) := by
  have hok : ∀ found : LinkStatus, found.isOk = true → 200 ≤ status ∧ status ≤ 399 →
      (found.isOk = true ↔ 200 ≤ status ∧ status ≤ 399) ∧
        (found = .broken ↔ status = 404 ∨ status = 410) ∧
        (found = .error ↔ ¬(200 ≤ status ∧ status ≤ 399) ∧ status ≠ 404 ∧ status ≠ 410) := by
    intro found hfound hs
    refine ⟨iff_of_true hfound hs, iff_of_false ?_ (by omega), iff_of_false ?_ (by omega)⟩
    · rintro rfl
      cases hfound
    · rintro rfl
      cases hfound
  unfold ofResponse
  dsimp only
  split
  · next hs =>
    split
    · exact hok _ rfl (by omega)
    · exact hok _ rfl (by omega)
  · split
    · next hs => exact hok _ rfl (by omega)
    · split
      · next hs =>
        exact ⟨iff_of_false (by simp [LinkStatus.isOk]) (by omega), iff_of_true rfl hs,
          iff_of_false (by simp) (by omega)⟩
      · next hs =>
        exact ⟨iff_of_false (by simp [LinkStatus.isOk]) (by omega), iff_of_false (by simp) hs,
          iff_of_true rfl (by omega)⟩

/-- What is found of a response is never one of the kinds of fault. -/
theorem ofResponse_cases
    (link : String)
    (last : Url)
    (status : Nat)
    (location : Option String) :
    (ofResponse link last status location).1 ∈ [.ok, .broken, .error] ∨
      ∃ target, (ofResponse link last status location).1 = .redirect target := by
  unfold ofResponse
  dsimp only
  split
  · split
    · exact Or.inr ⟨_, rfl⟩
    · exact Or.inl (by simp)
  · split
    · exact Or.inr ⟨_, rfl⟩
    · split
      · exact Or.inl (by simp)
      · exact Or.inl (by simp)

theorem isOk_ofFault
    (fault : SendFault) :
    (ofFault fault).1.isOk = false ∧ (ofFault fault).1 ≠ .broken := by
  unfold ofFault
  split
  · exact ⟨rfl, by simp⟩
  · split <;> exact ⟨rfl, by simp⟩
  · split <;> exact ⟨rfl, by simp⟩

/-- The result of an end says what it has to say. -/
theorem reported_resultOf
    (link : String)
    (ending : Ending) :
    ending.Reported (resultOf link ending) := by
  cases ending with
  | response last status location =>
      obtain ⟨hok, hbroken, herror⟩ := ofResponse_iff link last status location
      refine ⟨rfl, ?_, ?_, ?_, by simp⟩
      · simpa [Ending.status?, resultOf, CheckResult.isOk] using hok
      · simpa [Ending.status?, resultOf] using hbroken
      · rintro s hs
        cases hs
        exact herror
  | failed fault =>
      obtain ⟨hok, hbroken⟩ := isOk_ofFault fault
      refine ⟨rfl, ?_, ?_, by simp [Ending.status?], by simp⟩
      · simpa [Ending.status?, resultOf, CheckResult.isOk] using hok
      · simpa [Ending.status?, resultOf] using hbroken
  | silent =>
      refine ⟨rfl, ?_, ?_, by simp [Ending.status?], fun _ => rfl⟩
      · simp [Ending.status?, resultOf, timedOut, CheckResult.isOk, LinkStatus.isOk]
      · simp [Ending.status?, resultOf, timedOut]

theorem url_resultOf
    (link : String)
    (ending : Ending) :
    (resultOf link ending).url = link := by
  cases ending <;> rfl

/-! ## Links -/

/-- The end of the requests for a header says that it is not to be had. -/
def Ending.WantsWhole (ending : Ending) : Prop :=
  ending.status? = some 405 ∨ ending.status? = some 501

theorem Ending.wantsWhole_response
    (last : Url)
    (status : Nat)
    (location : Option String) :
    (Ending.response last status location).WantsWhole ↔ Http.wantsWhole status = true := by
  simp [WantsWhole, status?, Http.wantsWhole]

theorem Ending.not_wantsWhole
    {ending : Ending}
    (h : ending.status? = none) :
    ¬ ending.WantsWhole := by
  simp [WantsWhole, h]

/-- The requests for a link that is asked for by `start`: a chain for its header, and a chain for
all of it if the first one ended with a response that says so. -/
structure Requested (transport : Transport) (limit : Nat) (start : Url) (heads gets : List Url)
    (first last : Ending) : Prop where
  header : Chain transport .head limit start heads first
  whole_iff : gets ≠ [] ↔ first.WantsWhole
  whole : gets ≠ [] → Chain transport .get limit start gets last
  end_eq : gets = [] → last = first

theorem headThenGet_requested
    (transport : Transport)
    {limit : Nat}
    (hlimit : 1 ≤ limit)
    (u : Url) :
    ∃ (heads gets : List Url) (first last : Ending),
      headThenGet transport (.limited limit) u =
          (heads.map (requestLine .head) ++ gets.map (requestLine .get), last) ∧
        Requested transport limit (send.withoutUser u) heads gets first last := by
  obtain ⟨heads, hlines, hheads⟩ := send_chain transport hlimit .head u
  rcases hsend : send transport (.limited limit) .head u with ⟨lines, first⟩
  rw [hsend] at hlines hheads
  subst hlines
  have honly : ¬ first.WantsWhole →
      Requested transport limit (send.withoutUser u) heads [] first first := by
    intro hwants
    exact ⟨hheads, by simp [hwants], by simp, by simp⟩
  unfold headThenGet
  rw [hsend]
  dsimp only
  cases first with
  | failed fault => exact ⟨heads, [], _, _, by simp, honly (Ending.not_wantsWhole rfl)⟩
  | silent => exact ⟨heads, [], _, _, by simp, honly (Ending.not_wantsWhole rfl)⟩
  | response last status location =>
      dsimp only
      split
      · next hwants =>
        obtain ⟨gets, hlines, hgets⟩ := send_chain transport hlimit .get u
        have hask : canAsk (send.withoutUser u) = true := by
          rw [← hheads.ne_nil_iff]
          intro hnone
          cases hheads.fails hnone
        refine ⟨heads, gets, _, _, by rw [hlines], hheads, ?_, fun _ => hgets, fun hnone => ?_⟩
        · rw [Ending.wantsWhole_response]
          exact iff_of_true (hgets.ne_nil_iff.2 hask) hwants
        · exact absurd hnone (hgets.ne_nil_iff.2 hask)
      · next hwants =>
        exact ⟨heads, [], _, _, by simp, honly (by rwa [Ending.wantsWhole_response])⟩

/-- Requests of which one is never answered end with it. -/
theorem Requested.silent_of_mem
    {transport : Transport}
    {limit : Nat}
    {start : Url}
    {heads gets : List Url}
    {first last : Ending}
    (h : Requested transport limit start heads gets first last)
    {line : String}
    (hline : line ∈ heads.map (requestLine .head) ++ gets.map (requestLine .get))
    (hsilent : transport line = .silent) :
    last = .silent := by
  rcases List.mem_append.1 hline with hline | hline
  · have hfirst := h.header.silent_of_mem hline hsilent
    have hnone : gets = [] := by
      by_contra hsome
      exact Ending.not_wantsWhole (by rw [hfirst]; rfl) (h.whole_iff.1 hsome)
    exact (h.end_eq hnone).trans hfirst
  · have hsome : gets ≠ [] := by
      rintro rfl
      cases hline
    exact (h.whole hsome).silent_of_mem hline hsilent

/--
Whatever answers the requests for a link, as long as there is time for an answer: a link that cannot
be read is not asked for.  Any other is asked for by a chain of requests for its header, and by one
for all of it if the header is not to be had.  Each begins with the link and has at most
`maxRedirects` requests.  The result goes by the link as it is written, and it reports how the last
chain ended, which is a timeout if one of the requests is never answered.
-/
theorem fetch_outcome
    (transport : Transport)
    (link : String)
    (timeout : Nat)
    (htimeout : 0 < timeout) :
    (fetch transport .standard link timeout).1.url = link ∧
      ((∃ fault, Url.parse link.toList = .error fault ∧
          (fetch transport .standard link timeout).2 = [] ∧
          (Ending.failed (.unreadable fault)).Reported
            (fetch transport .standard link timeout).1) ∨
        ∃ (u start : Url) (heads gets : List Url) (first last : Ending),
          Url.parse link.toList = .ok u ∧
          (∀ method, requestLine method start = requestLine method u) ∧
          (fetch transport .standard link timeout).2 =
            heads.map (requestLine .head) ++ gets.map (requestLine .get) ∧
          Requested transport maxRedirects start heads gets first last ∧
          last.Reported (fetch transport .standard link timeout).1 ∧
          ∀ line ∈ (fetch transport .standard link timeout).2, transport line = .silent →
            (fetch transport .standard link timeout).1.status = .timeout ∧
              (fetch transport .standard link timeout).1.code = none) := by
  cases hparse : Url.parse link.toList with
  | error fault =>
      have hfetch : fetch transport .standard link timeout =
          (resultOf link (.failed (.unreadable fault)), []) := by
        rw [fetch, hparse]
      rw [hfetch]
      exact ⟨rfl, Or.inl ⟨fault, rfl, rfl, reported_resultOf link _⟩⟩
  | ok u =>
      obtain ⟨heads, gets, first, last, hboth, hrequested⟩ :=
        headThenGet_requested transport (show 1 ≤ maxRedirects by decide) u
      have hfetch : fetch transport .standard link timeout =
          (resultOf link last, heads.map (requestLine .head) ++ gets.map (requestLine .get)) := by
        rw [fetch, hparse]
        dsimp only
        rw [Policy.standard, hboth, if_neg (by omega)]
      rw [hfetch]
      have hreported := reported_resultOf link last
      refine ⟨url_resultOf link last, Or.inr ⟨u, send.withoutUser u, heads, gets, first, last, rfl,
        fun method => requestLine_withoutUser method u, rfl, hrequested, hreported, ?_⟩⟩
      intro line hline hsilent
      have hlast := hrequested.silent_of_mem hline hsilent
      exact ⟨hreported.silent hlast, hreported.code.trans (by rw [hlast]; rfl)⟩

/-- A link that is redirected to itself is asked for a few times, and then no more. -/
theorem fetch_outcome_of_cycle :
    (fetch (scripted [("HEAD http://a/", .response 302 (some "/"))]) .standard "http://a/"
        1000).1.url = "http://a/" ∧
      (fetch (scripted [("HEAD http://a/", .response 302 (some "/"))]) .standard "http://a/"
        1000).2.length ≤ 10 := by
  obtain ⟨hurl, ⟨fault, -, hlines, -⟩ | ⟨u, start, heads, gets, first, last, -, -, hlines, h, -⟩⟩ :=
    fetch_outcome (scripted [("HEAD http://a/", .response 302 (some "/"))]) "http://a/"
      1000 (by decide)
  · exact ⟨hurl, by simp [hlines]⟩
  · refine ⟨hurl, ?_⟩
    have hlimit : maxRedirects = 5 := rfl
    have hheads := h.header.within
    rw [hlines, List.length_append, List.length_map, List.length_map]
    by_cases hgets : gets = []
    · rw [hgets, List.length_nil]
      omega
    · have hwithin := (h.whole hgets).within
      omega

end Http
end LinkLedger
