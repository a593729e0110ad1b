import LinkLedger.Proofs.Http.Outcome

/-!
# Links whose requests fail

What is made of a fault is told by words in its wording.  The wording frames the URL that the
requests failed at with parentheses, and the frame has none of the words, so it is the spelling of
the URL that decides: a link is said to have no good certificate, or no host that is known, because
it, or a page that it is redirected to, has such a word in it.

**Results.**
* `isInfix_append_cons`: where a text occurs that lacks a certain character.
* `SendFault.contains_message`: the wording of a fault has a word if the URL that it names has it.
* `FailsWith`: how requests fail; `headThenGet_failsWith`: they fail in no other way.
* `status_ofFault`: what is made of a fault.
* `fetch_cases`: what is fetched, if there is time and if there is none.
* `fetch_failure`: what becomes of links whose requests fail.
-/

namespace LinkLedger
namespace Http

open Text

/-! ## Words in a wording -/

/-- A text that lacks a character occurs around it only on one of its sides. -/
theorem isInfix_append_cons
    {pattern front back : List Char}
    {c : Char}
    (hc : c ∉ pattern) :
    pattern <:+: front ++ c :: back ↔ pattern <:+: front ∨ pattern <:+: back := by
  constructor
  · rintro ⟨s, t, h⟩
    rcases List.append_eq_append_iff.1 h with ⟨rest, hfront, -⟩ | ⟨rest, hleft, hright⟩
    · exact Or.inl ⟨s, rest, hfront.symm⟩
    · cases rest with
      | nil => exact Or.inl ⟨s, [], by simpa using hleft⟩
      | cons d rest =>
          obtain ⟨rfl, rfl⟩ := List.cons.inj hright
          -- The character is not in the pattern, so it stands in front of it.
          rcases List.append_eq_append_iff.1 hleft with ⟨more, -, hmore⟩ | ⟨more, -, hmore⟩
          · exact absurd (by simp [hmore]) hc
          · cases more with
            | nil =>
                rw [← List.nil_append pattern, ← hmore] at hc
                exact absurd List.mem_cons_self hc
            | cons d more =>
                obtain ⟨-, rfl⟩ := List.cons.inj hmore
                exact Or.inr ⟨more, t, rfl⟩
  · rintro (h | h)
    · exact h.trans ⟨[], c :: back, rfl⟩
    · exact h.trans ⟨front ++ [c], [], by simp⟩

/-- A word without parentheses is in front of those of a text, between them or behind them. -/
theorem contains_around
    {word message url : String}
    {front back : List Char}
    (hopen : '(' ∉ word.toList)
    (hclose : ')' ∉ word.toList)
    (hmessage : message.toList = front ++ '(' :: (url.toList ++ ')' :: back))
    (hfront : occursIn word.toList front = false)
    (hback : occursIn word.toList back = false) :
    contains message word = contains url word := by
  rw [Bool.eq_false_iff, Ne, occursIn_iff] at hfront hback
  rw [Bool.eq_iff_iff, contains, contains, occursIn_iff, occursIn_iff, hmessage,
    isInfix_append_cons hopen, isInfix_append_cons hclose, or_iff_right hfront,
    or_iff_left hback]

/-- The words that faults are told by. -/
def faultWords : List String := ["dns", "certificate", "ssl"]

/-- Whether a URL has a word in it as it is written. -/
def mentions (u : Url) (word : String) : Bool := contains u.display word

namespace SendFault

/-- The URL that the wording of a fault names. -/
def url? : SendFault → Option Url
  | .unreadable _ => none
  | .scheme u => some u
  | .closed u => some u
  | .badStatus u => some u
  | .refused u => some u
  | .tooManyRedirects => none

theorem message_scheme
    (u : Url) :
    (scheme u).message =
      "builder error for url (" ++ u.display ++ "): URL scheme is not allowed" :=
  rfl

theorem message_sending
    (u : Url)
    (reason : String) :
    message.sending u reason =
      "error sending request for url (" ++ u.display ++ "): " ++ reason :=
  rfl

theorem contains_message_scheme
    {word : String}
    (hword : word ∈ faultWords)
    (u : Url) :
    contains (scheme u).message word = mentions u word := by
  have hfree : ∀ w ∈ faultWords, '(' ∉ w.toList ∧ ')' ∉ w.toList ∧
      occursIn w.toList "builder error for url ".toList = false ∧
      occursIn w.toList ": URL scheme is not allowed".toList = false := by decide +kernel
  have hopen : "builder error for url (".toList = "builder error for url ".toList ++ ['('] := by
    decide +kernel
  have hclose : "): URL scheme is not allowed".toList =
      ')' :: ": URL scheme is not allowed".toList := by decide +kernel
  obtain ⟨hleft, hright, hfront, hback⟩ := hfree word hword
  refine contains_around hleft hright ?_ hfront hback
  rw [message_scheme, String.toList_append, String.toList_append, hopen, hclose]
  simp only [List.append_assoc, List.cons_append, List.nil_append]

/-- The wording of a fault of a request has a word if the URL has it and its reason has not. -/
theorem contains_message_sending
    {word : String}
    (hword : word ∈ faultWords)
    (u : Url)
    {reason : String}
    (hreason : ∀ w ∈ faultWords, occursIn w.toList (": " ++ reason).toList = false) :
    contains (message.sending u reason) word = mentions u word := by
  have hfree : ∀ w ∈ faultWords, '(' ∉ w.toList ∧ ')' ∉ w.toList ∧
      occursIn w.toList "error sending request for url ".toList = false := by decide +kernel
  have hopen : "error sending request for url (".toList =
      "error sending request for url ".toList ++ ['('] := by decide +kernel
  have hclose : "): ".toList = ')' :: ": ".toList := by decide +kernel
  obtain ⟨hleft, hright, hfront⟩ := hfree word hword
  refine contains_around hleft hright ?_ hfront (hreason word hword)
  rw [message_sending, String.toList_append, String.toList_append, String.toList_append, hopen,
    hclose, String.toList_append]
  simp only [List.append_assoc, List.cons_append, List.nil_append]

/-- The wording of a fault has a word if the URL that it names has it. -/
theorem contains_message
    {word : String}
    (hword : word ∈ faultWords)
    (fault : SendFault) :
    contains fault.message word = fault.url?.any (mentions · word) := by
  cases fault with
  | unreadable fault =>
      have hnone : ∀ w ∈ faultWords, contains (unreadable fault).message w = false := by
        cases fault <;> decide +kernel
      exact hnone word hword
  | scheme u => exact contains_message_scheme hword u
  | closed u => exact contains_message_sending hword u (by decide +kernel)
  | badStatus u => exact contains_message_sending hword u (by decide +kernel)
  | refused u => exact contains_message_sending hword u (by decide +kernel)
  | tooManyRedirects =>
      have hnone : ∀ w ∈ faultWords, contains tooManyRedirects.message w = false := by
        decide +kernel
      exact hnone word hword

end SendFault

/-! ## How requests fail -/

/-- How requests fail: the last of them finds no connection, which is all that one for an encrypted
connection comes to, or is not answered, or not with a status; or it leads on to what cannot be
asked for, or the limit of requests is reached. -/
inductive FailsWith (transport : Transport) (method : Method) : List String → SendFault → Prop where
  | refused
      {front : List String} {u : Url}
      (h : transport (requestLine method u) = .refused ∨
        isEncrypted u = true ∧ transport (requestLine method u) ≠ .silent) :
      FailsWith transport method (front ++ [requestLine method u]) (.refused u)
  | closed
      {front : List String} {u : Url}
      (hplain : isEncrypted u = false)
      (h : transport (requestLine method u) = .closed) :
      FailsWith transport method (front ++ [requestLine method u]) (.closed u)
  | badStatus
      {front : List String} {u : Url} {status : Nat} {location : Option String}
      (hplain : isEncrypted u = false)
      (hstatus : status < 100)
      (h : transport (requestLine method u) = .response status location) :
      FailsWith transport method (front ++ [requestLine method u]) (.badStatus u)
  | scheme
      {lines : List String} {u : Url}
      (h : canAsk u = false) :
      FailsWith transport method lines (.scheme u)
  | tooManyRedirects
      {front : List String} {u : Url}
      (h : (leadsOn transport method u).isSome = true) :
      FailsWith transport method (front ++ [requestLine method u]) .tooManyRedirects

variable {transport : Transport} {method : Method} {u : Url} {lines : List String}
variable {fault : SendFault}

/-- Requests that go before do not matter. -/
theorem FailsWith.append_left
    (h : FailsWith transport method lines fault)
    (before : List String) :
    FailsWith transport method (before ++ lines) fault := by
  cases h with
  | refused h =>
      rw [← List.append_assoc]
      exact .refused h
  | closed hplain h =>
      rw [← List.append_assoc]
      exact .closed hplain h
  | badStatus hplain hstatus h =>
      rw [← List.append_assoc]
      exact .badStatus hplain hstatus h
  | scheme h => exact .scheme h
  | tooManyRedirects h =>
      rw [← List.append_assoc]
      exact .tooManyRedirects h

/-- One request fails by what answers it. -/
theorem ask_failsWith
    (h : ask transport method u = .failed fault) :
    FailsWith transport method [requestLine method u] fault := by
  rw [← List.nil_append [requestLine method u]]
  unfold ask at h
  split at h
  · cases h
  · next hanswer =>
    cases h
    exact .refused (Or.inl hanswer)
  · next hanswer =>
    split at h
    · next hencrypted =>
      cases h
      exact .refused (Or.inr ⟨hencrypted, by simp [hanswer]⟩)
    · next hencrypted =>
      cases h
      exact .closed (Bool.eq_false_iff.2 hencrypted) hanswer
  · next status location hanswer =>
    split at h
    · next hencrypted =>
      cases h
      exact .refused (Or.inr ⟨hencrypted, by simp [hanswer]⟩)
    · next hencrypted =>
      split at h
      · next hstatus =>
        cases h
        exact .badStatus (Bool.eq_false_iff.2 hencrypted) hstatus hanswer
      · cases h

/-- A chain of requests fails by the last of them, or behind it. -/
theorem follow_failsWith
    {more : Nat}
    (h : (follow transport method more u).2 = .failed fault) :
    FailsWith transport method (follow transport method more u).1 fault := by
  induction more generalizing u with
  | zero =>
      cases hask : canAsk u with
      | false =>
          rw [follow_of_not_canAsk hask] at h ⊢
          cases h
          exact .scheme hask
      | true =>
          rw [follow_zero hask] at h ⊢
          dsimp only at h ⊢
          split at h
          · next hnext =>
            cases h
            rw [← List.nil_append [requestLine method u]]
            exact .tooManyRedirects hnext
          · exact ask_failsWith h
  | succ more ih =>
      cases hask : canAsk u with
      | false =>
          rw [follow_of_not_canAsk hask] at h ⊢
          cases h
          exact .scheme hask
      | true =>
          rw [follow_succ hask] at h ⊢
          cases hnext : leadsOn transport method u with
          | none =>
              rw [hnext] at h
              exact ask_failsWith h
          | some next =>
              rw [hnext] at h
              exact (ih h).append_left [requestLine method u]

theorem send_failsWith
    {policy : Policy}
    (h : (send transport policy method u).2 = .failed fault) :
    FailsWith transport method (send transport policy method u).1 fault := by
  unfold send at h ⊢
  cases policy with
  | limited requests => exact follow_failsWith h
  | never =>
      dsimp only at h ⊢
      split at h
      · next hask =>
        rw [if_pos hask]
        exact ask_failsWith h
      · next hask =>
        rw [if_neg hask]
        cases h
        exact .scheme (Bool.eq_false_iff.2 hask)

/-- The requests for a link fail as those for its header or as those for all of it. -/
theorem headThenGet_failsWith
    {policy : Policy}
    (h : (headThenGet transport policy u).2 = .failed fault) :
    ∃ method, FailsWith transport method (headThenGet transport policy u).1 fault := by
  have hhead : (send transport policy .head u).2 = .failed fault →
      FailsWith transport .head (send transport policy .head u).1 fault := send_failsWith
  rcases hsend : send transport policy .head u with ⟨lines, first⟩
  rw [hsend] at hhead
  unfold headThenGet at h ⊢
  rw [hsend] at h ⊢
  cases first with
  | failed first => exact ⟨.head, hhead h⟩
  | silent => cases h
  | response last status location =>
      dsimp only at h ⊢
      split at h
      · next hwhole =>
        rw [if_pos hwhole]
        exact ⟨.get, (send_failsWith h).append_left lines⟩
      · cases h

/-! ## Links -/

/-- What is made of a fault: where no connection is found one word counts, and otherwise the two
others. -/
theorem status_ofFault
    (fault : SendFault) :
    (ofFault fault).1 =
      match fault with
      | .tooManyRedirects => .tooManyRedirects
      | .unreadable _ => .error
      | .refused u => if mentions u "dns" then .dnsError else .error
      | .scheme u | .closed u | .badStatus u =>
          if mentions u "certificate" || mentions u "ssl" then .sslError else .error := by
  have hdns := fault.contains_message (show "dns" ∈ faultWords by decide)
  have hcertificate := fault.contains_message (show "certificate" ∈ faultWords by decide)
  have hssl := fault.contains_message (show "ssl" ∈ faultWords by decide)
  unfold ofFault
  cases fault with
  | tooManyRedirects => rfl
  | unreadable fault =>
      dsimp only
      rw [hcertificate, hssl]
      rfl
  | refused u =>
      dsimp only
      rw [hdns, SendFault.url?, Option.any_some]
      split <;> rfl
  | scheme u =>
      dsimp only
      rw [hcertificate, hssl, SendFault.url?, Option.any_some, Option.any_some]
      split <;> rfl
  | closed u =>
      dsimp only
      rw [hcertificate, hssl, SendFault.url?, Option.any_some, Option.any_some]
      split <;> rfl
  | badStatus u =>
      dsimp only
      rw [hcertificate, hssl, SendFault.url?, Option.any_some, Option.any_some]
      split <;> rfl

theorem ofFault_dnsError_iff :
    (ofFault fault).1 = .dnsError ↔ ∃ u, fault = .refused u ∧ mentions u "dns" = true := by
  rw [status_ofFault]
  cases fault with
  | refused u => cases hword : mentions u "dns" <;> simp [hword]
  | tooManyRedirects => simp
  | unreadable fault => simp
  | scheme u => dsimp only; split <;> simp
  | closed u => dsimp only; split <;> simp
  | badStatus u => dsimp only; split <;> simp

theorem ofFault_sslError_iff :
    (ofFault fault).1 = .sslError ↔
      ∃ u, fault ∈ [.scheme u, .closed u, .badStatus u] ∧
        (mentions u "certificate" = true ∨ mentions u "ssl" = true) := by
  rw [status_ofFault]
  cases fault with
  | refused u => dsimp only; split <;> simp
  | tooManyRedirects => simp
  | unreadable fault => simp
  | scheme u => simp [or_iff_not_imp_left]
  | closed u => simp [or_iff_not_imp_left]
  | badStatus u => simp [or_iff_not_imp_left]

theorem ofFault_error
    (hfault : fault ≠ .tooManyRedirects)
    (hwords : ∀ u ∈ fault.url?, ∀ word ∈ faultWords, mentions u word = false) :
    (ofFault fault).1 = .error := by
  rw [status_ofFault]
  cases fault with
  | tooManyRedirects => exact absurd rfl hfault
  | unreadable fault => rfl
  | refused u => simp [hwords u rfl "dns" (by decide)]
  | scheme u => simp [hwords u rfl "certificate" (by decide), hwords u rfl "ssl" (by decide)]
  | closed u => simp [hwords u rfl "certificate" (by decide), hwords u rfl "ssl" (by decide)]
  | badStatus u => simp [hwords u rfl "certificate" (by decide), hwords u rfl "ssl" (by decide)]

/-- The requests for a link and how they end; a link that cannot be read is not asked for. -/
def requestsFor (transport : Transport) (policy : Policy) (link : String) :
    List String × Ending :=
  match Url.parse link.toList with
  | .error fault => ([], .failed (.unreadable fault))
  | .ok u => headThenGet transport policy u

/-- There is time for the answers to some requests, or none of them has to be waited for. -/
def InTime (transport : Transport) (timeout : Nat) (lines : List String) : Prop :=
  timeout = 0 → ∀ line ∈ lines, transport line = .refused

/-- What is fetched is made of the end of the requests, if there is time for them. -/
theorem fetch_cases
    (transport : Transport)
    (policy : Policy)
    (link : String)
    (timeout : Nat) :
    (InTime transport timeout (requestsFor transport policy link).1 ∧
        (fetch transport policy link timeout).1 =
          resultOf link (requestsFor transport policy link).2) ∨
      (¬ InTime transport timeout (requestsFor transport policy link).1 ∧
        (fetch transport policy link timeout).1 = timedOut link) := by
  unfold fetch requestsFor
  cases Url.parse link.toList with
  | error fault => exact Or.inl ⟨fun _ => by simp, rfl⟩
  | ok u =>
      dsimp only
      split
      · next hlate =>
        refine Or.inr ⟨fun hin => ?_, rfl⟩
        obtain ⟨line, hline, htime⟩ := List.any_eq_true.1 hlate.2
        simp [takesTime, hin hlate.1 line hline] at htime
      · next hin =>
        refine Or.inl ⟨fun hzero line hline => ?_, rfl⟩
        by_contra hother
        exact hin ⟨hzero, List.any_eq_true.2 ⟨line, hline, by simp [takesTime, hother]⟩⟩

/-- The end of the requests for a link is a fault of its spelling, or they fail in one of the ways
in which requests fail. -/
theorem requestsFor_failsWith
    {policy : Policy}
    {link : String}
    (h : (requestsFor transport policy link).2 = .failed fault) :
    (∃ unread, Url.parse link.toList = .error unread ∧ fault = .unreadable unread) ∨
      ∃ method, FailsWith transport method (requestsFor transport policy link).1 fault := by
  unfold requestsFor at h ⊢
  cases hparse : Url.parse link.toList with
  | error unread =>
      rw [hparse] at h
      cases h
      exact Or.inl ⟨unread, rfl, rfl⟩
  | ok u =>
      rw [hparse] at h
      exact Or.inr (headThenGet_failsWith h)

/-- A host that is not known and a certificate that is not good are found of faults only. -/
theorem exists_fault_of_status
    {link : String}
    {ending : Ending}
    (h : (resultOf link ending).status ∈ [.dnsError, .sslError]) :
    ∃ fault, ending = .failed fault ∧ (ofFault fault).1 = (resultOf link ending).status := by
  cases ending with
  | failed fault => exact ⟨fault, rfl, rfl⟩
  | silent => simp [resultOf, timedOut] at h
  | response last status location =>
      change (ofResponse link last status location).1 ∈ _ at h
      rcases ofResponse_cases link last status location with hfound | ⟨target, hfound⟩
      · simp only [List.mem_cons, List.not_mem_nil, or_false] at hfound h
        rcases hfound with hfound | hfound | hfound <;> simp [hfound] at h
      · simp [hfound] at h

theorem fetch_status_iff
    {transport : Transport}
    {policy : Policy}
    {link : String}
    {timeout : Nat}
    {status : LinkStatus}
    (hstatus : status ∈ [.dnsError, .sslError]) :
    (fetch transport policy link timeout).1.status = status ↔
      InTime transport timeout (requestsFor transport policy link).1 ∧
        ∃ fault, (requestsFor transport policy link).2 = .failed fault ∧
          (ofFault fault).1 = status := by
  rcases fetch_cases transport policy link timeout with ⟨hin, hfetch⟩ | ⟨hlate, hfetch⟩
  · rw [hfetch, and_iff_right hin]
    constructor
    · rintro rfl
      exact exists_fault_of_status hstatus
    · rintro ⟨fault, hending, rfl⟩
      rw [hending]
      rfl
  · rw [hfetch]
    refine iff_of_false ?_ fun h => hlate h.1
    rintro rfl
    simp [timedOut] at hstatus

theorem fetch_dnsError_iff
    (transport : Transport)
    (policy : Policy)
    (link : String)
    (timeout : Nat) :
    (fetch transport policy link timeout).1.status = .dnsError ↔
      InTime transport timeout (requestsFor transport policy link).1 ∧
        ∃ u, (requestsFor transport policy link).2 = .failed (.refused u) ∧
          mentions u "dns" = true := by
  rw [fetch_status_iff (by simp)]
  refine and_congr_right fun _ => ⟨?_, ?_⟩
  · rintro ⟨fault, hending, hfault⟩
    obtain ⟨u, rfl, hword⟩ := ofFault_dnsError_iff.1 hfault
    exact ⟨u, hending, hword⟩
  · rintro ⟨u, hending, hword⟩
    exact ⟨_, hending, ofFault_dnsError_iff.2 ⟨u, rfl, hword⟩⟩

theorem fetch_sslError_iff
    (transport : Transport)
    (policy : Policy)
    (link : String)
    (timeout : Nat) :
    (fetch transport policy link timeout).1.status = .sslError ↔
      InTime transport timeout (requestsFor transport policy link).1 ∧
        ∃ u, (requestsFor transport policy link).2 ∈
            [.failed (.scheme u), .failed (.closed u), .failed (.badStatus u)] ∧
          (mentions u "certificate" = true ∨ mentions u "ssl" = true) := by
  rw [fetch_status_iff (by simp)]
  refine and_congr_right fun _ => ⟨?_, ?_⟩
  · rintro ⟨fault, hending, hfault⟩
    obtain ⟨u, hkind, hword⟩ := ofFault_sslError_iff.1 hfault
    exact ⟨u, by simpa [hending] using hkind, hword⟩
  · rintro ⟨u, hending, hword⟩
    rw [List.mem_cons, List.mem_cons, List.mem_singleton] at hending
    rcases hending with hending | hending | hending
    · exact ⟨_, hending, ofFault_sslError_iff.2 ⟨u, by simp, hword⟩⟩
    · exact ⟨_, hending, ofFault_sslError_iff.2 ⟨u, by simp, hword⟩⟩
    · exact ⟨_, hending, ofFault_sslError_iff.2 ⟨u, by simp, hword⟩⟩

/-- Where the URL that a failure names has none of the words, it is an error. -/
theorem fetch_error_of_not_mentions
    {transport : Transport}
    {policy : Policy}
    {link : String}
    {timeout : Nat}
    (hending : (requestsFor transport policy link).2 = .failed fault)
    (hin : InTime transport timeout (requestsFor transport policy link).1)
    (hfault : fault ≠ .tooManyRedirects)
    (hwords : ∀ u ∈ fault.url?, ∀ word ∈ faultWords, mentions u word = false) :
    (fetch transport policy link timeout).1.status = .error := by
  rcases fetch_cases transport policy link timeout with ⟨-, hfetch⟩ | ⟨hlate, -⟩
  · rw [hfetch, hending]
    exact ofFault_error hfault hwords
  · exact absurd hin hlate

/--
Whatever answers the requests for a link, whatever the client does with redirects, and whatever time
there is: where requests fail, the last of them has found no connection or no proper answer, or what
comes next cannot be asked for.  A link is said to have no host that is known exactly if a request
finds no connection and its URL has the word for it, and to have no good certificate exactly if a
request is not properly answered, or cannot be made, and its URL has one of the words for that.
Where the URL has none of the words, every failure but that of too many redirects is an error.
-/
theorem fetch_failure
    (transport : Transport)
    (policy : Policy)
    (link : String)
    (timeout : Nat) :
    (∀ fault, (requestsFor transport policy link).2 = .failed fault →
      (∃ unread, Url.parse link.toList = .error unread ∧ fault = .unreadable unread) ∨
        ∃ method, FailsWith transport method (requestsFor transport policy link).1 fault) ∧
      ((fetch transport policy link timeout).1.status = .dnsError ↔
        InTime transport timeout (requestsFor transport policy link).1 ∧
          ∃ u, (requestsFor transport policy link).2 = .failed (.refused u) ∧
            mentions u "dns" = true) ∧
      ((fetch transport policy link timeout).1.status = .sslError ↔
        InTime transport timeout (requestsFor transport policy link).1 ∧
          ∃ u, (requestsFor transport policy link).2 ∈
              [.failed (.scheme u), .failed (.closed u), .failed (.badStatus u)] ∧
            (mentions u "certificate" = true ∨ mentions u "ssl" = true)) ∧
      ∀ fault, (requestsFor transport policy link).2 = .failed fault →
        InTime transport timeout (requestsFor transport policy link).1 →
        fault ≠ .tooManyRedirects →
        (∀ u ∈ fault.url?, ∀ word ∈ faultWords, mentions u word = false) →
          (fetch transport policy link timeout).1.status = .error :=
  ⟨fun _ => requestsFor_failsWith, fetch_dnsError_iff transport policy link timeout,
    fetch_sslError_iff transport policy link timeout,
    fun _ hending hin hfault hwords => fetch_error_of_not_mentions hending hin hfault hwords⟩

/-- A page without any of the words is redirected to one with such a word, which is closed without
an answer; a page that stays without them is an error. -/
theorem fetch_failure_behind_redirect :
    (fetch (scripted [("HEAD http://[::1]/", .response 302 (some "/ssl")),
        ("HEAD http://[::1]/ssl", .closed)]) .standard "http://[::1]/" 20000).1.status =
      .sslError ∧
    (fetch unreachable .standard "http://[::1]/" 0).1.status = .error := by
  let page (path : String) : Url :=
    ⟨"http".toList, some ⟨[], [], some (.ipv6 [0, 0, 0, 0, 0, 0, 0, 1]), none⟩, path.toList, none,
      none⟩
  refine ⟨?_, ?_⟩
  · have hrequests : (requestsFor (scripted [("HEAD http://[::1]/", .response 302 (some "/ssl")),
        ("HEAD http://[::1]/ssl", .closed)]) .standard "http://[::1]/").2 =
        .failed (.closed (page "/ssl")) := by decide +kernel
    refine (fetch_failure _ _ _ _).2.2.1.2 ⟨fun h => absurd h (by decide), page "/ssl", ?_, ?_⟩
    · simp [hrequests]
    · decide +kernel
  · have hrequests : (requestsFor unreachable .standard "http://[::1]/").2 =
        .failed (.refused (page "/")) := by decide +kernel
    refine (fetch_failure _ _ _ _).2.2.2 _ hrequests (fun _ _ _ => rfl) (by simp) ?_
    decide +kernel

/-- No certificate and no host name is looked for where the scheme cannot be asked for or an address
has no connection, and yet they are found to be bad. -/
theorem fetch_unusable_scheme :
    (fetch unreachable .standard "data:,ssl" 20000).1.status = .sslError ∧
      (fetch unreachable .standard "https://[::1]/#dns" 20000).1.status = .dnsError := by
  decide +kernel

end Http
end LinkLedger
