import LinkLedger.Proofs.Http.Outcome
import LinkLedger.Proofs.Url.Encoded

/-!
# How many redirects are followed

The limit of a client is one of requests, and the first request is for the link itself.  So one
redirect fewer is followed than the limit says: the last request may be answered, but where it leads
on to is not asked for.

**Results.**
* `follow_of_isChain`: requests along a chain of redirects, and how they end.
* `canAsk_of_encoded`, `encoded_of_leadsOn`: URLs of the web can be asked for, and what they lead
  on to can.
* `send_of_isChain`: the requests of a client with a limit along such a chain.
* `fetch_redirects`: links behind chains of redirects of any length.
-/

namespace LinkLedger
namespace Http

variable {transport : Transport} {method : Method} {u v last : Url} {rest : List Url}

/-! ## Responses -/

/-- A response comes from the URL that is asked for, without encryption. -/
theorem response_of_ask
    {status : Nat}
    {location : Option String}
    (h : ask transport method u = .response v status location) :
    v = u ∧ isEncrypted u = false ∧
      transport (requestLine method u) = .response status location := by
  unfold ask at h
  split at h
  · cases h
  · cases h
  · cases h
  · next hanswer =>
    split at h
    · cases h
    · next hplain =>
      split at h
      · cases h
      · cases h
        exact ⟨rfl, Bool.eq_false_iff.2 hplain, hanswer⟩

theorem ask_of_response
    {status : Nat}
    {location : Option String}
    (hplain : isEncrypted u = false)
    (hstatus : 100 ≤ status)
    (hanswer : transport (requestLine method u) = .response status location) :
    ask transport method u = .response u status location := by
  rw [ask, hanswer]
  dsimp only
  rw [hplain, if_neg Bool.false_ne_true, if_neg (by omega)]

/-- What a URL leads on to is the target of its response. -/
theorem exists_target_of_leadsOn
    (h : leadsOn transport method u = some v) :
    ∃ status location, ask transport method u = .response u status location ∧
      target? u status location = some v := by
  unfold leadsOn at h
  split at h
  · next url status location hask =>
    obtain ⟨rfl, -⟩ := response_of_ask hask
    exact ⟨status, location, hask, h⟩
  · cases h

/-- A status that is not followed leads nowhere. -/
theorem leadsOn_eq_none
    {status : Nat}
    {location : Option String}
    (hask : ask transport method u = .response v status location)
    (hstatus : isFollowed status = false) :
    leadsOn transport method u = none := by
  rw [leadsOn, hask]
  dsimp only
  rw [target?.eq_def, hstatus]
  rfl

/-! ## Along a chain -/

/-- A client that may go on `more` times comes to the end of a chain if there are not more redirects
on it than that. -/
theorem follow_of_isChain
    (hask : ∀ v ∈ u :: rest, canAsk v = true)
    (hlinked : (u :: rest).IsChain fun v w => leadsOn transport method v = some w)
    (hlast : (u :: rest).getLast? = some last)
    (hstop : leadsOn transport method last = none)
    (more : Nat) :
    follow transport method more u =
      (((u :: rest).take (more + 1)).map (requestLine method),
        if rest.length < more + 1 then ask transport method last
        else .failed .tooManyRedirects) := by
  induction rest generalizing u more with
  | nil =>
      obtain rfl : u = last := Option.some.inj hlast
      rw [List.length_nil, if_pos (Nat.succ_pos more)]
      cases more with
      | zero =>
          rw [follow_zero (hask u List.mem_cons_self), hstop]
          rfl
      | succ more =>
          rw [follow_succ (hask u List.mem_cons_self), hstop]
          rfl
  | cons v rest ih =>
      obtain ⟨hnext, hlinked⟩ := List.isChain_cons_cons.1 hlinked
      rw [List.getLast?_cons_cons] at hlast
      cases more with
      | zero =>
          rw [follow_zero (hask u List.mem_cons_self), hnext]
          rfl
      | succ more =>
          have hrest := ih (fun w hw => hask w (List.mem_cons_of_mem _ hw)) hlinked hlast more
          rw [follow_succ (hask u List.mem_cons_self), hnext]
          dsimp only
          rw [hrest]
          simp only [List.take_succ_cons, List.map_cons, List.length_cons,
            Nat.add_lt_add_iff_right]

/-! ## URLs of the web -/

theorem canAsk_of_encoded
    (h : u.Encoded)
    (hweb : Url.isWeb u.scheme = true) :
    canAsk u = true := by
  rw [canAsk, hweb, h.host_isSome]
  rfl

@[simp] theorem scheme_withoutUser
    (u : Url) :
    (send.withoutUser u).scheme = u.scheme := by
  unfold send.withoutUser
  split
  · split <;> rfl
  · rfl

/-- Without its user, a URL is as encoded as before. -/
theorem encoded_withoutUser
    (h : u.Encoded) :
    (send.withoutUser u).Encoded := by
  unfold send.withoutUser
  split
  · next a ha =>
    split
    · obtain ⟨b, hb, hencoded⟩ := h.authority
      obtain rfl : a = b := Option.some.inj (ha.symm.trans hb)
      exact ⟨⟨h.common, ⟨_, rfl, ⟨by simp, by simp, hencoded.host⟩⟩, h.rooted, h.path⟩, h.query,
        h.fragment⟩
    · exact h
  · exact h

theorem encoded_of_leadsOn
    (h : u.Encoded)
    (hnext : leadsOn transport method u = some v)
    (hcommon : Url.isCommon v.scheme = true) :
    v.Encoded := by
  obtain ⟨status, location, -, htarget⟩ := exists_target_of_leadsOn hnext
  unfold target? at htarget
  split at htarget
  · split at htarget
    · next text =>
      split at htarget
      · next next hjoin =>
        cases htarget
        exact h.join hjoin hcommon
      · cases htarget
    · cases htarget
  · cases htarget

/-- Everything on a chain of common schemes is encoded if its start is. -/
theorem encoded_of_isChain
    (h : u.Encoded)
    (hlinked : (u :: rest).IsChain fun v w => leadsOn transport method v = some w)
    (hcommon : ∀ v ∈ rest, Url.isCommon v.scheme = true) :
    ∀ v ∈ u :: rest, v.Encoded := by
  induction rest generalizing u with
  | nil => simpa using h
  | cons v rest ih =>
      obtain ⟨hnext, hlinked⟩ := List.isChain_cons_cons.1 hlinked
      have hv := encoded_of_leadsOn h hnext (hcommon v List.mem_cons_self)
      rw [List.forall_mem_cons]
      exact ⟨h, ih hv hlinked fun w hw => hcommon w (List.mem_cons_of_mem _ hw)⟩

/-! ## Links -/

/-- Requests for a URL of the web that are answered with redirects from one such URL to the next,
and behind them with a status that is no redirect. -/
theorem send_of_isChain
    (hencoded : u.Encoded)
    (hhttp : ∀ v ∈ u :: rest, v.scheme = "http".toList)
    (hlinked : (send.withoutUser u :: rest).IsChain fun v w => leadsOn transport method v = some w)
    (hlast : (send.withoutUser u :: rest).getLast? = some last)
    {status : Nat}
    {location : Option String}
    (hanswer : transport (requestLine method last) = .response status location)
    (hvalid : 100 ≤ status)
    (hfollowed : isFollowed status = false)
    {limit : Nat}
    (hlimit : 1 ≤ limit) :
    send transport (.limited limit) method u =
      (((send.withoutUser u :: rest).take limit).map (requestLine method),
        if rest.length < limit then .response last status location
        else .failed .tooManyRedirects) := by
  have hscheme : ∀ v ∈ send.withoutUser u :: rest, v.scheme = "http".toList := by
    rw [List.forall_mem_cons, scheme_withoutUser]
    exact List.forall_mem_cons.1 hhttp
  have hcommon : ∀ v ∈ rest, Url.isCommon v.scheme = true := by
    intro v hv
    rw [hhttp v (List.mem_cons_of_mem _ hv)]
    decide
  have hask : ∀ v ∈ send.withoutUser u :: rest, canAsk v = true := by
    intro v hv
    refine canAsk_of_encoded
      (encoded_of_isChain (encoded_withoutUser hencoded) hlinked hcommon v hv) ?_
    rw [hscheme v hv]
    decide
  have hplain : isEncrypted last = false := by
    rw [isEncrypted, hscheme last (List.mem_of_getLast? hlast)]
    decide
  have hresponse := ask_of_response hplain hvalid hanswer
  have hfollow := follow_of_isChain hask hlinked hlast (leadsOn_eq_none hresponse hfollowed)
    (limit - 1)
  rw [hresponse, Nat.sub_add_cancel hlimit] at hfollow
  exact hfollow

theorem fetch_eq
    {policy : Policy}
    {link : String}
    {timeout : Nat}
    (htimeout : 0 < timeout)
    (hparse : Url.parse link.toList = .ok u) :
    fetch transport policy link timeout =
      (resultOf link (headThenGet transport policy u).2, (headThenGet transport policy u).1) := by
  rw [fetch, hparse]
  dsimp only
  rw [if_neg (by omega)]

/-- Where the header is to be had, it is all that is asked for. -/
theorem headThenGet_of_response
    {policy : Policy}
    {lines : List String}
    {status : Nat}
    {location : Option String}
    (hsend : send transport policy .head u = (lines, .response v status location))
    (hwhole : wantsWhole status = false) :
    headThenGet transport policy u = (lines, .response v status location) := by
  rw [headThenGet, hsend]
  dsimp only
  rw [hwhole, if_neg Bool.false_ne_true]

/-- No response says that there are too many redirects. -/
theorem ofResponse_ne_tooManyRedirects
    (link : String)
    (last : Url)
    (status : Nat)
    (location : Option String) :
    (ofResponse link last status location).1 ≠ .tooManyRedirects := by
  intro h
  rcases ofResponse_cases link last status location with hfound | ⟨target, hfound⟩
  · simp [h] at hfound
  · simp [h] at hfound

/--
A link that is answered with a chain of redirects from one URL of the web to the next, and behind
them with a status that is no redirect and does not send for a request for all of it: up to
`maxRedirects - 1` redirects are followed, and the result reports the last status.  Where there are
`maxRedirects` or more, only so many requests are made, and the result is that there are too many.
-/
theorem fetch_redirects
    {link : String}
    {timeout : Nat}
    (htimeout : 0 < timeout)
    (hparse : Url.parse link.toList = .ok u)
    (hhttp : ∀ v ∈ u :: rest, v.scheme = "http".toList)
    (hlinked : (send.withoutUser u :: rest).IsChain fun v w => leadsOn transport .head v = some w)
    (hlast : (send.withoutUser u :: rest).getLast? = some last)
    {status : Nat}
    {location : Option String}
    (hanswer : transport (requestLine .head last) = .response status location)
    (hvalid : 100 ≤ status)
    (hfollowed : isFollowed status = false)
    (hwhole : wantsWhole status = false) :
    (rest.length < maxRedirects →
      fetch transport .standard link timeout =
          (resultOf link (.response last status location),
            (send.withoutUser u :: rest).map (requestLine .head)) ∧
        (fetch transport .standard link timeout).1.code = some status ∧
        (fetch transport .standard link timeout).1.status ≠ .tooManyRedirects) ∧
      (maxRedirects ≤ rest.length →
        fetch transport .standard link timeout =
          (⟨link, .tooManyRedirects, none, some "Too many redirects"⟩,
            ((send.withoutUser u :: rest).take maxRedirects).map (requestLine .head))) := by
  have hencoded := Url.encoded_of_parse hparse (by rw [hhttp u List.mem_cons_self]; decide)
  have hsend := send_of_isChain hencoded hhttp hlinked hlast hanswer hvalid hfollowed
    (show 1 ≤ maxRedirects by decide)
  rw [fetch_eq htimeout hparse, Policy.standard]
  constructor
  · intro hfew
    rw [if_pos hfew, List.take_of_length_le (by rw [List.length_cons]; omega)] at hsend
    rw [headThenGet_of_response hsend hwhole]
    exact ⟨rfl, rfl, ofResponse_ne_tooManyRedirects link last status location⟩
  · intro hmany
    rw [if_neg (Nat.not_lt.2 hmany)] at hsend
    rw [headThenGet, hsend]
    rfl

/-- A page of a local site. -/
def localPage (name : Char) : Url :=
  ⟨"http".toList, some ⟨[], [], some (.ipv6 [0, 0, 0, 0, 0, 0, 0, 1]), none⟩, ['/', name],
    none, none⟩

/-- One redirect, to a path and back to the same site. -/
theorem fetch_redirects_once :
    fetch (scripted [("HEAD http://[::1]/0", .response 302 (some "/1")),
        ("HEAD http://[::1]/1", .response 204 none)]) .standard "http://[::1]/0" 1000 =
      (⟨"http://[::1]/0", .redirect "http://[::1]/1", some 204,
        some "HTTP 204 after redirect to http://[::1]/1"⟩,
        ["HEAD http://[::1]/0", "HEAD http://[::1]/1"]) := by
  have hhttp : ∀ v ∈ [localPage '0', localPage '1'], v.scheme = "http".toList := by
    rw [List.forall_mem_cons, List.forall_mem_singleton]
    exact ⟨rfl, rfl⟩
  have hboth := @fetch_redirects
    (scripted [("HEAD http://[::1]/0", .response 302 (some "/1")),
      ("HEAD http://[::1]/1", .response 204 none)])
    (localPage '0') (localPage '1') [localPage '1'] "http://[::1]/0" 1000 (by decide) rfl hhttp
    (List.isChain_pair.2 (by decide +kernel)) rfl 204 none (by decide +kernel) (by decide)
    (by decide) (by decide)
  exact (hboth.1 (by decide)).1.trans (by decide +kernel)

/-- Five redirects are one too many: the fifth is not followed, and the page behind it is not asked
for. -/
theorem fetch_fifth_redirect :
    fetch (scripted [("HEAD http://[::1]/0", .response 302 (some "/1")),
        ("HEAD http://[::1]/1", .response 302 (some "/2")),
        ("HEAD http://[::1]/2", .response 302 (some "/3")),
        ("HEAD http://[::1]/3", .response 302 (some "/4")),
        ("HEAD http://[::1]/4", .response 302 (some "/5")),
        ("HEAD http://[::1]/5", .response 200 none)]) .standard "http://[::1]/0" 1000 =
      (⟨"http://[::1]/0", .tooManyRedirects, none, some "Too many redirects"⟩,
        ["HEAD http://[::1]/0", "HEAD http://[::1]/1", "HEAD http://[::1]/2",
          "HEAD http://[::1]/3", "HEAD http://[::1]/4"]) := by
  decide +kernel

end Http
end LinkLedger
