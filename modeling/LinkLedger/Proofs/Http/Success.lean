import LinkLedger.Proofs.Http.Redirects
import LinkLedger.Proofs.Url.SpacesBehind

/-!
# Links that are answered

A response with a status of success counts as one of another URL if that is not written like the
link, read once more with its spaces written as octets.  That agrees with the requests where no
spaces surround the link and no user is left out of it.

**Results.**
* `requestLine_of_write`: URLs of the web that are written alike are asked for alike.
* `landedElsewhere_of_plain`, `landedElsewhere_of_spaceInFront`, `landedElsewhere_of_spaceBehind`:
  what the comparison comes to.
* `write_ne_of_isChain`: no chain of redirects comes back to what it started from.
* `fetch_success`: which links that are answered with success are redirected.
-/

namespace LinkLedger
namespace Http

open Url (SpaceInFront SpaceBehind)

variable {transport : Transport} {method : Method} {u v last : Url} {rest : List Url}
variable {status : Nat} {location : Option String} {link : String}

/-! ## Written URLs and requests -/

/-- A request names the URL without its user and its fragment. -/
theorem write_bare
    {a : Url.Authority}
    (ha : u.authority = some a) :
    (bare u).write = u.scheme ++ ':' :: '/' :: '/' ::
      (a.writeHost ++ (u.path ++ Url.writePart '?' u.query)) := by
  have hbare : (bare u).authority = some { a with user := [], password := [] } := by
    rw [bare, ha]
    rfl
  rw [Url.write_eq hbare]
  simp [bare, Url.writePart, Url.Authority.writeUser, Url.Authority.hasUser,
    Url.Authority.writeHost]

/-- URLs of the web that are written alike are asked for alike. -/
theorem requestLine_of_write
    (hu : u.Encoded)
    (hv : v.Encoded)
    (hhttp : u.scheme = "http".toList)
    (hhttp' : v.scheme = "http".toList)
    (hwrite : u.write = v.write) :
    requestLine method u = requestLine method v := by
  obtain ⟨a, b, ha, hb, hhost, htail⟩ := hu.write_inj hv (hhttp.trans hhttp'.symm) hwrite
  have hplain : ∀ {w : Url}, w.scheme = "http".toList → isEncrypted w = false := by
    intro w hw
    rw [isEncrypted, hw]
    decide
  rw [requestLine, requestLine, hplain hhttp, hplain hhttp', Url.display, Url.display,
    write_bare ha, write_bare hb, hhttp, hhttp', hhost, htail]
  rfl

/-- A URL does not get longer without its user, and it gets shorter if it had one. -/
theorem length_write_withoutUser
    (h : u.Encoded) :
    send.withoutUser u = u ∨ (send.withoutUser u).write.length < u.write.length := by
  obtain ⟨a, ha, hencoded⟩ := h.authority
  by_cases huser : a.hasUser = true
  · unfold send.withoutUser
    rw [ha]
    dsimp only
    split
    · right
      rw [Url.write_eq ha, Url.write_eq rfl]
      have hpresent : 0 < a.writeUser.length := by
        rw [Url.Authority.writeUser, if_pos huser, List.length_append]
        exact Nat.succ_pos _
      have hgone : Url.Authority.writeUser { a with user := [], password := [] } = [] := rfl
      have hhost :
          Url.Authority.writeHost { a with user := [], password := [] } = a.writeHost := rfl
      rw [hgone, hhost]
      simp only [List.length_append, List.length_cons, List.length_nil]
      omega
    · exact Or.inl rfl
  · left
    obtain ⟨user, password, host, port⟩ := a
    obtain ⟨rfl, rfl⟩ : user = [] ∧ password = [] := by
      simpa [Url.Authority.hasUser] using huser
    unfold send.withoutUser
    rw [ha]
    dsimp only
    split
    · rw [← ha]
    · rfl

/-! ## The comparison -/

section Comparison

variable (hparse : Url.parse link.toList = .ok u) (hcommon : Url.isCommon u.scheme = true)
include hparse hcommon

/-- Without spaces around the link, a response is from elsewhere if its URL is written in another
way. -/
theorem landedElsewhere_of_plain
    (hfront : ¬ SpaceInFront link.toList)
    (hbehind : ¬ SpaceBehind link.toList)
    (last : Url) :
    landedElsewhere link last = (u.write != last.write) := by
  rw [landedElsewhere, Url.parse_replaceChar hparse hcommon hfront hbehind]

omit hparse hcommon in
/-- A link that cannot be read with octets for its spaces has some, and no URL is written like
it. -/
theorem landedElsewhere_of_error
    {fault : Url.ParseFault}
    (hread : Url.parse (Text.replaceChar ' ' "%20".toList link.toList) = .error fault)
    (hspace : ' ' ∈ link.toList)
    (hlast : last.Encoded) :
    landedElsewhere link last = true := by
  rw [landedElsewhere, hread]
  refine bne_iff_ne.2 fun heq => hlast.space_not_mem_write ?_
  rwa [← heq]

omit hparse hcommon in
theorem landedElsewhere_of_spaceInFront
    (hfront : SpaceInFront link.toList)
    (hlast : last.Encoded) :
    landedElsewhere link last = true := by
  cases hread : Url.parse (Text.replaceChar ' ' "%20".toList link.toList) with
  | error fault =>
      exact landedElsewhere_of_error hread ((List.takeWhile_sublist _).subset hfront) hlast
  | ok v => exact absurd hfront (Url.not_spaceInFront_of_parse hread)

/-- With spaces behind the link, a response is from elsewhere if its URL is not longer. -/
theorem landedElsewhere_of_spaceBehind
    (hbehind : SpaceBehind link.toList)
    (hlast : last.Encoded)
    (hlength : last.write.length ≤ u.write.length) :
    landedElsewhere link last = true := by
  cases hread : Url.parse (Text.replaceChar ' ' "%20".toList link.toList) with
  | error fault =>
      refine landedElsewhere_of_error hread ?_ hlast
      exact List.mem_reverse.1 ((List.takeWhile_sublist _).subset hbehind)
  | ok v =>
      have hlonger := Url.length_lt_of_parse hparse hcommon hbehind hread
      rw [landedElsewhere, hread]
      refine bne_iff_ne.2 fun heq => ?_
      rw [heq] at hlonger
      omega

/-- A response from the link itself is from elsewhere if spaces surround the link, or if a user has
been left out. -/
theorem landedElsewhere_withoutUser :
    landedElsewhere link (send.withoutUser u) = true ↔
      SpaceInFront link.toList ∨ SpaceBehind link.toList ∨ send.withoutUser u ≠ u := by
  have hencoded := Url.encoded_of_parse hparse hcommon
  have hlast := encoded_withoutUser hencoded
  have hlength := length_write_withoutUser hencoded
  by_cases hfront : SpaceInFront link.toList
  · exact iff_of_true (landedElsewhere_of_spaceInFront hfront hlast) (Or.inl hfront)
  · by_cases hbehind : SpaceBehind link.toList
    · refine iff_of_true (landedElsewhere_of_spaceBehind hparse hcommon hbehind hlast ?_)
        (Or.inr (Or.inl hbehind))
      rcases hlength with heq | hless
      · rw [heq]
      · exact Nat.le_of_lt hless
    · rw [landedElsewhere_of_plain hparse hcommon hfront hbehind, bne_iff_ne]
      simp only [hfront, hbehind, false_or]
      refine ⟨fun hne heq => hne (by rw [heq]), fun hne heq => ?_⟩
      have hless := hlength.resolve_left hne
      rw [heq] at hless
      exact Nat.lt_irrefl _ hless

end Comparison

/-! ## Behind a redirect -/

/-- Behind a redirect, a status that is none comes from a URL that is not written like the link. -/
theorem write_ne_of_isChain
    (hencoded : u.Encoded)
    (hhttp : ∀ w ∈ u :: v :: rest, w.scheme = "http".toList)
    (hlinked : (send.withoutUser u :: v :: rest).IsChain fun v w =>
      leadsOn transport method v = some w)
    (hlast : (v :: rest).getLast? = some last)
    (hlastEncoded : last.Encoded)
    (hanswer : transport (requestLine method last) = .response status location)
    (hfollowed : isFollowed status = false) :
    u.write ≠ last.write := by
  intro hwrite
  -- The last request would be the first one again, and that was answered with a redirect.
  have hsame : requestLine method u = requestLine method last :=
    requestLine_of_write hencoded hlastEncoded (hhttp u List.mem_cons_self)
      (hhttp last (List.mem_cons_of_mem _ (List.mem_of_getLast? hlast))) hwrite
  obtain ⟨status', location', hask, htarget⟩ :=
    exists_target_of_leadsOn (List.isChain_cons_cons.1 hlinked).1
  have hfirst := (response_of_ask hask).2.2
  rw [requestLine_withoutUser, hsame, hanswer] at hfirst
  cases hfirst
  rw [target?.eq_def, hfollowed] at htarget
  cases htarget

/-- Such a status is from elsewhere, unless there are spaces behind the link. -/
theorem landedElsewhere_of_isChain
    (hparse : Url.parse link.toList = .ok u)
    (hbehind : ¬ SpaceBehind link.toList)
    (hhttp : ∀ w ∈ u :: v :: rest, w.scheme = "http".toList)
    (hlinked : (send.withoutUser u :: v :: rest).IsChain fun v w =>
      leadsOn transport method v = some w)
    (hlast : (v :: rest).getLast? = some last)
    (hanswer : transport (requestLine method last) = .response status location)
    (hfollowed : isFollowed status = false) :
    landedElsewhere link last = true := by
  have hcommon : ∀ w ∈ u :: v :: rest, Url.isCommon w.scheme = true := by
    intro w hw
    rw [hhttp w hw]
    decide
  have hencoded := Url.encoded_of_parse hparse (hcommon u List.mem_cons_self)
  have hlastEncoded : last.Encoded :=
    encoded_of_isChain (encoded_withoutUser hencoded) hlinked (List.forall_mem_cons.1 hcommon).2
      last (List.mem_cons_of_mem _ (List.mem_of_getLast? hlast))
  by_cases hfront : SpaceInFront link.toList
  · exact landedElsewhere_of_spaceInFront hfront hlastEncoded
  · rw [landedElsewhere_of_plain hparse (hcommon u List.mem_cons_self) hfront hbehind, bne_iff_ne]
    exact write_ne_of_isChain hencoded hhttp hlinked hlast hlastEncoded hanswer hfollowed

/-! ## Links -/

/-- With a status of success, a link is good or redirected. -/
theorem status_resultOf
    (hsuccess : 200 ≤ status ∧ status < 300)
    (link : String)
    (last : Url)
    (location : Option String) :
    (resultOf link (.response last status location)).status =
      if landedElsewhere link last then .redirect last.display else .ok := by
  change (ofResponse link last status location).1 = _
  unfold ofResponse
  dsimp only
  rw [if_pos hsuccess]
  split <;> rfl

/-- Nothing that is a success is followed or sends for all of the link. -/
theorem isFollowed_of_success
    (hsuccess : 200 ≤ status ∧ status < 300) :
    isFollowed status = false := by
  simp only [isFollowed, List.contains_cons, List.contains_nil, Bool.or_false, Bool.or_eq_false_iff,
    beq_eq_false_iff_ne]
  omega

theorem wantsWhole_of_success
    (hsuccess : 200 ≤ status ∧ status < 300) :
    wantsWhole status = false := by
  simp only [wantsWhole, Bool.or_eq_false_iff, decide_eq_false_iff_not]
  omega

/-- A status that sends for all of the link is an error, and no redirect. -/
theorem status_of_wantsWhole
    (h : wantsWhole status = true) :
    100 ≤ status ∧ isFollowed status = false := by
  rcases Bool.or_eq_true_iff.1 h with heq | heq
  · rw [of_decide_eq_true heq]
    decide
  · rw [of_decide_eq_true heq]
    decide

/-- The header comes first, and all of the link only where the header is not to be had from it. -/
theorem headThenGet_of_success
    {limit : Nat}
    (hlimit : 1 ≤ limit)
    {lines : List String}
    (hencoded : u.Encoded)
    (hhttp : u.scheme = "http".toList)
    (hheader : method = .get → ∃ status location,
      transport (requestLine .head u) = .response status location ∧ wantsWhole status = true)
    (hsend : send transport (.limited limit) method u = (lines, .response last status location))
    (hsuccess : 200 ≤ status ∧ status < 300) :
    headThenGet transport (.limited limit) u =
      ((if method = .get then [requestLine .head u] else []) ++ lines,
        .response last status location) := by
  cases method with
  | head => exact headThenGet_of_response hsend (wantsWhole_of_success hsuccess)
  | get =>
      obtain ⟨before, moved, hanswer, hwants⟩ := hheader rfl
      obtain ⟨hvalid, hfollowed⟩ := status_of_wantsWhole hwants
      rw [← requestLine_withoutUser] at hanswer
      have hfirst := send_of_isChain hencoded (by simpa using hhttp) (List.isChain_singleton _) rfl
        hanswer hvalid hfollowed hlimit
      have hone : ([send.withoutUser u] : List Url).take limit = [send.withoutUser u] :=
        List.take_of_length_le hlimit
      rw [headThenGet, hfirst, List.length_nil, if_pos (show 0 < limit from hlimit), hone]
      dsimp only
      rw [if_pos hwants, hsend]
      simp [requestLine_withoutUser]

/--
A link of the web whose status is a success, for the header or for all of it where the header is
not to be had, with fewer than `maxRedirects` redirects in front of it.  Where the link itself is
answered so, it is good unless spaces surround it or it has a user that is told apart from it.  Where
a redirect was followed, it is redirected to where the status came from, unless there are spaces
behind it.
-/
theorem fetch_success
    {timeout : Nat}
    (htimeout : 0 < timeout)
    (hparse : Url.parse link.toList = .ok u)
    (hhttp : ∀ v ∈ u :: rest, v.scheme = "http".toList)
    (hheader : method = .get → ∃ status location,
      transport (requestLine .head u) = .response status location ∧ wantsWhole status = true)
    (hlinked : (send.withoutUser u :: rest).IsChain fun v w => leadsOn transport method v = some w)
    (hlast : (send.withoutUser u :: rest).getLast? = some last)
    (hfew : rest.length < maxRedirects)
    (hanswer : transport (requestLine method last) = .response status location)
    (hsuccess : 200 ≤ status ∧ status < 300) :
    (fetch transport .standard link timeout).2 =
        (if method = .get then [requestLine .head u] else []) ++
          (send.withoutUser u :: rest).map (requestLine method) ∧
      (fetch transport .standard link timeout).1.code = some status ∧
      (rest = [] → (fetch transport .standard link timeout).1.status =
        if SpaceInFront link.toList ∨ SpaceBehind link.toList ∨ send.withoutUser u ≠ u then
          .redirect last.display
        else .ok) ∧
      (rest ≠ [] → ¬ SpaceBehind link.toList →
        (fetch transport .standard link timeout).1.status = .redirect last.display) := by
  have hcommon : Url.isCommon u.scheme = true := by
    rw [hhttp u List.mem_cons_self]
    decide
  have hencoded := Url.encoded_of_parse hparse hcommon
  have hfollowed := isFollowed_of_success hsuccess
  have hlimit : 1 ≤ maxRedirects := by decide
  have hsend := send_of_isChain hencoded hhttp hlinked hlast hanswer (by omega) hfollowed hlimit
  rw [if_pos hfew, List.take_of_length_le (by rw [List.length_cons]; omega)] at hsend
  rw [fetch_eq htimeout hparse, Policy.standard,
    headThenGet_of_success hlimit hencoded (hhttp u List.mem_cons_self) hheader hsend hsuccess]
  dsimp only
  rw [status_resultOf hsuccess]
  refine ⟨rfl, rfl, ?_, ?_⟩
  · rintro rfl
    obtain rfl : send.withoutUser u = last := Option.some.inj hlast
    simp only [landedElsewhere_withoutUser hparse hcommon]
  · intro hmoved hbehind
    cases rest with
    | nil => exact absurd rfl hmoved
    | cons v rest =>
        rw [List.getLast?_cons_cons] at hlast
        have helsewhere :=
          landedElsewhere_of_isChain hparse hbehind hhttp hlinked hlast hanswer hfollowed
        rw [if_pos helsewhere]

/-- A link whose header is not to be had. -/
theorem fetch_success_whole :
    (fetch (scripted [("HEAD http://[::1]/0", .response 405 none),
        ("GET http://[::1]/0", .response 204 none)]) .standard "http://[::1]/0" 1000).1.status =
      .ok := by
  have hdirect := @fetch_success
    (scripted [("HEAD http://[::1]/0", .response 405 none),
      ("GET http://[::1]/0", .response 204 none)])
    .get (localPage '0') (localPage '0') [] 204 none "http://[::1]/0" 1000 (by decide) rfl
    (List.forall_mem_singleton.2 rfl)
    (fun _ => ⟨405, none, by decide +kernel, by decide⟩)
    (List.isChain_singleton _) rfl (by decide) (by decide +kernel) (by decide)
  exact (hdirect.2.2.1 rfl).trans (if_neg (by decide +kernel))

/-- A space in front of a link makes a good link a redirected one, without any redirect. -/
theorem fetch_success_space :
    fetch (scripted [("HEAD http://[::1]/", .response 200 none)]) .standard " http://[::1]/" 1000 =
      (⟨" http://[::1]/", .redirect "http://[::1]/", some 200,
        some "HTTP 200 after redirect to http://[::1]/"⟩, ["HEAD http://[::1]/"]) := by
  decide +kernel

end Http
end LinkLedger
