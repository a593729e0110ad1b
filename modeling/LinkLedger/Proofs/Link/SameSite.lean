import LinkLedger.Proofs.Link.SitePaths
import LinkLedger.Proofs.Url.Continued

/-!
# References stay on the site

What an author writes is put behind the site or behind a part of the base, with a slash or the mark
of a query or a fragment in between.  A part of the base that shows the host of the site keeps
every reference on it, whatever the reference is made of.  The part of a base up to the first slash
behind `://` need not show a host: URLs may have any number of slashes there.

**Results.**
* `IsRelative`: the references that are put behind an address.
* `exists_shows_of_resolve`: what stands in front of a reference shows the host of the site.
* `Classifier.kind_of_relative`: what a reference from a page of the site can be.
* `Classifier.kind_below_slashes`: a site on which a reference leads elsewhere.
-/

namespace LinkLedger
namespace Link

open Text

/-- A trimmed reference with a mark of the site, or with neither a scheme nor two slashes in
front. -/
def IsRelative (raw : List Char) : Prop :=
  (sitePayload? raw).isSome = true ∨ (hasScheme raw = false ∧ ¬ "//".toList <+: raw)

/-- Whether a text shows a host at which a reference with a path can be put in. -/
def KeepsHost (site place : List Char) : Prop :=
  OnSite site place ∨ Url.ShowsHost place

variable {f : Url.Front} {site base raw : List Char}

/-! ## What stands in front -/

theorem shows_of_onSite
    (h : Url.Shows f site)
    (hbase : OnSite site base) :
    Url.Shows f base := by
  obtain ⟨path, rfl, rfl | hhead⟩ := hbase
  · rwa [List.append_nil]
  · obtain ⟨rest, rfl⟩ := List.head?_eq_some_iff.1 hhead
    exact h.append rest

/-- The root of a page shows the front of the site. -/
theorem shows_splitBase
    {place : List Char}
    (h : Url.Shows f site)
    (hplace : Url.Shows f place)
    (hhost : KeepsHost site place) :
    Url.Shows f (splitBase place site).1 := by
  by_cases hsite : OnSite site place
  · obtain ⟨path, rfl, hpath⟩ := hsite
    rwa [splitBase_of_isPathBehind hpath]
  · rw [splitBase_of_not_onSite hsite, splitHost?]
    cases hsplit : splitFirst? "://".toList place with
    | none => exact h
    | some parts => exact hplace.root (hhost.resolve_left hsite) hsplit

/-- A relative reference is put behind a text that shows the front of the site. -/
theorem exists_shows_of_resolve
    (h : Url.Shows f site)
    (hbase : OnSite site base)
    (hblank : trim raw ≠ [])
    (hraw : IsRelative (trim raw))
    (hhost : sitePayload? (trim raw) = none → ¬ IsPathless (trim raw) →
      KeepsHost site (before endsPath (trim base))) :
    ∃ front stop back, resolve raw base site = front ++ stop :: back ∧ Url.Shows f front ∧
      (stop = '/' ∨ stop = '?' ∨ stop = '#') := by
  have hshows := (shows_of_onSite h hbase).trim
  cases hpayload : sitePayload? (trim raw) with
  | some payload =>
      refine ⟨site, '/', payload.dropWhile (· == '/'), ?_, h, Or.inl rfl⟩
      unfold resolve
      dsimp only
      rw [hpayload]
  | none =>
      obtain ⟨hscheme, hslashes⟩ := hraw.resolve_left (by rw [hpayload]; exact Bool.false_ne_true)
      by_cases hpathless : IsPathless (trim raw)
      · -- The mark of a query or a fragment behind the base.
        obtain ⟨stop, back, hstop⟩ := List.exists_cons_of_ne_nil hblank
        have hmark : stop = '?' ∨ stop = '#' := by
          simpa [hstop, IsPathless, endsPath] using hpathless
        refine ⟨cutBase (trim raw) base, stop, back, ?_, ?_, Or.inr hmark⟩
        · rw [resolve_of_pathless hpathless, hstop]
        · unfold cutBase
          split
          · exact hshows.before fun c hc => hc
          · refine hshows.before fun c hc => ?_
            rw [beq_iff_eq.1 hc]
            decide
      · -- A path behind the root of the base.
        have hmark : ∀ c, (trim raw).head? = some c → endsPath c = false := by
          intro c hc
          rw [← Bool.not_eq_true]
          intro hends
          refine hpathless fun d hd => ?_
          rw [← Option.some.inj (hc.symm.trans hd)]
          exact hends
        have hplace : Url.Shows f (before endsPath (trim base)) := hshows.before fun c hc => hc
        refine ⟨(splitBase (before endsPath (trim base)) site).1, '/',
          mergePath (splitBase (before endsPath (trim base)) site).2 (before endsPath (trim raw)) ++
            since endsPath (trim raw),
          ?_, shows_splitBase h hplace (hhost hpayload hpathless), Or.inl rfl⟩
        rw [resolve_of_path hblank hpayload hscheme hslashes hmark, resolvePath]
        exact List.append_assoc _ _ _

end Link

namespace Classifier

open Text Link

/-! ## Where links lead -/

theorem isCommon_of_isWeb
    {scheme : List Char}
    (h : Url.isWeb scheme = true) :
    Url.isCommon scheme = true := by
  simp only [Url.isWeb, Bool.or_eq_true, decide_eq_true_eq] at h
  rcases h with rfl | rfl <;> decide

/-- A URL of the web has an origin of its own. -/
theorem origin?_of_isWeb
    {u : Url}
    (h : Url.isWeb u.scheme = true) :
    u.origin? = u.ownOrigin? := by
  have hblob : u.scheme ≠ "blob".toList := by
    intro heq
    rw [heq] at h
    revert h
    decide
  rw [Url.origin?, Url.originWithin?, if_neg hblob]

/-- A text that shows a front does not leave its scheme to the site. -/
theorem not_slashes_of_shows
    {f : Url.Front}
    {front : List Char}
    (h : Url.Shows f front)
    (back : List Char) :
    "//".toList.isPrefixOf (front ++ back) = false := by
  obtain ⟨edges, c, rest, rfl, hedges, hc, hletter⟩ := h.exists_letter
  rw [← Bool.not_eq_true, List.isPrefixOf_iff_prefix]
  rintro ⟨more, hmore⟩
  cases edges with
  | nil =>
      rw [← (List.cons.inj hmore).1] at hletter
      cases hletter
  | cons d edges =>
      have hedge := hedges d List.mem_cons_self
      rw [← (List.cons.inj hmore).1] at hedge
      cases hedge

variable {c : Classifier} {u : Url} {f : Url.Front}

/-- What continues a front that leads to the site leads there, or is no link of the web. -/
theorem siteOrigin?_of_webOrigin?
    {front back : List Char}
    {stop : Char}
    {origin : Url.Origin}
    (hsite : Url.parse c.site.toList = .ok u)
    (hweb : Url.isWeb u.scheme = true)
    (hfront : u.ownOrigin? = f.origin?)
    (hshows : Url.Shows f front)
    (hstop : stop = '/' ∨ stop = '?' ∨ stop = '#')
    (h : c.webOrigin? (front ++ stop :: back) = some origin) :
    c.siteOrigin? = some origin := by
  unfold webOrigin? at h
  dsimp only at h
  rw [not_slashes_of_shows hshows, if_neg Bool.false_ne_true] at h
  split at h
  · next v hparse =>
    split at h
    · next hweb' =>
      rw [origin?_of_isWeb hweb', hshows.origin hstop hparse (isCommon_of_isWeb hweb')] at h
      rw [siteOrigin?, originOf?, hsite]
      dsimp only
      rw [origin?_of_isWeb hweb, hfront, h]
    · cases h
  · cases h

theorem kindOf_cases
    {url : String}
    (h : ∀ origin, c.webOrigin? url.toList = some origin → c.siteOrigin? = some origin) :
    c.kindOf url = .internal ∨ c.kindOf url = .blacklisted ∨ c.kindOf url = .unsupported := by
  unfold kindOf
  split
  · exact Or.inr (Or.inr rfl)
  · cases horigin : c.webOrigin? url.toList with
    | none => exact Or.inr (Or.inr rfl)
    | some origin =>
        dsimp only
        split
        · exact Or.inr (Or.inl rfl)
        · rw [if_pos (h origin horigin)]
          exact Or.inl rfl

/--
A relative reference on a page of a site of the web is internal, excluded, or no link that can be
followed, whatever else it contains.  A reference with a path needs a base that shows its host.
-/
theorem kind_of_relative
    {raw base : String}
    (hsite : Url.parse c.site.toList = .ok u)
    (hweb : Url.isWeb u.scheme = true)
    (hbase : OnSite c.site.toList base.toList)
    (hraw : IsRelative (trim raw.toList))
    (hhost : sitePayload? (trim raw.toList) = none → ¬ IsPathless (trim raw.toList) →
      KeepsHost c.site.toList (before Link.endsPath (trim base.toList))) :
    (c.classify raw base).kind = .internal ∨ (c.classify raw base).kind = .blacklisted ∨
      (c.classify raw base).kind = .unsupported := by
  by_cases hblank : trim raw.toList = []
  · rw [classify_of_blank hblank]
    exact Or.inr (Or.inr rfl)
  · obtain ⟨f, hshows, hfront⟩ := Url.exists_shows hsite (isCommon_of_isWeb hweb)
    obtain ⟨front, stop, back, hresolve, hfrontShows, hstop⟩ :=
      exists_shows_of_resolve hshows hbase hblank hraw hhost
    rw [classify_of_not_blank hblank, judge_kind]
    refine kindOf_cases fun origin horigin => ?_
    rw [resolveText, String.toList_ofList, hresolve] at horigin
    exact siteOrigin?_of_webOrigin? hsite hweb hfront hfrontShows hstop horigin

/-- Backslashes, an at sign and a host of its own do not lead a reference off the site. -/
theorem kind_of_relative_backslashes :
    let c : Classifier := ⟨"http://[::1]/cms", [], .all⟩
    let kind := (c.classify " \\\\x@[::2]/../.. " "http://[::1]/cms/a/b").kind
    kind = .internal ∨ kind = .blacklisted ∨ kind = .unsupported :=
  kind_of_relative
    (c := ⟨"http://[::1]/cms", [], .all⟩)
    (u := ⟨"http".toList, some ⟨[], [], some (.ipv6 [0, 0, 0, 0, 0, 0, 0, 1]), none⟩,
      "/cms".toList, none, none⟩)
    (by decide +kernel) (by decide) ⟨"/a/b".toList, by decide +kernel, Or.inr rfl⟩
    (Or.inr (by decide)) fun _ _ => Or.inl ⟨"/a/b".toList, by decide +kernel, Or.inr rfl⟩

/--
A site whose host stands behind three slashes, with a query: its page does not show the host where
the root of a base is cut, and a path leads to another host.
-/
theorem kind_below_slashes :
    let c : Classifier := ⟨"http:///[::1]?x", [], .all⟩
    (∃ u, Url.parse c.site.toList = .ok u ∧ Url.isWeb u.scheme = true) ∧
      OnSite c.site.toList "http:///[::1]?x".toList ∧ IsRelative (trim "/[::2]".toList) ∧
        (c.classify "/[::2]" "http:///[::1]?x").kind = .external :=
  ⟨⟨⟨"http".toList, some ⟨[], [], some (.ipv6 [0, 0, 0, 0, 0, 0, 0, 1]), none⟩, "/".toList,
      some "x".toList, none⟩, by decide +kernel, by decide⟩,
    ⟨[], (List.append_nil _).symm, Or.inl rfl⟩, Or.inr (by decide), by decide +kernel⟩

end Classifier
end LinkLedger
