import LinkLedger.Link.Classifier
import LinkLedger.Proofs.Link.Absolute
import LinkLedger.Proofs.Url.Scheme

/-!
# Tracked links are their own absolute forms

URLs drop control characters and blanks at their ends and line breaks and tabs everywhere, and
resolving does not.  A text could therefore name a URL of the web without showing its scheme.  It
cannot if the site is an address of the web and the base has no control characters: then the scheme
stands in front of everything the author wrote.

**Results.**
* `Classifier.hasWebScheme_of_webOrigin?`: a link of the web whose front has no control characters
  shows its scheme.
* `Classifier.resolve_resolve`: resolving a second time, against any base, changes nothing.
* `Classifier.classify_url`: the judgement on a tracked link is the one it came from.
-/

namespace LinkLedger

open Text

/-- Whether a character is a control character of ASCII. -/
def Text.isAsciiControl (c : Char) : Bool := c.toNat < 0x20 || c.toNat == 0x7F

/-- No control characters of ASCII in a text. -/
def Text.NoControls (cs : List Char) : Prop := ∀ c ∈ cs, isAsciiControl c = false

instance (cs : List Char) : Decidable (NoControls cs) :=
  decidable_of_iff (cs.all (fun c => !isAsciiControl c) = true) (by simp [NoControls])

namespace Link

/-- The address of a site of the web, by its scheme. -/
def IsWebSite (site : List Char) : Prop :=
  "http://".toList <+: site ∨ "https://".toList <+: site

/-- A text that shows the scheme of the web, which starts with an `h` in either case. -/
def HasWebScheme (url : List Char) : Prop :=
  (∃ c, url.head? = some c ∧ c.isAlpha = true ∧ c.toLower = 'h') ∧ hasScheme url = true

/-! ## Texts that show the scheme of the web -/

theorem hasWebScheme_of_isWebSite
    {site : List Char}
    (h : IsWebSite site)
    (rest : List Char) :
    HasWebScheme (site ++ rest) := by
  rcases h with ⟨behind, rfl⟩ | ⟨behind, rfl⟩
  · exact ⟨⟨'h', rfl, rfl, rfl⟩, rfl⟩
  · exact ⟨⟨'h', rfl, rfl, rfl⟩, rfl⟩

/-- The marks of the site start with four letters. -/
theorem sitePayload?_of_head_not_mem
    {c : Char}
    {cs : List Char}
    (h : c ∉ ['i', 'b', 'e', 'r']) :
    sitePayload? (c :: cs) = none := by
  rw [sitePayload?, List.findSome?_eq_none_iff]
  intro token htoken
  cases hpayload : token.toList.isPrefixOf? (c :: cs) with
  | none => rfl
  | some payload =>
      have happend := eq_append_of_isPrefixOf? hpayload
      simp only [siteTokens, List.mem_cons, List.not_mem_nil, or_false] at htoken
      rcases htoken with rfl | rfl | rfl | rfl
      all_goals
        obtain ⟨rfl, -⟩ := List.cons.inj happend
        exact absurd h (by decide)

theorem sitePayload?_of_hasWebScheme
    {url : List Char}
    (h : HasWebScheme url) :
    sitePayload? url = none := by
  obtain ⟨⟨c, hhead, -, hlower⟩, -⟩ := h
  obtain ⟨rest, rfl⟩ := List.head?_eq_some_iff.1 hhead
  apply sitePayload?_of_head_not_mem
  intro hmark
  simp only [List.mem_cons, List.not_mem_nil, or_false] at hmark
  rcases hmark with rfl | rfl | rfl | rfl
  all_goals exact absurd hlower (by decide)

/-- A trimmed text that is absolute is its own absolute form. -/
theorem resolve_eq_self
    {url : List Char}
    (htrim : trim url = url)
    (hpayload : sitePayload? url = none)
    (habsolute : ("//".toList.isPrefixOf url || hasScheme url) = true)
    (base site : List Char) :
    resolve url base site = url := by
  unfold resolve
  dsimp only
  rw [htrim, hpayload]
  dsimp only
  rw [if_pos habsolute]

end Link

namespace Classifier

open Link

/-! ## Links of the web -/

theorem isSchemeChar_eq :
    Link.isSchemeChar = Url.isSchemeChar := by
  funext c
  rw [Link.isSchemeChar, Url.isSchemeChar, Bool.or_assoc, Bool.or_assoc, Bool.or_comm (c = '.')]
  simp [Bool.or_assoc]

/-- Writing blanks in another way does not hide the end of a scheme. -/
theorem head?_dropWhile_replaceChar
    {cs : List Char}
    (h : ((replaceChar ' ' "%20".toList cs).dropWhile Url.isSchemeChar).head? = some ':') :
    (cs.dropWhile Url.isSchemeChar).head? = some ':' := by
  induction cs with
  | nil => simp [replaceChar] at h
  | cons c cs ih =>
      by_cases hblank : c = ' '
      · subst hblank
        simp [replaceChar, show Url.isSchemeChar '%' = false from rfl] at h
      · rw [replaceChar_cons_of_ne hblank] at h
        by_cases hscheme : Url.isSchemeChar c = true
        · rw [List.dropWhile_cons_of_pos hscheme] at h ⊢
          exact ih h
        · rw [List.dropWhile_cons_of_neg hscheme] at h ⊢
          simpa using h

theorem isEdge_of_mem_replaceChar
    {cs : List Char}
    (h : NoControls cs)
    {c : Char}
    (hc : c ∈ replaceChar ' ' "%20".toList cs) :
    Url.isEdge c = false := by
  obtain ⟨d, hd, hcd⟩ := List.mem_flatMap.1 hc
  by_cases hblank : d = ' '
  · rw [hblank, if_pos rfl] at hcd
    have hcode : "%20".toList.all (fun e => !Url.isEdge e) = true := rfl
    simpa using List.all_eq_true.1 hcode c hcd
  · simp only [hblank, if_false, List.mem_singleton] at hcd
    subst hcd
    have hcontrol := h c hd
    have hspace : c.toNat ≠ 32 := fun hn => hblank (Char.toNat_inj.1 hn)
    simp only [isAsciiControl, Bool.or_eq_false_iff, decide_eq_false_iff_not] at hcontrol
    simp only [Url.isEdge, decide_eq_false_iff_not]
    omega

theorem head?_of_head?_replaceChar
    {cs : List Char}
    {d : Char}
    (h : (replaceChar ' ' "%20".toList cs).head? = some d)
    (halpha : d.isAlpha = true) :
    cs.head? = some d := by
  cases cs with
  | nil => cases h
  | cons e cs =>
      by_cases hblank : e = ' '
      · subst hblank
        rw [← Option.some.inj (show some '%' = some d from h)] at halpha
        cases halpha
      · rwa [replaceChar_cons_of_ne hblank] at h

theorem hasScheme_append_cons
    {front : List Char}
    {d stop : Char}
    (hhead : front.head? = some d)
    (halpha : d.isAlpha = true)
    (hcolon : (front.dropWhile Url.isSchemeChar).head? = some ':')
    (hstop : Url.isSchemeChar stop = false)
    (back : List Char) :
    hasScheme (front ++ stop :: back) = true := by
  obtain ⟨rest, rfl⟩ := List.head?_eq_some_iff.1 hhead
  have hscheme : Url.isSchemeChar d = true := by
    simp [Url.isSchemeChar, Char.isAlphanum, halpha]
  rw [List.dropWhile_cons_of_pos hscheme] at hcolon
  obtain ⟨behind, hdrop⟩ := List.head?_eq_some_iff.1 hcolon
  rw [List.cons_append, hasScheme, isSchemeChar_eq, dropWhile_append_cons_of_neg hstop, hdrop,
    halpha]
  rfl

/-- A link of the web that does not leave its scheme to the site has one of the web. -/
theorem exists_splitScheme?_of_webOrigin?
    {c : Classifier}
    {url : List Char}
    {origin : Url.Origin}
    (h : c.webOrigin? url = some origin)
    (hslash : "//".toList.isPrefixOf url = false) :
    ∃ scheme behind,
      Url.splitScheme? (Url.cleaned (replaceChar ' ' "%20".toList url)) = some (scheme, behind) ∧
        scheme.head? = some 'h' := by
  unfold webOrigin? at h
  dsimp only at h
  rw [hslash, if_neg Bool.false_ne_true] at h
  split at h
  · next u hparse =>
    split at h
    · next hweb =>
      obtain ⟨behind, hsplit⟩ := Url.splitScheme?_of_parse hparse
      refine ⟨u.scheme, behind, hsplit, ?_⟩
      simp only [Url.isWeb, Bool.or_eq_true, decide_eq_true_eq] at hweb
      rcases hweb with hweb | hweb
      · rw [hweb]
        rfl
      · rw [hweb]
        rfl
    · cases h
  · cases h

/--
A link of the web that does not leave its scheme to the site shows it, if the front of the link has
no control characters.
-/
theorem hasWebScheme_of_webOrigin?
    {c : Classifier}
    {front back : List Char}
    {stop : Char}
    {origin : Url.Origin}
    (h : c.webOrigin? (front ++ stop :: back) = some origin)
    (hslash : "//".toList.isPrefixOf (front ++ stop :: back) = false)
    (hfront : NoControls front)
    (hstop : stop = '/' ∨ stop = '?' ∨ stop = '#') :
    HasWebScheme (front ++ stop :: back) := by
  have hmark : stop ≠ ' ' ∧ stop ≠ ':' ∧ Url.isEdge stop = false ∧
      Url.isSchemeChar stop = false := by
    rcases hstop with rfl | rfl | rfl <;> decide
  obtain ⟨hblank, hcolon, hedge, hscheme⟩ := hmark
  have hreplace : replaceChar ' ' "%20".toList (front ++ stop :: back) =
      replaceChar ' ' "%20".toList front ++ stop :: replaceChar ' ' "%20".toList back := by
    rw [replaceChar_append, replaceChar_cons_of_ne hblank]
  -- Nothing is dropped in front of `stop`, so the scheme is spelled there, and blanks cannot stand
  -- in it.
  obtain ⟨rest, hclean⟩ := Url.cleaned_append_cons hedge (replaceChar ' ' "%20".toList front)
    (replaceChar ' ' "%20".toList back)
  rw [Url.opened_eq_self fun d hd => isEdge_of_mem_replaceChar hfront hd] at hclean
  obtain ⟨scheme, behind, hsplit, hh⟩ := exists_splitScheme?_of_webOrigin? h hslash
  rw [hreplace, hclean] at hsplit
  obtain ⟨⟨d, hhead, halpha, hlower⟩, hend⟩ := Url.splitScheme?_append_cons hscheme hcolon hsplit
  have hfrontHead := head?_of_head?_replaceChar hhead halpha
  have hfrontEnd := head?_dropWhile_replaceChar hend
  refine ⟨⟨d, ?_, halpha, ?_⟩, hasScheme_append_cons hfrontHead halpha hfrontEnd hscheme back⟩
  · rw [List.head?_append, hfrontHead]
    rfl
  · exact Option.some.inj (hlower.symm.trans hh)

/-! ## Resolving again -/

theorem head?_of_isPrefixOf_slashes
    {url : List Char}
    (h : "//".toList.isPrefixOf url = true) :
    ∃ rest, url = '/' :: rest := by
  obtain ⟨rest, hrest⟩ := List.isPrefixOf_iff_prefix.1 h
  exact ⟨'/' :: rest, hrest.symm⟩

/--
The absolute form of a link of the web is its own absolute form against every base, if the site is
one of the web and the first base has no control characters.
-/
theorem resolve_resolve
    {c : Classifier}
    {raw base site : List Char}
    {origin : Url.Origin}
    (hsite : IsWebSite site)
    (hbase : NoControls base)
    (hraw : trim raw ≠ [])
    (h : c.webOrigin? (resolve raw base site) = some origin)
    (base' : List Char) :
    resolve (resolve raw base site) base' site = resolve raw base site := by
  rcases resolve_shape hraw base site with ⟨heq, hpayload, habsolute⟩ | hshape
  · rw [heq]
    exact resolve_eq_self (trim_trim raw) hpayload habsolute base' site
  · obtain ⟨front, stop, back, heq, hfront, hstop, hend⟩ := hshape
    rw [heq] at h ⊢
    have hlast : ∀ d, (front ++ stop :: back).getLast? = some d → isBlank d = false := by
      intro d hd
      apply hend d
      rw [List.getLast?_append, List.getLast?_cons] at hd
      rw [List.getLast?_cons]
      exact hd
    by_cases hslash : "//".toList.isPrefixOf (front ++ stop :: back) = true
    · obtain ⟨rest, hrest⟩ := head?_of_isPrefixOf_slashes hslash
      have htrim : trim (front ++ stop :: back) = front ++ stop :: back := by
        refine trim_eq_self ?_ hlast
        intro d hd
        rw [hrest] at hd
        rw [← Option.some.inj hd]
        decide
      refine resolve_eq_self htrim ?_ (by rw [hslash]; rfl) base' site
      rw [hrest]
      exact sitePayload?_of_head_not_mem (by decide)
    · have hweb : HasWebScheme (front ++ stop :: back) := by
        rcases hfront with rfl | hfront
        · exact hasWebScheme_of_isWebSite hsite _
        · exact hasWebScheme_of_webOrigin? h (Bool.eq_false_iff.2 hslash)
            (fun d hd => hbase d (hfront d hd)) hstop
      have htrim : trim (front ++ stop :: back) = front ++ stop :: back := by
        refine trim_eq_self ?_ hlast
        obtain ⟨⟨e, hhead, halpha, -⟩, -⟩ := hweb
        intro d hd
        rw [hhead] at hd
        rw [← Option.some.inj hd]
        exact isBlank_eq_false_of_isAlpha halpha
      exact resolve_eq_self htrim (sitePayload?_of_hasWebScheme hweb) (by rw [hweb.2, Bool.or_true])
        base' site

/-! ## Judging again -/

theorem classify_of_blank
    {raw : String}
    (h : trim raw.toList = [])
    (c : Classifier)
    (base : String) :
    c.classify raw base = c.judge "" .unsupported := by
  rw [classify, if_pos ((isBlankText_iff _).2 h)]

theorem classify_of_not_blank
    {raw : String}
    (h : trim raw.toList ≠ [])
    (c : Classifier)
    (base : String) :
    c.classify raw base =
      c.judge (resolveText raw base c.site) (c.kindOf (resolveText raw base c.site)) := by
  rw [classify, if_neg (fun hblank => h ((isBlankText_iff _).1 hblank))]

@[simp] theorem judge_url
    (c : Classifier)
    (url : String)
    (kind : LinkKind) :
    (c.judge url kind).url = url :=
  rfl

@[simp] theorem judge_kind
    (c : Classifier)
    (url : String)
    (kind : LinkKind) :
    (c.judge url kind).kind = kind :=
  rfl

@[simp] theorem judge_kept
    (c : Classifier)
    (url : String)
    (kind : LinkKind) :
    (c.judge url kind).kept = c.kinds.permits kind :=
  rfl

theorem not_permits_unsupported
    (f : KindFilter) :
    f.permits .unsupported = false := by
  cases f <;> rfl

/-- Only links of the web are tracked. -/
theorem webOrigin?_of_permits
    {c : Classifier}
    {url : String}
    (h : c.kinds.permits (c.kindOf url) = true) :
    ∃ origin, c.webOrigin? url.toList = some origin := by
  unfold kindOf at h
  split at h
  · rw [not_permits_unsupported] at h
    cases h
  · cases horigin : c.webOrigin? url.toList with
    | none =>
        rw [horigin, not_permits_unsupported] at h
        cases h
    | some origin =>
        exact ⟨origin, rfl⟩

/-- A tracked reference is not blank. -/
theorem trim_ne_nil_of_kept
    {c : Classifier}
    {raw base : String}
    (h : (c.classify raw base).kept = true) :
    trim raw.toList ≠ [] := by
  intro hblank
  rw [classify_of_blank hblank, judge_kept, not_permits_unsupported] at h
  cases h

/--
The judgement on a tracked link is the judgement it came from, against every base, if the site is
one of the web and the first base has no control characters.
-/
theorem classify_url
    {c : Classifier}
    {raw base : String}
    (hsite : IsWebSite c.site.toList)
    (hbase : NoControls base.toList)
    (h : (c.classify raw base).kept = true)
    (base' : String) :
    c.classify (c.classify raw base).url base' = c.classify raw base := by
  have hraw := trim_ne_nil_of_kept h
  rw [classify_of_not_blank hraw, judge_kept] at h
  obtain ⟨origin, horigin⟩ := webOrigin?_of_permits h
  rw [resolveText, String.toList_ofList] at horigin
  have hblank : trim (resolveText raw base c.site).toList ≠ [] := by
    rw [resolveText, String.toList_ofList, Ne, ← isBlankText_iff, isBlankText_resolve hraw]
    simp
  have hagain : resolveText (resolveText raw base c.site) base' c.site =
      resolveText raw base c.site := by
    rw [resolveText, resolveText, String.toList_ofList,
      resolve_resolve hsite hbase hraw horigin]
  rw [classify_of_not_blank hraw, judge_url, classify_of_not_blank hblank, hagain]

end Classifier
end LinkLedger
