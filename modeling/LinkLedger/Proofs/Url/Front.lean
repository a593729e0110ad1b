import LinkLedger.Proofs.Url.Reading
import LinkLedger.Proofs.Url.Scheme

/-!
# The front of a URL

Where a URL of a common scheme leads is written at its front: the scheme with its colon, slashes,
and the authority, which a slash, a backslash or the mark of a query or a fragment ends.  What
follows cannot change it.

**Results.**
* `Parted`: the front of a URL and what follows it.
* `exists_parted`, `Parted.parse_eq`, `Parted.origin`: every URL of a common scheme has a front; it is
  what its parts make, and leads where the front says.
* `Shows`: texts at whose front an authority stands.
* `Shows.origin`: whatever is put behind such a text, with a mark in between, leads to the same
  place or is no URL.
-/

namespace LinkLedger
namespace Url

open Text

/-! ## The parts of a URL -/

/-- Whether a character is one of the slashes in front of an authority. -/
def isSlash (c : Char) : Bool := c = '/' || c = '\\'

/-- A text made of a scheme, its colon, slashes, an authority, and what follows it. -/
structure Parted (name slashes authority back cs : List Char) : Prop where
  text : cs = name ++ ':' :: (slashes ++ (authority ++ back))
  letter : (name.head?.any Char.isAlpha) = true
  name : ∀ c ∈ name, isSchemeChar c = true
  slashes : ∀ c ∈ slashes, isSlash c = true
  nonempty : authority ≠ []
  authority : ∀ c ∈ authority, endsAuthority true c = false
  back : ∀ c, back.head? = some c → endsAuthority true c = true

/-- The origin of a URL by its scheme and the place it leads to. -/
def originAt? (scheme : List Char) (read : Host × Option Nat) : Option Origin :=
  (defaultPort? scheme).map fun implied => ⟨scheme, read.1, read.2.getD implied⟩

@[simp] theorem withTail_authority
    (u : Url)
    (cs : List Char) :
    (withTail u cs).authority = u.authority := by
  unfold withTail
  split <;> rfl

/-- A URL of a common scheme leads to the place that its authority names. -/
theorem origin_of_readBehindSlashes
    {scheme cs : List Char}
    {u : Url}
    (hcommon : isCommon scheme = true)
    (h : readBehindSlashes scheme cs = .ok u) :
    (splitUser (before (endsAuthority true) cs)).2 ≠ [] ∧
      ∃ read, readPlace scheme (splitUser (before (endsAuthority true) cs)).2 = .ok read ∧
        u.ownOrigin? = originAt? scheme read := by
  rw [readBehindSlashes_eq hcommon] at h
  obtain ⟨read, hread, rfl⟩ := exists_of_map_eq_ok h
  refine ⟨fun hnone => ?_, read, hread, ?_⟩
  · rw [hnone, readPlace_nil] at hread
    cases hread
  · rw [urlOf, ownOrigin?, withTail_scheme, withTail_authority, originAt?]
    cases defaultPort? scheme <;> rfl

theorem readBehindSlashes_of_parse
    {cs rest scheme : List Char}
    {u : Url}
    (hsplit : splitScheme? (cleaned cs) = some (scheme, rest))
    (h : parse cs = .ok u)
    (hcommon : isCommon u.scheme = true) :
    u.scheme = scheme ∧ readBehindSlashes scheme (rest.dropWhile isSlash) = .ok u := by
  obtain ⟨rest', hsplit'⟩ := splitScheme?_of_parse h
  rw [hsplit] at hsplit'
  have hscheme : scheme = u.scheme := (Prod.mk.inj (Option.some.inj hsplit')).1
  refine ⟨hscheme.symm, ?_⟩
  unfold parse at h
  rw [hsplit] at h
  change readBehindScheme scheme rest = .ok u at h
  rw [readBehindScheme, if_pos (hscheme ▸ hcommon)] at h
  exact h

/-- A URL of a common scheme has an authority in it. -/
theorem exists_parted
    {cs : List Char}
    {u : Url}
    (h : parse cs = .ok u)
    (hcommon : isCommon u.scheme = true) :
    ∃ name slashes authority back, Parted name slashes authority back (cleaned cs) := by
  obtain ⟨rest, hsplit⟩ := splitScheme?_of_parse h
  obtain ⟨-, hread⟩ := readBehindSlashes_of_parse hsplit h hcommon
  have hplace := (origin_of_readBehindSlashes hcommon hread).1
  unfold splitScheme? at hsplit
  split at hsplit
  · next halpha =>
    split at hsplit
    · next behind hdrop =>
      have hrest : behind = rest := (Prod.mk.inj (Option.some.inj hsplit)).2
      subst hrest
      refine ⟨(cleaned cs).takeWhile isSchemeChar, behind.takeWhile isSlash,
        before (endsAuthority true) (behind.dropWhile isSlash),
        since (endsAuthority true) (behind.dropWhile isSlash), ?_, ?_,
        fun c hc => List.mem_takeWhile_imp hc, fun c hc => List.mem_takeWhile_imp hc, ?_, ?_, ?_⟩
      · rw [before_append_since, List.takeWhile_append_dropWhile, ← hdrop,
          List.takeWhile_append_dropWhile]
      · cases hclean : cleaned cs with
        | nil => rw [hclean] at halpha; cases halpha
        | cons c behind' =>
            rw [hclean] at halpha
            have hc : c.isAlpha = true := halpha
            have hscheme : isSchemeChar c = true := by
              simp [isSchemeChar, Char.isAlphanum, hc]
            rw [List.takeWhile_cons_of_pos hscheme]
            exact hc
      · intro hnil
        rw [hnil] at hplace
        exact hplace rfl
      · intro c hc
        have hkept := List.mem_takeWhile_imp hc
        simpa using hkept
      · intro c hc
        obtain ⟨more, hmore⟩ := List.head?_eq_some_iff.1 hc
        simpa using head_dropWhile hmore
    · cases hsplit
  · cases hsplit

theorem not_isSchemeChar_colon :
    isSchemeChar ':' = false := by
  decide

/-- The scheme that stands at the front. -/
theorem Parted.splitScheme?
    {name slashes authority back cs : List Char}
    (h : Parted name slashes authority back cs) :
    Url.splitScheme? cs = some (name.map Char.toLower, slashes ++ (authority ++ back)) := by
  have hhead : (cs.head?.any Char.isAlpha) = true := by
    have hletter := h.letter
    rw [h.text]
    cases hname : name with
    | nil =>
        rw [hname] at hletter
        cases hletter
    | cons c rest =>
        rw [hname] at hletter
        exact hletter
  have hdrop : cs.dropWhile isSchemeChar = ':' :: (slashes ++ (authority ++ back)) := by
    rw [h.text, dropWhile_append_cons_of_neg not_isSchemeChar_colon,
      dropWhile_eq_nil_of_all h.name, List.nil_append]
  have htake : cs.takeWhile isSchemeChar = name := by
    rw [h.text, List.takeWhile_append_of_pos h.name,
      List.takeWhile_cons_of_neg (by rw [not_isSchemeChar_colon]; exact Bool.false_ne_true),
      List.append_nil]
  rw [Url.splitScheme?, if_pos hhead, hdrop, htake]
  rfl

theorem endsAuthority_of_isSlash
    {c : Char}
    (h : isSlash c = true) :
    endsAuthority true c = true := by
  simp only [isSlash, Bool.or_eq_true, decide_eq_true_eq] at h
  rcases h with rfl | rfl <;> decide

/-- No authority of a common scheme has a backslash. -/
theorem backslash_not_mem
    {authority : List Char}
    (h : ∀ c ∈ authority, endsAuthority true c = false) :
    '\\' ∉ authority := by
  intro hmem
  have hplain := h _ hmem
  revert hplain
  decide

/-- The slashes end at the authority. -/
theorem Parted.dropWhile_isSlash
    {name slashes authority back cs : List Char}
    (h : Parted name slashes authority back cs) :
    (slashes ++ (authority ++ back)).dropWhile isSlash = authority ++ back := by
  rw [List.dropWhile_append_of_pos h.slashes]
  cases hauthority : authority with
  | nil => exact absurd hauthority h.nonempty
  | cons c rest =>
      have hc : isSlash c = false := by
        rw [← Bool.not_eq_true]
        intro hslash
        have hkept := h.authority c (by rw [hauthority]; exact List.mem_cons_self)
        rw [endsAuthority_of_isSlash hslash] at hkept
        cases hkept
      rw [List.cons_append, List.dropWhile_cons_of_neg (by rw [hc]; exact Bool.false_ne_true)]

/-- The authority that stands behind the slashes. -/
theorem Parted.before_dropWhile
    {name slashes authority back cs : List Char}
    (h : Parted name slashes authority back cs) :
    before (endsAuthority true) ((slashes ++ (authority ++ back)).dropWhile isSlash) =
      authority := by
  rw [h.dropWhile_isSlash, before_append h.authority, before_eq_nil h.back, List.append_nil]

/-- What stands behind the authority. -/
theorem Parted.since_dropWhile
    {name slashes authority back cs : List Char}
    (h : Parted name slashes authority back cs) :
    since (endsAuthority true) ((slashes ++ (authority ++ back)).dropWhile isSlash) = back := by
  have hboth := before_append_since (endsAuthority true)
    ((slashes ++ (authority ++ back)).dropWhile isSlash)
  rw [h.before_dropWhile, h.dropWhile_isSlash] at hboth
  rw [h.dropWhile_isSlash]
  exact List.append_cancel_left hboth

/-- A URL of a common scheme is what its parts make. -/
theorem Parted.parse_eq
    {name slashes authority back cs : List Char}
    (h : Parted name slashes authority back (cleaned cs))
    (hcommon : isCommon (name.map Char.toLower) = true) :
    parse cs =
      (readPlace (name.map Char.toLower) (splitUser authority).2).map fun read =>
        urlOf (name.map Char.toLower) (authorityOf (splitUser authority).1 read) back := by
  rw [parse, h.splitScheme?]
  change readBehindScheme _ _ = _
  rw [readBehindScheme, if_pos hcommon]
  change readBehindSlashes _ ((slashes ++ (authority ++ back)).dropWhile isSlash) = _
  rw [readBehindSlashes_eq hcommon, h.before_dropWhile, h.since_dropWhile]

/-- A URL of a common scheme leads where its front says. -/
theorem Parted.origin
    {name slashes authority back cs : List Char}
    {u : Url}
    (hparted : Parted name slashes authority back (cleaned cs))
    (h : parse cs = .ok u)
    (hcommon : isCommon u.scheme = true) :
    ∃ read, readPlace (name.map Char.toLower) (splitUser authority).2 = .ok read ∧
      u.ownOrigin? = originAt? (name.map Char.toLower) read := by
  obtain ⟨hscheme, hread⟩ := readBehindSlashes_of_parse hparted.splitScheme? h hcommon
  obtain ⟨-, read, hplace, horigin⟩ := origin_of_readBehindSlashes (hscheme ▸ hcommon) hread
  rw [hparted.before_dropWhile] at hplace
  exact ⟨read, hplace, horigin⟩

/-! ## Fronts -/

/-- The front of a URL of a common scheme, with the place that it leads to. -/
structure Front where
  name : List Char
  authority : List Char
  read : Host × Option Nat
  plain : ∀ c ∈ authority, endsAuthority true c = false
  nonempty : (splitUser authority).2 ≠ []
  reads : readPlace (name.map Char.toLower) (splitUser authority).2 = .ok read

namespace Front

variable (f : Front)

/-- The origin of the URLs with a front. -/
def origin? : Option Origin := originAt? (f.name.map Char.toLower) f.read

theorem backslash_not_mem_place :
    '\\' ∉ (splitUser f.authority).2 :=
  fun hmem => backslash_not_mem f.plain (splitUser_subset _ hmem)

/-- An authority does not end in a blank. -/
theorem exists_last :
    ∃ front c, f.authority = front ++ [c] ∧ isBlank c = false := by
  obtain ⟨front, c, hplace⟩ := (List.eq_nil_or_concat (splitUser f.authority).2).resolve_left
    f.nonempty
  rw [List.concat_eq_append] at hplace
  have hmem : c ∈ (splitUser f.authority).2 := by simp [hplace]
  have hblank := (notBlank_of_readPlace f.reads f.backslash_not_mem_place hmem).2
  rcases user_cases f.authority with h | ⟨user, place, h, hat⟩
  · rw [splitUser_of_not_mem h] at hplace
    exact ⟨front, c, hplace, hblank⟩
  · rw [h, splitUser_append_cons user hat] at hplace
    refine ⟨user ++ '@' :: front, c, ?_, hblank⟩
    rw [h, hplace]
    simp

theorem authority_ne_nil :
    f.authority ≠ [] := by
  obtain ⟨front, c, h, -⟩ := f.exists_last
  rw [h]
  simp

end Front

/-! ## Texts that show a front -/

/-- A text with a front at which no more than ignored characters follow the authority. -/
def Shows (f : Front) (cs : List Char) : Prop :=
  ∃ slashes blanks back,
    Parted f.name slashes (f.authority ++ blanks) back (opened cs) ∧
      ∀ c ∈ blanks, isEdge c = true

theorem endsAuthority_of_isEdge
    {c : Char}
    (h : isEdge c = true) :
    endsAuthority true c = false := by
  rw [← Bool.not_eq_true]
  intro hends
  simp only [endsAuthority, Bool.true_and, Bool.or_eq_true, decide_eq_true_eq] at hends
  rcases hends with ((rfl | rfl) | rfl) | rfl
  all_goals
    revert h
    decide

theorem exists_trimEndBy_append
    (p : Char → Bool)
    (cs : List Char) :
    ∃ back, cs = trimEndBy p cs ++ back ∧ ∀ c ∈ back, p c = true := by
  refine ⟨(cs.reverse.takeWhile p).reverse, ?_, ?_⟩
  · have hsplit := congrArg List.reverse
      (List.takeWhile_append_dropWhile (p := p) (l := cs.reverse))
    rw [List.reverse_append, List.reverse_reverse] at hsplit
    exact hsplit.symm
  · intro c hc
    exact List.mem_takeWhile_imp (List.mem_reverse.1 hc)

/-- Where nothing follows the authority, ignored characters at the end belong to it. -/
theorem Parted.extend_authority
    {name slashes authority cs edges : List Char}
    (h : Parted name slashes authority [] cs)
    (hedges : ∀ c ∈ edges, isEdge c = true) :
    Parted name slashes (authority ++ edges) [] (cs ++ edges) := by
  refine ⟨?_, h.letter, h.name, h.slashes, ?_, ?_, nofun⟩
  · rw [h.text]
    simp
  · simp [h.nonempty]
  · rw [List.forall_mem_append]
    exact ⟨h.authority, fun c hc => endsAuthority_of_isEdge (hedges c hc)⟩

/-- Where something follows the authority, so does text at the end. -/
theorem Parted.extend_back
    {name slashes authority back cs : List Char}
    {c : Char}
    (h : Parted name slashes authority (c :: back) cs)
    (more : List Char) :
    Parted name slashes authority (c :: back ++ more) (cs ++ more) := by
  refine ⟨?_, h.letter, h.name, h.slashes, h.nonempty, h.authority, h.back⟩
  rw [h.text]
  simp

/-- Ignored characters at the end belong to the authority, or to what follows it. -/
theorem Parted.append_edges
    {name slashes authority back cs edges : List Char}
    (h : Parted name slashes authority back cs)
    (hedges : ∀ c ∈ edges, isEdge c = true) :
    ∃ blanks back', Parted name slashes (authority ++ blanks) back' (cs ++ edges) ∧
      ∀ c ∈ blanks, isEdge c = true := by
  cases back with
  | nil => exact ⟨edges, [], h.extend_authority hedges, hedges⟩
  | cons c rest =>
      refine ⟨[], c :: rest ++ edges, ?_, nofun⟩
      rw [List.append_nil]
      exact h.extend_back edges

/-- A URL of a common scheme shows the front that says where it leads. -/
theorem exists_shows
    {cs : List Char}
    {u : Url}
    (h : parse cs = .ok u)
    (hcommon : isCommon u.scheme = true) :
    ∃ f : Front, Shows f cs ∧ u.ownOrigin? = f.origin? := by
  obtain ⟨name, slashes, authority, back, hparted⟩ := exists_parted h hcommon
  obtain ⟨read, hreads, horigin⟩ := hparted.origin h hcommon
  have hplace : (splitUser authority).2 ≠ [] := by
    obtain ⟨hscheme, hread⟩ := readBehindSlashes_of_parse hparted.splitScheme? h hcommon
    have hplace := (origin_of_readBehindSlashes (hscheme ▸ hcommon) hread).1
    rwa [hparted.before_dropWhile] at hplace
  refine ⟨⟨name, authority, read, hparted.authority, hplace, hreads⟩, ?_, horigin⟩
  obtain ⟨edges, hedges, hall⟩ := exists_trimEndBy_append isEdge (cs.dropWhile isEdge)
  have hopened : opened cs = cleaned cs ++ edges.filter fun c => !isLineBreakOrTab c := by
    rw [opened, cleaned, ← List.filter_append, ← hedges]
  obtain ⟨blanks, back', hlonger, hblanks⟩ := hparted.append_edges
    fun c hc => hall c (List.mem_filter.1 hc).1
  rw [← hopened] at hlonger
  exact ⟨slashes, blanks, back', hlonger, hblanks⟩

/-- Text may be cut off behind the authority. -/
theorem Shows.of_opened
    {f : Front}
    {cs cs' : List Char}
    (h : Shows f cs)
    (hcut : opened cs' <+: opened cs)
    (hfront : ∀ slashes, (f.name ++ ':' :: (slashes ++ f.authority)) <+: opened cs →
      (∀ c ∈ slashes, isSlash c = true) →
      (f.name ++ ':' :: (slashes ++ f.authority)) <+: opened cs') :
    Shows f cs' := by
  obtain ⟨slashes, blanks, back, hparted, hblanks⟩ := h
  have htext : opened cs = f.name ++ ':' :: (slashes ++ f.authority) ++ (blanks ++ back) := by
    rw [hparted.text]
    simp
  obtain ⟨behind, hbehind⟩ := hfront slashes ⟨_, htext.symm⟩ hparted.slashes
  obtain ⟨cut, hcut⟩ := hcut
  rw [htext, ← hbehind, List.append_assoc] at hcut
  rcases List.append_eq_append_iff.1 (List.append_cancel_left hcut) with
    ⟨rest, rfl, -⟩ | ⟨back', rfl, rfl⟩
  · refine ⟨slashes, behind, [], ⟨?_, hparted.letter, hparted.name, hparted.slashes, ?_, ?_, ?_⟩,
      fun c hc => hblanks c (List.mem_append_left _ hc)⟩
    · rw [← hbehind]
      simp
    · simp [f.authority_ne_nil]
    · intro c hc
      refine hparted.authority c ?_
      rw [← List.append_assoc]
      exact List.mem_append_left _ hc
    · nofun
  · refine ⟨slashes, blanks, back', ⟨?_, hparted.letter, hparted.name, hparted.slashes,
      hparted.nonempty, hparted.authority, ?_⟩, hblanks⟩
    · rw [← hbehind]
      simp
    · intro c hc
      refine hparted.back c ?_
      rw [List.head?_append, hc]
      rfl

/-- More text, with a mark in front, follows the authority. -/
theorem Parted.append_cons
    {name slashes authority back cs : List Char}
    {stop : Char}
    (h : Parted name slashes authority back cs)
    (hstop : endsAuthority true stop = true)
    (more : List Char) :
    Parted name slashes authority (back ++ stop :: more) (cs ++ stop :: more) := by
  refine ⟨?_, h.letter, h.name, h.slashes, h.nonempty, h.authority, ?_⟩
  · rw [h.text]
    simp
  · intro c hc
    cases back with
    | nil =>
        rw [← Option.some.inj hc]
        exact hstop
    | cons d back => exact h.back c hc

/-- Text may be added behind a slash. -/
theorem Shows.append
    {f : Front}
    {cs : List Char}
    (h : Shows f cs)
    (more : List Char) :
    Shows f (cs ++ '/' :: more) := by
  obtain ⟨slashes, blanks, back, hparted, hblanks⟩ := h
  have hlonger := hparted.append_cons (by decide : endsAuthority true '/' = true)
    (more.filter fun c => !isLineBreakOrTab c)
  rw [← opened_append_cons (by decide)] at hlonger
  exact ⟨slashes, blanks, _, hlonger, hblanks⟩

end Url
end LinkLedger
