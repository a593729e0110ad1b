import LinkLedger.Proofs.Url.Continued
import LinkLedger.Proofs.Url.Encoded

/-!
# Spaces that are written as octets

Inside of a URL a space may as well be written by its octet: no host has one, and in all other parts
it is encoded the same way.  Outside, among the characters that URLs ignore, it must not: an octet is
not ignored, so it is in the way of the scheme, or it belongs to the last part.

**Results.**
* `percentEncode_replaceChar`, `authorityOf_replaceChar`, `urlOf_replaceChar`: the parts of a URL.
* `Edged`: a text with the ignored characters around it; `Edged.cleaned_replaceChar`: what is left of
  it if its spaces are written as octets.
* `parse_replaceChar`: a URL without spaces around it is read as before.
-/

namespace LinkLedger
namespace Url

open Text

/-! ## Encoded parts -/

theorem percentEncode_append
    (p : Char → Bool)
    (front back : List Char) :
    percentEncode p (front ++ back) = percentEncode p front ++ percentEncode p back :=
  List.flatMap_append

theorem percentEncode_eq_self
    {p : Char → Bool}
    {cs : List Char}
    (h : ∀ c ∈ cs, c.toNat < 128 ∧ p c = false) :
    percentEncode p cs = cs := by
  induction cs with
  | nil => rfl
  | cons c cs ih =>
      rw [List.forall_mem_cons] at h
      have hplain : ¬ (128 ≤ c.toNat ∨ p c = true) := by
        rw [h.1.2, not_or]
        exact ⟨Nat.not_le.2 h.1.1, Bool.false_ne_true⟩
      rw [percentEncode, List.flatMap_cons, if_neg hplain]
      exact congrArg (c :: ·) (ih h.2)

/-- Where spaces are encoded, they may be encoded beforehand. -/
theorem percentEncode_replaceChar
    {p : Char → Bool}
    (hspace : p ' ' = true)
    (hspares : Spares p)
    (cs : List Char) :
    percentEncode p (replaceChar ' ' "%20".toList cs) = percentEncode p cs := by
  have hcode : percentEncode p "%20".toList = "%20".toList := by
    have hmem : ∀ c ∈ "%20".toList, c ∈ "%0123456789ABCDEF".toList ∧ c.toNat < 128 := by simp
    exact percentEncode_eq_self fun c hc => ⟨(hmem c hc).2, hspares c (hmem c hc).1⟩
  induction cs with
  | nil => rfl
  | cons c cs ih =>
      rw [← List.singleton_append, replaceChar_append, percentEncode_append, percentEncode_append,
        ih]
      congr 1
      by_cases hc : c = ' '
      · subst hc
        change percentEncode p "%20".toList = _
        rw [hcode, percentEncode, List.flatMap_singleton, if_pos (Or.inr hspace)]
        decide
      · rw [replaceChar_cons_of_ne hc]
        rfl

section Cuts

variable {p : Char → Bool}

/-- A cut at characters that neither spaces nor their octets have is made in the same place. -/
theorem takeWhile_replaceChar
    (hkept : " %20".toList.all p = true)
    (cs : List Char) :
    (replaceChar ' ' "%20".toList cs).takeWhile p =
      replaceChar ' ' "%20".toList (cs.takeWhile p) := by
  induction cs with
  | nil => rfl
  | cons c cs ih =>
      by_cases hc : c = ' '
      · subst hc
        have hspace : p ' ' = true := List.all_eq_true.1 hkept ' ' List.mem_cons_self
        have hcode : ∀ d ∈ "%20".toList, p d = true :=
          fun d hd => List.all_eq_true.1 hkept d (List.mem_cons_of_mem _ hd)
        change ("%20".toList ++ replaceChar ' ' "%20".toList cs).takeWhile p = _
        rw [List.takeWhile_append_of_pos hcode, ih, List.takeWhile_cons_of_pos hspace]
        rfl
      · rw [replaceChar_cons_of_ne hc, List.takeWhile_cons, List.takeWhile_cons, ih]
        split
        · rw [replaceChar_cons_of_ne hc]
        · rfl

theorem dropWhile_replaceChar
    (hkept : " %20".toList.all p = true)
    (cs : List Char) :
    (replaceChar ' ' "%20".toList cs).dropWhile p =
      replaceChar ' ' "%20".toList (cs.dropWhile p) := by
  have hboth := List.takeWhile_append_dropWhile (p := p) (l := replaceChar ' ' "%20".toList cs)
  conv at hboth =>
    rhs
    rw [← List.takeWhile_append_dropWhile (p := p) (l := cs), replaceChar_append]
  rw [takeWhile_replaceChar hkept] at hboth
  exact List.append_cancel_left hboth

end Cuts

/-- The authority that a user with spaces makes. -/
theorem authorityOf_replaceChar
    (user : Option (List Char))
    (read : Host × Option Nat) :
    authorityOf (user.map (replaceChar ' ' "%20".toList)) read = authorityOf user read := by
  have hnames : (user.map (replaceChar ' ' "%20".toList)).getD [] =
      replaceChar ' ' "%20".toList (user.getD []) := by
    cases user <;> rfl
  have hdrop : ∀ names : List Char, names.drop ((names.takeWhile (· != ':')).length + 1) =
      (names.dropWhile (· != ':')).drop 1 := by
    intro names
    rw [← List.drop_drop, drop_length_takeWhile]
  have hword : ∀ cs : List Char, (replaceChar ' ' "%20".toList (cs.dropWhile (· != ':'))).drop 1 =
      replaceChar ' ' "%20".toList ((cs.dropWhile (· != ':')).drop 1) := by
    intro cs
    cases hcs : cs.dropWhile (· != ':') with
    | nil => rfl
    | cons c rest =>
        have hc : c ≠ ' ' := by
          rintro rfl
          exact absurd (head_dropWhile hcs) (by decide)
        rw [replaceChar_cons_of_ne hc]
        rfl
  have hkept : " %20".toList.all (· != ':') = true := by decide
  rw [authorityOf, authorityOf, hnames, hdrop, hdrop, takeWhile_replaceChar hkept,
    dropWhile_replaceChar hkept, hword, percentEncode_replaceChar (by decide) (by decide),
    percentEncode_replaceChar (by decide) (by decide)]

/-! ## Paths and tails -/

theorem splitOn_replaceChar
    (cs : List Char) :
    (replaceChar ' ' "%20".toList cs).splitOn '/' =
      (cs.splitOn '/').map (replaceChar ' ' "%20".toList) := by
  induction cs with
  | nil => rfl
  | cons c cs ih =>
      cases hcs : cs.splitOn '/' with
      | nil => exact absurd hcs (List.splitOn_ne_nil _ _)
      | cons segment segments =>
          rw [hcs] at ih
          by_cases hc : c = ' '
          · subst hc
            change ('%' :: '2' :: '0' :: replaceChar ' ' "%20".toList cs).splitOn '/' = _
            simp only [List.splitOn_cons_eq_if_modifyHead, ih, hcs]
            rfl
          · rw [replaceChar_cons_of_ne hc, List.splitOn_cons_eq_if_modifyHead,
              List.splitOn_cons_eq_if_modifyHead, ih, hcs]
            split
            · rfl
            · rw [List.map_cons, List.modifyHead_cons, List.modifyHead_cons, List.map_cons,
                replaceChar_cons_of_ne hc]

theorem segmentsOf_replaceChar
    (cs : List Char) :
    segmentsOf true (replaceChar ' ' "%20".toList cs) =
      (segmentsOf true cs).map (replaceChar ' ' "%20".toList) := by
  have hmap : (replaceChar ' ' "%20".toList cs).map (fun c => if c = '\\' then '/' else c) =
      replaceChar ' ' "%20".toList (cs.map fun c => if c = '\\' then '/' else c) := by
    induction cs with
    | nil => rfl
    | cons c cs ih =>
        by_cases hc : c = ' '
        · subst hc
          exact congrArg ("%20".toList ++ ·) ih
        · have hc' : (if c = '\\' then '/' else c) ≠ ' ' := by
            split
            · decide
            · exact hc
          rw [replaceChar_cons_of_ne hc, List.map_cons, List.map_cons, replaceChar_cons_of_ne hc',
            ih]
  rw [segmentsOf, segmentsOf, if_pos rfl, if_pos rfl, hmap, splitOn_replaceChar]

/-- The path that segments with spaces make. -/
theorem joinPath_replaceChar
    {scheme : List Char}
    (hcommon : isCommon scheme = true)
    (above : List (List Char))
    (cs : List Char) :
    joinPath scheme above (replaceChar ' ' "%20".toList cs) = joinPath scheme above cs := by
  have hencode : (percentEncode inPath ∘ replaceChar ' ' "%20".toList) = percentEncode inPath :=
    funext fun segment => percentEncode_replaceChar (by decide) (by decide) segment
  rw [joinPath_eq hcommon, joinPath_eq hcommon, segmentsOf_replaceChar, List.map_map, hencode]

theorem pathBehindHost_replaceChar
    {scheme : List Char}
    (hcommon : isCommon scheme = true)
    (cs : List Char) :
    pathBehindHost scheme (replaceChar ' ' "%20".toList cs) = pathBehindHost scheme cs := by
  have hplain : ∀ (c : Char) (rest : List Char), c ≠ '/' → c ≠ '\\' →
      pathBehindHost scheme (c :: rest) = joinPath scheme [] (c :: rest) := by
    intro c rest hslash hback
    rw [pathBehindHost, if_neg]
    exact fun hc => hc.elim hslash fun hc => hback hc.2
  cases cs with
  | nil => rfl
  | cons c rest =>
      by_cases hc : c = ' '
      · subst hc
        rw [hplain ' ' rest (by decide) (by decide), ← joinPath_replaceChar hcommon]
        exact hplain '%' _ (by decide) (by decide)
      · have hwhole := joinPath_replaceChar hcommon [] (c :: rest)
        rw [replaceChar_cons_of_ne hc] at hwhole ⊢
        rw [pathBehindHost, pathBehindHost, hwhole, joinPath_replaceChar hcommon]

/-- The fragment that a text with spaces has. -/
theorem since_replaceChar
    (p : Char → Bool)
    (hkept : " %20".toList.all (fun c => !p c) = true)
    (cs : List Char) :
    since p (replaceChar ' ' "%20".toList cs) = replaceChar ' ' "%20".toList (since p cs) :=
  dropWhile_replaceChar hkept cs

theorem before_replaceChar
    (p : Char → Bool)
    (hkept : " %20".toList.all (fun c => !p c) = true)
    (cs : List Char) :
    before p (replaceChar ' ' "%20".toList cs) = replaceChar ' ' "%20".toList (before p cs) :=
  takeWhile_replaceChar hkept cs

theorem queryOf_replaceChar
    (special : Bool)
    (cs : List Char) :
    queryOf special (replaceChar ' ' "%20".toList cs) = queryOf special cs := by
  rw [queryOf, before_replaceChar _ (by decide)]
  cases special <;> exact percentEncode_replaceChar (by decide) (by decide) _

theorem fragmentOf?_replaceChar
    (cs : List Char) :
    fragmentOf? (replaceChar ' ' "%20".toList cs) = fragmentOf? cs := by
  rw [fragmentOf?, since_replaceChar _ (by decide), fragmentOf?]
  cases hsince : since (· == '#') cs with
  | nil => rfl
  | cons c rest =>
      have hc : c ≠ ' ' := by
        rintro rfl
        exact absurd (head_dropWhile hsince) (by decide)
      rw [replaceChar_cons_of_ne hc]
      exact congrArg some (percentEncode_replaceChar (by decide) (by decide) rest)

/-- A tail that has no mark of a query in front has at most a fragment. -/
theorem withTail_of_head?_ne
    (u : Url)
    {cs : List Char}
    (h : cs.head? ≠ some '?') :
    withTail u cs = { u with query := none, fragment := fragmentOf? cs } := by
  unfold withTail
  split
  · exact absurd rfl h
  · rfl

theorem withTail_replaceChar
    (u : Url)
    (cs : List Char) :
    withTail u (replaceChar ' ' "%20".toList cs) = withTail u cs := by
  by_cases hmark : cs.head? = some '?'
  · obtain ⟨rest, rfl⟩ := List.head?_eq_some_iff.1 hmark
    rw [replaceChar_cons_of_ne (by decide), withTail, withTail, queryOf_replaceChar,
      fragmentOf?_replaceChar]
  · have hmark' : (replaceChar ' ' "%20".toList cs).head? ≠ some '?' := by
      cases cs with
      | nil => exact hmark
      | cons c rest =>
          by_cases hc : c = ' '
          · subst hc
            exact fun heq => absurd (Option.some.inj heq : '%' = '?') (by decide)
          · rwa [replaceChar_cons_of_ne hc]
    rw [withTail_of_head?_ne u hmark', withTail_of_head?_ne u hmark, fragmentOf?_replaceChar]

theorem urlOf_replaceChar
    {scheme : List Char}
    (hcommon : isCommon scheme = true)
    (authority : Authority)
    (back : List Char) :
    urlOf scheme authority (replaceChar ' ' "%20".toList back) = urlOf scheme authority back := by
  rw [urlOf, urlOf, before_replaceChar _ (by decide), since_replaceChar _ (by decide),
    pathBehindHost_replaceChar hcommon, withTail_replaceChar]

/-! ## Ignored characters -/

/-- A text with what URLs ignore in front of it and behind it. -/
structure Edged (lead body tail cs : List Char) : Prop where
  text : cs = lead ++ (body ++ tail)
  lead : ∀ c ∈ lead, isEdge c = true
  tail : ∀ c ∈ tail, isEdge c = true
  starts : ∃ c rest, body = c :: rest ∧ isEdge c = false
  stops : ∃ front c, body = front ++ [c] ∧ isEdge c = false

variable {lead body tail cs : List Char}

theorem Edged.dropWhile
    (h : Edged lead body tail cs) :
    cs.dropWhile isEdge = body ++ tail := by
  obtain ⟨c, rest, hbody, hc⟩ := h.starts
  rw [h.text, List.dropWhile_append_of_pos h.lead, hbody, List.cons_append,
    List.dropWhile_cons_of_neg (by rw [hc]; exact Bool.false_ne_true)]

theorem Edged.takeWhile
    (h : Edged lead body tail cs) :
    cs.takeWhile isEdge = lead := by
  have hboth := List.takeWhile_append_dropWhile (p := isEdge) (l := cs)
  rw [h.dropWhile] at hboth
  conv at hboth => rhs; rw [h.text]
  exact List.append_cancel_right hboth

theorem Edged.takeWhile_reverse
    (h : Edged lead body tail cs) :
    cs.reverse.takeWhile isEdge = tail.reverse := by
  obtain ⟨front, c, hbody, hc⟩ := h.stops
  have htail : ∀ d ∈ tail.reverse, isEdge d = true := fun d hd => h.tail d (List.mem_reverse.1 hd)
  have hreverse : cs.reverse = tail.reverse ++ c :: (front.reverse ++ lead.reverse) := by
    rw [h.text, hbody]
    simp
  rw [hreverse, List.takeWhile_append_of_pos htail,
    List.takeWhile_cons_of_neg (by rw [hc]; exact Bool.false_ne_true), List.append_nil]

/-- What is left of a text. -/
theorem Edged.cleaned
    (h : Edged lead body tail cs) :
    Url.cleaned cs = body.filter fun c => !isLineBreakOrTab c := by
  obtain ⟨front, c, hbody, hc⟩ := h.stops
  have htail : trimEndBy isEdge (body ++ tail) = body := by
    have hnone : trimEndBy isEdge tail = [] := by
      have hall : ∀ d ∈ tail.reverse, isEdge d = true :=
        fun d hd => h.tail d (List.mem_reverse.1 hd)
      rw [trimEndBy, dropWhile_eq_nil_of_all hall, List.reverse_nil]
    rw [hbody, List.append_assoc, List.singleton_append, trimEndBy_append_cons_of_neg hc, hnone]
  rw [Url.cleaned, h.dropWhile, htail]

/-- A text with anything but ignored characters in it. -/
theorem exists_edged
    (h : Url.cleaned cs ≠ []) :
    ∃ lead body tail, Edged lead body tail cs := by
  obtain ⟨tail, htail, hall⟩ := exists_trimEndBy_append isEdge (cs.dropWhile isEdge)
  refine ⟨cs.takeWhile isEdge, trimEndBy isEdge (cs.dropWhile isEdge), tail, ?_,
    fun c hc => List.mem_takeWhile_imp hc, hall, ?_, ?_⟩
  · rw [← htail, List.takeWhile_append_dropWhile]
  · cases hdrop : cs.dropWhile isEdge with
    | nil =>
        rw [Url.cleaned, hdrop] at h
        exact absurd rfl h
    | cons c rest =>
        have hc := head_dropWhile hdrop
        exact ⟨c, _, trimEndBy_cons_of_neg hc rest, hc⟩
  · cases hdrop : (cs.dropWhile isEdge).reverse.dropWhile isEdge with
    | nil =>
        rw [Url.cleaned, trimEndBy, hdrop] at h
        exact absurd rfl h
    | cons c rest =>
        refine ⟨rest.reverse, c, ?_, head_dropWhile hdrop⟩
        rw [trimEndBy, hdrop, List.reverse_cons]

/-- Written with octets for its spaces, a text goes on up to the last space that was ignored behind
it. -/
theorem Edged.spacesAsOctets
    {more back : List Char}
    (h : Edged lead body (more ++ back) cs)
    (hlead : ' ' ∉ lead)
    (hback : ' ' ∉ back)
    (hmore : more = [] ∨ ∃ front, more = front ++ [' ']) :
    Edged lead (replaceChar ' ' "%20".toList (body ++ more)) back
      (replaceChar ' ' "%20".toList cs) := by
  have hne : ∀ {d : Char}, isEdge d = false → d ≠ ' ' := by
    rintro d hd rfl
    revert hd
    decide
  refine ⟨?_, h.lead, fun d hd => h.tail d (List.mem_append_right more hd), ?_, ?_⟩
  · rw [h.text, replaceChar_append, replaceChar_of_not_mem hlead, ← List.append_assoc body,
      replaceChar_append, replaceChar_of_not_mem hback]
  · obtain ⟨c, rest, rfl, hc⟩ := h.starts
    exact ⟨c, _, replaceChar_cons_of_ne (hne hc) _ (rest ++ more), hc⟩
  · rcases hmore with rfl | ⟨front, rfl⟩
    · obtain ⟨front, d, rfl, hd⟩ := h.stops
      refine ⟨replaceChar ' ' "%20".toList front, d, ?_, hd⟩
      rw [List.append_nil, replaceChar_append, replaceChar_cons_of_ne (hne hd)]
      rfl
    · refine ⟨replaceChar ' ' "%20".toList (body ++ front) ++ "%2".toList, '0', ?_, by decide⟩
      rw [← List.append_assoc, replaceChar_append, List.append_assoc]
      rfl

/-- What is left of a text if its spaces are written as octets: spaces behind it are not ignored any
more, and neither is anything in front of the last of them. -/
theorem Edged.cleaned_replaceChar
    (h : Edged lead body tail cs)
    (hlead : ' ' ∉ lead) :
    ∃ more, Url.cleaned (replaceChar ' ' "%20".toList cs) =
        replaceChar ' ' "%20".toList (Url.cleaned cs ++ more) ∧
      (∀ c ∈ more, isEdge c = true) ∧
      (more = [] ∧ ' ' ∉ tail ∨ ' ' ∈ tail ∧ ∃ front, more = front ++ [' ']) := by
  by_cases hspace : ' ' ∈ tail
  · obtain ⟨front, back, rfl, hback⟩ := exists_last_of_mem hspace
    rw [List.append_cons] at h
    have hedged := h.spacesAsOctets hlead hback (Or.inr ⟨front, rfl⟩)
    refine ⟨(front ++ [' ']).filter fun d => !isLineBreakOrTab d, ?_, fun d hd => ?_,
      Or.inr ⟨hspace, front.filter fun d => !isLineBreakOrTab d, ?_⟩⟩
    · rw [hedged.cleaned, h.cleaned, filter_replaceChar, List.filter_append]
    · exact h.tail d (List.mem_append_left back (List.mem_filter.1 hd).1)
    · rw [List.filter_append]
      rfl
  · have hwhole : Edged lead body ([] ++ tail) cs := h
    have hedged := hwhole.spacesAsOctets hlead hspace (Or.inl rfl)
    refine ⟨[], ?_, by simp, Or.inl ⟨rfl, hspace⟩⟩
    rw [hedged.cleaned, h.cleaned, filter_replaceChar, List.append_nil, List.append_nil]

/-! ## Reading -/

/-- What URLs ignore in front of a text has a space in it. -/
def SpaceInFront (cs : List Char) : Prop := ' ' ∈ cs.takeWhile isEdge

/-- What URLs ignore behind a text has a space in it. -/
def SpaceBehind (cs : List Char) : Prop := ' ' ∈ cs.reverse.takeWhile isEdge

instance (cs : List Char) : Decidable (SpaceInFront cs) :=
  inferInstanceAs (Decidable (' ' ∈ cs.takeWhile isEdge))

instance (cs : List Char) : Decidable (SpaceBehind cs) :=
  inferInstanceAs (Decidable (' ' ∈ cs.reverse.takeWhile isEdge))

/-- Where an authority is read, it has no spaces in its place, and its user may have them. -/
theorem readPlace_replaceChar
    {scheme authority : List Char}
    {read : Host × Option Nat}
    (hread : readPlace scheme (splitUser authority).2 = .ok read)
    (hback : '\\' ∉ authority) :
    readPlace scheme (splitUser (replaceChar ' ' "%20".toList authority)).2 = .ok read := by
  have hspace : ' ' ∉ (splitUser authority).2 := by
    intro hmem
    have hblank := (notBlank_of_readPlace hread (fun h => hback (splitUser_subset _ h)) hmem).1
    revert hblank
    decide
  rw [splitUser_replaceChar]
  dsimp only
  rw [replaceChar_of_not_mem hspace, hread]

/-- A URL of a common scheme with its parts and its surroundings. -/
theorem exists_parted_edged
    {cs : List Char}
    {u : Url}
    (h : parse cs = .ok u)
    (hcommon : isCommon u.scheme = true) :
    ∃ name slashes authority back read lead body tail,
      Parted name slashes authority back (Url.cleaned cs) ∧
      Edged lead body tail cs ∧
      isCommon (name.map Char.toLower) = true ∧
      readPlace (name.map Char.toLower) (splitUser authority).2 = .ok read ∧
      u = urlOf (name.map Char.toLower) (authorityOf (splitUser authority).1 read) back := by
  obtain ⟨name, slashes, authority, back, hparted⟩ := exists_parted h hcommon
  have hscheme := (readBehindSlashes_of_parse hparted.splitScheme? h hcommon).1
  rw [hscheme] at hcommon
  rw [hparted.parse_eq hcommon] at h
  obtain ⟨read, hread, hu⟩ := exists_of_map_eq_ok h
  have hne : Url.cleaned cs ≠ [] := by simp [hparted.text]
  obtain ⟨lead, body, tail, hedged⟩ := exists_edged hne
  exact ⟨name, slashes, authority, back, read, lead, body, tail, hparted, hedged, hcommon, hread,
    hu⟩

/-- A URL of a common scheme without spaces around it is read as before if its spaces are written as
octets. -/
theorem parse_replaceChar
    {cs : List Char}
    {u : Url}
    (h : parse cs = .ok u)
    (hcommon : isCommon u.scheme = true)
    (hfront : ¬ SpaceInFront cs)
    (hbehind : ¬ SpaceBehind cs) :
    parse (replaceChar ' ' "%20".toList cs) = .ok u := by
  obtain ⟨name, slashes, authority, back, read, lead, body, tail, hparted, hedged, hname, hread,
    rfl⟩ := exists_parted_edged h hcommon
  rw [SpaceInFront, hedged.takeWhile] at hfront
  rw [SpaceBehind, hedged.takeWhile_reverse, List.mem_reverse] at hbehind
  obtain ⟨more, hclean, -, ⟨rfl, -⟩ | ⟨hspace, -⟩⟩ := hedged.cleaned_replaceChar hfront
  · have hparted' := hparted.replaceChar
    rw [List.append_nil] at hclean
    rw [← hclean] at hparted'
    rw [hparted'.parse_eq hname, readPlace_replaceChar hread (backslash_not_mem hparted.authority)]
    refine congrArg Except.ok ?_
    rw [splitUser_replaceChar]
    dsimp only
    rw [authorityOf_replaceChar, urlOf_replaceChar hname]
  · exact absurd hspace hbehind

/-- A text with a space in front is no URL if the space is written as an octet. -/
theorem not_spaceInFront_of_parse
    {cs : List Char}
    {u : Url}
    (h : parse (replaceChar ' ' "%20".toList cs) = .ok u) :
    ¬ SpaceInFront cs := by
  rw [← List.takeWhile_append_dropWhile (p := isEdge) (l := cs)] at h
  exact space_not_mem_of_parse (fun c hc => List.mem_takeWhile_imp hc) h

end Url
end LinkLedger
