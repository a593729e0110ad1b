import LinkLedger.Proofs.Url.Front

/-!
# Texts put behind the front of a URL

A text that shows a front may be trimmed, and cut at the marks of queries and fragments and at the
first slash behind its authority.  The front stays, and with it the place that every URL leads to
that continues the text.

**Results.**
* `Shows.trim`, `Shows.before`, `Shows.root`: what does not touch the front.
* `Shows.origin`: the origin of the URLs that continue a text.
-/

namespace LinkLedger
namespace Url

open Text

variable {f : Front} {cs : List Char}

/-! ## The start of a text -/

/-- A text that shows a front has a letter behind ignored characters. -/
theorem Shows.exists_letter
    (h : Shows f cs) :
    ∃ edges c rest, cs = edges ++ c :: rest ∧ (∀ d ∈ edges, isEdge d = true) ∧
      isEdge c = false ∧ c.isAlpha = true := by
  obtain ⟨slashes, blanks, back, hparted, -⟩ := h
  have hletter : ((opened cs).head?.any Char.isAlpha) = true := by
    have hname := hparted.letter
    rw [hparted.text]
    cases hcases : f.name with
    | nil =>
        rw [hcases] at hname
        cases hname
    | cons c rest =>
        rw [hcases] at hname
        exact hname
  have hsplit := List.takeWhile_append_dropWhile (p := isEdge) (l := cs)
  cases hdrop : cs.dropWhile isEdge with
  | nil =>
      rw [opened, hdrop] at hletter
      cases hletter
  | cons c rest =>
      have hc := head_dropWhile hdrop
      rw [opened, hdrop, filter_cons_of_isEdge_eq_false hc] at hletter
      rw [hdrop] at hsplit
      exact ⟨_, c, rest, hsplit.symm, fun d hd => List.mem_takeWhile_imp hd, hc, hletter⟩

theorem opened_of_letter
    {edges rest : List Char}
    {c : Char}
    (hedges : ∀ d ∈ edges, isEdge d = true)
    (hc : isEdge c = false) :
    opened (edges ++ c :: rest) = c :: rest.filter fun d => !isLineBreakOrTab d := by
  rw [opened_append_cons hc, opened_of_isEdge hedges, List.nil_append]

/-- A front ends in a character that no trimming removes. -/
theorem prefix_of_prefix_append
    {front cs blanks : List Char}
    {c : Char}
    (hc : isBlank c = false)
    (hblanks : ∀ d ∈ blanks, isBlank d = true)
    (h : front ++ [c] <+: cs ++ blanks) :
    front ++ [c] <+: cs := by
  obtain ⟨back, hback⟩ := h
  rcases List.append_eq_append_iff.1 hback with ⟨rest, hrest, -⟩ | ⟨rest, hrest, hcut⟩
  · exact ⟨rest, hrest.symm⟩
  · rcases List.eq_nil_or_concat rest with rfl | ⟨more, d, rfl⟩
    · rw [List.append_nil] at hrest
      exact ⟨[], by rw [List.append_nil, hrest]⟩
    · rw [List.concat_eq_append, ← List.append_assoc] at hrest
      have hlast : c = d := by simpa using (List.append_inj' hrest rfl).2
      have hmem : c ∈ blanks := by
        rw [hcut, hlast]
        simp
      rw [hblanks c hmem] at hc
      cases hc

/-- Trimming leaves a front as it is. -/
theorem Shows.trim
    (h : Shows f cs) :
    Shows f (Text.trim cs) := by
  obtain ⟨edges, c, rest, hcs, hedges, hc, hletter⟩ := h.exists_letter
  have hblank := isBlank_eq_false_of_isAlpha hletter
  have htrim : Text.trim cs = edges.dropWhile isBlank ++ c :: trimEndBy isBlank rest := by
    rw [Text.trim, hcs, dropWhile_append_cons_of_neg hblank, trimEndBy_append_cons_of_neg hblank]
  obtain ⟨blanks, hrest, hblanks⟩ := exists_trimEndBy_append isBlank rest
  have hopened : opened cs =
      opened (Text.trim cs) ++ blanks.filter fun d => !isLineBreakOrTab d := by
    rw [htrim, opened_of_letter (fun d hd => hedges d ((List.dropWhile_sublist _).mem hd)) hc, hcs,
      opened_of_letter hedges hc, List.cons_append, ← List.filter_append, ← hrest]
  refine h.of_opened ⟨_, hopened.symm⟩ fun slashes hfront _ => ?_
  obtain ⟨front, d, hauthority, hd⟩ := f.exists_last
  have hlast : f.name ++ ':' :: (slashes ++ f.authority) =
      f.name ++ ':' :: (slashes ++ front) ++ [d] := by
    rw [hauthority]
    simp
  rw [hopened, hlast] at hfront
  rw [hlast]
  exact prefix_of_prefix_append hd (fun e he => hblanks e (List.mem_filter.1 he).1) hfront

/-! ## Cuts at marks -/

theorem filter_before
    {p : Char → Bool}
    (hp : ∀ c, isLineBreakOrTab c = true → p c = false)
    (cs : List Char) :
    (before p cs).filter (fun c => !isLineBreakOrTab c) =
      before p (cs.filter fun c => !isLineBreakOrTab c) := by
  induction cs with
  | nil => rfl
  | cons c cs ih =>
      by_cases hbreak : isLineBreakOrTab c = true
      · have hstart : before p (c :: cs) = c :: before p cs :=
          List.takeWhile_cons_of_pos (by rw [hp c hbreak]; rfl)
        have hdrop : ∀ rest : List Char, (c :: rest).filter (fun d => !isLineBreakOrTab d) =
            rest.filter fun d => !isLineBreakOrTab d :=
          fun rest => List.filter_cons_of_neg (by rw [hbreak]; exact Bool.false_ne_true)
        rw [hstart, hdrop, hdrop, ih]
      · have hkeep : ∀ rest : List Char, (c :: rest).filter (fun d => !isLineBreakOrTab d) =
            c :: rest.filter fun d => !isLineBreakOrTab d :=
          fun rest => List.filter_cons_of_pos (by simp [hbreak])
        by_cases hc : p c = true
        · have hnil : ∀ rest, before p (c :: rest) = [] :=
            fun rest => List.takeWhile_cons_of_neg (by rw [hc]; exact Bool.false_ne_true)
          rw [hkeep, hnil, hnil]
          rfl
        · have hstart : ∀ rest, before p (c :: rest) = c :: before p rest :=
            fun rest => List.takeWhile_cons_of_pos (by simp [hc])
          rw [hkeep, hstart, hstart, hkeep, ih]

/-- Cutting does not get in the way of dropping what URLs ignore. -/
theorem opened_before
    {p : Char → Bool}
    (hp : ∀ c, isEdge c = true → p c = false)
    (cs : List Char) :
    opened (before p cs) = before p (opened cs) := by
  have hbreaks : ∀ c, isLineBreakOrTab c = true → p c = false :=
    fun c hc => hp c (isEdge_of_isLineBreakOrTab hc)
  induction cs with
  | nil => rfl
  | cons c cs ih =>
      by_cases hedge : isEdge c = true
      · have hstart : before p (c :: cs) = c :: before p cs :=
          List.takeWhile_cons_of_pos (by rw [hp c hedge]; rfl)
        have hdrop : ∀ rest, opened (c :: rest) = opened rest := by
          intro rest
          rw [opened, List.dropWhile_cons_of_pos hedge, opened]
        rw [hstart, hdrop, hdrop, ih]
      · have hopened : ∀ rest : List Char, opened (c :: rest) =
            (c :: rest).filter fun d => !isLineBreakOrTab d := by
          intro rest
          rw [opened, List.dropWhile_cons_of_neg hedge]
        by_cases hc : p c = true
        · have hnil : before p (c :: cs) = [] :=
            List.takeWhile_cons_of_neg (by rw [hc]; exact Bool.false_ne_true)
          rw [hopened, ← filter_before hbreaks, hnil]
          rfl
        · have hstart : before p (c :: cs) = c :: before p cs :=
            List.takeWhile_cons_of_pos (by simp [hc])
          rw [hstart, hopened, hopened, ← hstart, filter_before hbreaks]

/-- The marks of queries and fragments are none of the characters of a front. -/
theorem kinds_of_endsPath
    {c : Char}
    (h : endsPath c = true) :
    isEdge c = false ∧ isSchemeChar c = false ∧ c ≠ ':' ∧ isSlash c = false ∧
      endsAuthority true c = true := by
  simp only [endsPath, Bool.or_eq_true, decide_eq_true_eq] at h
  rcases h with rfl | rfl <;> decide

theorem endsPath_eq_false_of_mem_front
    {slashes : List Char}
    (hname : ∀ c ∈ f.name, isSchemeChar c = true)
    (hslashes : ∀ c ∈ slashes, isSlash c = true)
    {c : Char}
    (hc : c ∈ f.name ++ ':' :: (slashes ++ f.authority)) :
    endsPath c = false := by
  rw [← Bool.not_eq_true]
  intro hends
  obtain ⟨-, hscheme, hcolon, hslash, hauthority⟩ := kinds_of_endsPath hends
  rw [List.mem_append, List.mem_cons, List.mem_append] at hc
  rcases hc with hc | hc | hc | hc
  · exact Bool.false_ne_true (hscheme.symm.trans (hname c hc))
  · exact hcolon hc
  · exact Bool.false_ne_true (hslash.symm.trans (hslashes c hc))
  · exact Bool.false_ne_true ((f.plain c hc).symm.trans hauthority)

/-- Cutting at a mark leaves a front as it is. -/
theorem Shows.before
    {p : Char → Bool}
    (h : Shows f cs)
    (hp : ∀ c, p c = true → endsPath c = true) :
    Shows f (Text.before p cs) := by
  have hopened : opened (Text.before p cs) = Text.before p (opened cs) := by
    refine opened_before (fun c hc => ?_) cs
    rw [← Bool.not_eq_true]
    intro hpc
    exact Bool.false_ne_true ((kinds_of_endsPath (hp c hpc)).1.symm.trans hc)
  refine h.of_opened (hopened ▸ List.takeWhile_prefix _) fun slashes hfront hslashes => ?_
  obtain ⟨_, _, _, hparted, _⟩ := h
  obtain ⟨back, hback⟩ := hfront
  rw [hopened, ← hback, before_append]
  · exact List.prefix_append _ _
  · intro c hc
    have hmark := endsPath_eq_false_of_mem_front hparted.name hslashes hc
    rw [← Bool.not_eq_true]
    intro hpc
    exact Bool.false_ne_true (hmark.symm.trans (hp c hpc))

/-! ## The root -/

/-- Whether something other than backslashes, tabs and line breaks stands between the first mark
behind a scheme and the next slash. -/
def ShowsHost (place : List Char) : Prop :=
  ∀ scheme rest, splitFirst? "://".toList place = some (scheme, rest) →
    ∃ c ∈ Text.before (· == '/') rest, c ≠ '\\' ∧ isLineBreakOrTab c = false

/-- A character that a text does not have stands behind it. -/
theorem append_eq_append_cons
    {c : Char}
    {xs ys front back : List Char}
    (hc : c ∉ xs)
    (h : xs ++ ys = front ++ c :: back) :
    ∃ between, front = xs ++ between ∧ ys = between ++ c :: back := by
  rcases List.append_eq_append_iff.1 h with ⟨between, hfront, hys⟩ | ⟨between, hxs, hback⟩
  · exact ⟨between, hfront, hys⟩
  · cases between with
    | nil =>
        refine ⟨[], ?_, hback.symm⟩
        rw [List.append_nil] at hxs
        rw [hxs, List.append_nil]
    | cons d between =>
        refine absurd ?_ hc
        rw [hxs, (List.cons.inj hback).1]
        exact List.mem_append_right _ List.mem_cons_self

theorem before_append_of_not_mem
    {c : Char}
    {front : List Char}
    (h : c ∉ front)
    (back : List Char) :
    Text.before (· == c) (front ++ back) = front ++ Text.before (· == c) back := by
  refine before_append (fun d hd => ?_) back
  have hne : d ≠ c := by
    rintro rfl
    exact h hd
  simpa using hne

/-- Slashes with no slash among them that ends the host are backslashes. -/
theorem slash_not_mem_of_showsHost
    {slashes back : List Char}
    (hslashes : ∀ c ∈ slashes, isSlash c = true)
    (hhost : ∃ c ∈ Text.before (· == '/') (slashes ++ back), c ≠ '\\') :
    '/' ∉ slashes := by
  intro hmem
  obtain ⟨front, rest, rfl, hfront⟩ := List.eq_append_cons_of_mem hmem
  obtain ⟨c, hc, hback⟩ := hhost
  rw [List.append_assoc, before_append_of_not_mem hfront, List.cons_append, Text.before,
    List.takeWhile_cons_of_neg (by decide), List.append_nil] at hc
  have hslash := hslashes c (List.mem_append_left _ hc)
  simp only [isSlash, Bool.or_eq_true, decide_eq_true_eq] at hslash
  rcases hslash with rfl | rfl
  · exact hfront hc
  · exact hback rfl

theorem exists_slash_of_append
    {slashes authority more behind : List Char}
    (hslash : '/' ∉ authority)
    (hauthority : authority ≠ [])
    (h : slashes ++ (authority ++ more) = '/' :: behind) :
    ∃ rest, slashes = '/' :: rest ∧ rest ++ (authority ++ more) = behind := by
  cases slashes with
  | nil =>
      have hstart : authority ++ more = [] ++ '/' :: behind := h
      obtain ⟨between, hnil, -⟩ := append_eq_append_cons hslash hstart
      exact absurd (List.append_eq_nil_iff.1 hnil.symm).1 hauthority
  | cons c rest =>
      obtain ⟨hc, hrest⟩ := List.cons.inj h
      exact ⟨rest, by rw [hc], hrest⟩

/--
The text up to the first slash behind the mark of a scheme shows the front of the whole, if a host
stands there.
-/
theorem Shows.root
    {scheme rest : List Char}
    (h : Shows f cs)
    (hhost : ShowsHost cs)
    (hsplit : splitFirst? "://".toList cs = some (scheme, rest)) :
    Shows f (scheme ++ "://".toList ++ Text.before (· == '/') rest) := by
  have hopened : ∀ behind, opened (scheme ++ "://".toList ++ behind) =
      opened scheme ++ ':' :: '/' :: '/' :: behind.filter fun c => !isLineBreakOrTab c := by
    intro behind
    rw [List.append_assoc]
    exact opened_append_cons (by decide) scheme ('/' :: '/' :: behind)
  have hcs := eq_append_of_splitFirst? hsplit
  have hroot := hopened (Text.before (· == '/') rest)
  have hbefore := filter_before (p := (· == '/'))
    (fun c hc => by
      rw [← Bool.not_eq_true, beq_iff_eq]
      rintro rfl
      revert hc
      decide) rest
  obtain ⟨c, hc, hback, hbreak⟩ := hhost scheme rest hsplit
  have hhost' : ∃ c ∈ Text.before (· == '/') (rest.filter fun c => !isLineBreakOrTab c),
      c ≠ '\\' := by
    rw [← hbefore]
    exact ⟨c, List.mem_filter.2 ⟨hc, by rw [hbreak]; rfl⟩, hback⟩
  rw [hbefore] at hroot
  have hwhole : opened cs =
      opened scheme ++ ':' :: '/' :: '/' :: rest.filter fun c => !isLineBreakOrTab c := by
    rw [hcs]
    exact hopened rest
  generalize (rest.filter fun c => !isLineBreakOrTab c) = behind at hroot hhost' hwhole
  generalize opened scheme = start at hroot hwhole
  obtain ⟨_, _, _, hparted, _⟩ := id h
  have hslash : '/' ∉ f.authority := by
    intro hmem
    have hplain := f.plain _ hmem
    revert hplain
    decide
  refine h.of_opened ?_ fun slashes hfront hslashes => ?_
  · rw [hroot, hwhole]
    obtain ⟨more, hmore⟩ := List.takeWhile_prefix (fun d => !(d == '/')) (l := behind)
    refine ⟨more, ?_⟩
    conv => rhs; rw [← hmore]
    simp [Text.before]
  · obtain ⟨more, hmore⟩ := hfront
    rw [hwhole, List.append_assoc, List.cons_append, List.append_assoc] at hmore
    have hcolon : ':' ∉ f.name := by
      intro hmem
      have hscheme := hparted.name _ hmem
      revert hscheme
      decide
    obtain ⟨between, hstart, hrest⟩ := append_eq_append_cons hcolon hmore
    rw [hroot, hstart]
    cases between with
    | nil =>
        -- The mark is the one of the scheme itself.
        obtain ⟨slashes₁, rfl, hbehind₁⟩ :=
          exists_slash_of_append hslash f.authority_ne_nil (List.cons.inj hrest).2
        obtain ⟨slashes₂, rfl, hbehind₂⟩ :=
          exists_slash_of_append hslash f.authority_ne_nil hbehind₁
        rw [← hbehind₂] at hhost' ⊢
        have hslash' := slash_not_mem_of_showsHost
          (fun c hc => hslashes c (List.mem_cons_of_mem _ (List.mem_cons_of_mem _ hc))) hhost'
        rw [before_append_of_not_mem hslash', before_append_of_not_mem hslash]
        exact ⟨Text.before (· == '/') more, by simp⟩
    | cons d between =>
        -- The mark stands behind the authority, since neither slashes nor authority have one.
        have hbehind : slashes ++ (f.authority ++ more) = between ++ ':' :: '/' :: '/' :: behind :=
          (List.cons.inj hrest).2
        have hcolon' : ':' ∉ slashes := by
          intro hmem
          have hslash' := hslashes _ hmem
          revert hslash'
          decide
        obtain ⟨middle, hbetween, hauthority⟩ := append_eq_append_cons hcolon' hbehind
        have hauthority' : f.authority ++ more = (middle ++ [':']) ++ '/' :: '/' :: behind := by
          rw [hauthority]
          simp
        obtain ⟨last, hlast, -⟩ := append_eq_append_cons hslash hauthority'
        refine ⟨last ++ '/' :: '/' :: Text.before (· == '/') behind, ?_⟩
        rw [← (List.cons.inj hrest).1, hbetween]
        have hmark : middle ++ ':' :: '/' :: '/' :: Text.before (· == '/') behind =
            f.authority ++ (last ++ '/' :: '/' :: Text.before (· == '/') behind) := by
          rw [← List.append_assoc, ← hlast]
          simp
        simp [hmark]

/-! ## Spaces as octets -/

theorem filter_replaceChar
    (cs : List Char) :
    (replaceChar ' ' "%20".toList cs).filter (fun c => !isLineBreakOrTab c) =
      replaceChar ' ' "%20".toList (cs.filter fun c => !isLineBreakOrTab c) := by
  induction cs with
  | nil => rfl
  | cons c cs ih =>
      by_cases hspace : c = ' '
      · subst hspace
        change '%' :: '2' :: '0' ::
          (replaceChar ' ' "%20".toList cs).filter (fun c => !isLineBreakOrTab c) = _
        rw [ih]
        rfl
      · rw [replaceChar_cons_of_ne hspace, List.filter_cons, List.filter_cons, ih]
        split
        · rw [replaceChar_cons_of_ne hspace]
        · rfl

/-- A text with a space in front is no URL, if that is written as octets. -/
theorem space_not_mem_of_parse
    {edges back : List Char}
    {u : Url}
    (hedges : ∀ c ∈ edges, isEdge c = true)
    (h : parse (replaceChar ' ' "%20".toList (edges ++ back)) = .ok u) :
    ' ' ∉ edges := by
  intro hspace
  obtain ⟨front, rest, rfl, hfront⟩ := List.eq_append_cons_of_mem hspace
  have hreplace : replaceChar ' ' "%20".toList (front ++ ' ' :: rest ++ back) =
      front ++ '%' :: ("20".toList ++ replaceChar ' ' "%20".toList (rest ++ back)) := by
    rw [List.append_assoc, replaceChar_append, replaceChar_of_not_mem hfront]
    rfl
  obtain ⟨more, hclean⟩ := cleaned_append_cons (by decide : isEdge '%' = false) front
    ("20".toList ++ replaceChar ' ' "%20".toList (rest ++ back))
  obtain ⟨behind, hscheme⟩ := splitScheme?_of_parse h
  rw [hreplace, hclean, opened_of_isEdge fun c hc => hedges c (List.mem_append_left _ hc),
    List.nil_append] at hscheme
  have hsign : splitScheme? ('%' :: more) = none := rfl
  rw [hsign] at hscheme
  cases hscheme

theorem opened_replaceChar
    {edges rest : List Char}
    {c : Char}
    (hedges : ∀ d ∈ edges, isEdge d = true)
    (hspace : ' ' ∉ edges)
    (hc : isEdge c = false) :
    opened (replaceChar ' ' "%20".toList (edges ++ c :: rest)) =
      replaceChar ' ' "%20".toList (opened (edges ++ c :: rest)) := by
  have hne : c ≠ ' ' := by
    rintro rfl
    revert hc
    decide
  rw [replaceChar_append, replaceChar_of_not_mem hspace, replaceChar_cons_of_ne hne,
    opened_of_letter hedges hc, opened_of_letter hedges hc, filter_replaceChar,
    replaceChar_cons_of_ne hne]

theorem replaceChar_ne_nil
    {cs : List Char}
    (h : cs ≠ []) :
    replaceChar ' ' "%20".toList cs ≠ [] := by
  cases cs with
  | nil => exact absurd rfl h
  | cons c cs =>
      by_cases hspace : c = ' '
      · subst hspace
        exact List.cons_ne_nil '%' _
      · rw [replaceChar_cons_of_ne hspace]
        exact List.cons_ne_nil _ _

/-- The parts stay where they are when spaces are written as octets. -/
theorem Parted.replaceChar
    {name slashes authority back cs : List Char}
    (h : Parted name slashes authority back cs) :
    Parted name slashes (Text.replaceChar ' ' "%20".toList authority)
      (Text.replaceChar ' ' "%20".toList back) (Text.replaceChar ' ' "%20".toList cs) := by
  have hname : ' ' ∉ name := by
    intro hmem
    have hscheme := h.name _ hmem
    revert hscheme
    decide
  have hslashes : ' ' ∉ slashes := by
    intro hmem
    have hslash := h.slashes _ hmem
    revert hslash
    decide
  refine ⟨?_, h.letter, h.name, h.slashes, replaceChar_ne_nil h.nonempty, ?_, ?_⟩
  · rw [h.text, replaceChar_append, replaceChar_of_not_mem hname,
      replaceChar_cons_of_ne (by decide), replaceChar_append, replaceChar_of_not_mem hslashes,
      replaceChar_append]
  · intro c hc
    rcases mem_of_mem_replaceChar hc with hc | hc
    · exact h.authority c hc
    · have hcode : ("%20".toList.all fun d => !endsAuthority true d) = true := by decide
      simpa using List.all_eq_true.1 hcode c hc
  · intro c hc
    cases back with
    | nil => cases hc
    | cons d back =>
        have hends := h.back d rfl
        have hd : d ≠ ' ' := by
          rintro rfl
          revert hends
          decide
        rw [replaceChar_cons_of_ne hd] at hc
        rw [← Option.some.inj hc]
        exact hends

/-- The place of a front is read if it is continued with ignored characters, spaces as octets. -/
theorem Front.read_eq
    {blanks : List Char}
    {read : Host × Option Nat}
    (hblanks : ∀ c ∈ blanks, isEdge c = true)
    (h : readPlace (f.name.map Char.toLower)
      (splitUser (Text.replaceChar ' ' "%20".toList (f.authority ++ blanks))).2 = .ok read) :
    read = f.read := by
  have hat : '@' ∉ blanks := by
    intro hmem
    have hedge := hblanks _ hmem
    revert hedge
    decide
  have hback : '\\' ∉ (splitUser f.authority).2 ++ blanks := by
    rw [List.mem_append, not_or]
    refine ⟨f.backslash_not_mem_place, fun hmem => ?_⟩
    have hedge := hblanks _ hmem
    revert hedge
    decide
  rw [splitUser_replaceChar] at h
  dsimp only at h
  rw [splitUser_append _ hat] at h
  have hspace := space_not_mem_of_readPlace h hback
  rw [replaceChar_of_not_mem hspace] at h
  -- All ignored characters are low, and a place has none of these.
  have hnil : blanks = [] := by
    rw [List.eq_nil_iff_forall_not_mem]
    intro c hc
    have hlow := (notBlank_of_readPlace h hback (List.mem_append_right _ hc)).1
    exact Bool.false_ne_true (hlow.symm.trans (hblanks c hc))
  rw [hnil, List.append_nil, f.reads] at h
  exact (Except.ok.inj h).symm

/-! ## Continued texts -/

/--
Whatever is put behind a text that shows a front, with a slash or the mark of a query or a fragment
in between, has the origin of the front if it is a URL of a common scheme.
-/
theorem Shows.origin
    {stop : Char}
    {back : List Char}
    {u : Url}
    (h : Shows f cs)
    (hstop : stop = '/' ∨ stop = '?' ∨ stop = '#')
    (hparse : parse (Text.replaceChar ' ' "%20".toList (cs ++ stop :: back)) = .ok u)
    (hcommon : isCommon u.scheme = true) :
    u.ownOrigin? = f.origin? := by
  have hmark : stop ≠ ' ' ∧ isEdge stop = false ∧ endsAuthority true stop = true := by
    rcases hstop with rfl | rfl | rfl <;> decide
  obtain ⟨hne, hedge, hends⟩ := hmark
  obtain ⟨edges, c, rest, hcs, hedges, hc, -⟩ := h.exists_letter
  obtain ⟨slashes, blanks, behind, hparted, hblanks⟩ := h
  have hspace : ' ' ∉ edges := by
    rw [hcs, List.append_assoc] at hparse
    exact space_not_mem_of_parse hedges hparse
  have hopened := @opened_replaceChar edges rest c hedges hspace hc
  rw [← hcs] at hopened
  obtain ⟨more, hclean⟩ := cleaned_append_cons hedge (Text.replaceChar ' ' "%20".toList cs)
    (Text.replaceChar ' ' "%20".toList back)
  have hwhole := hparted.replaceChar.append_cons hends more
  rw [← hopened, ← hclean, ← replaceChar_cons_of_ne hne, ← replaceChar_append] at hwhole
  obtain ⟨read, hread, horigin⟩ := hwhole.origin hparse hcommon
  rw [horigin, Front.read_eq hblanks hread]
  rfl

end Url
end LinkLedger
