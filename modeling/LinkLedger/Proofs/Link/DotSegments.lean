import LinkLedger.Proofs.Link.Absolute
import Mathlib.Data.List.Basic

/-!
# Dot segments

RFC 3986 says what the path of a reference means below the path of a base: sections 5.2.2 and 5.2.3
put the two together, and section 5.2.4 takes the dot segments out by rewriting a text from the
front.  Links are resolved segment by segment instead, with the segments so far on a stack.  Both
come to the same path, also with empty segments, and however many segments lead upwards.

**Results.**
* `GenericSyntax.removeDotSegments`, `GenericSyntax.targetPath`: the rules.
* `removeFrom_walk`: on a path of segments the rewriting does what the stack does.
* `targetPath_eq_cons_mergePath`: paths are merged by the rules if the directory of the base has no
  dot segments.
* `not_isDotSegment_of_mem_mergePath`: no dot segment is left.
-/

namespace LinkLedger

open Text

/-! ## The rules -/

namespace GenericSyntax

/-- A text without its last segment and the slash in front of that. -/
def dropLastSegment (cs : List Char) : List Char :=
  ((cs.reverse.dropWhile (· != '/')).drop 1).reverse

/-- A text up to its last slash; nothing if it has none. -/
def uptoLastSlash (cs : List Char) : List Char :=
  (cs.reverse.dropWhile (· != '/')).reverse

/-- The loop of section 5.2.4, with its output buffer and its input buffer. -/
def removeFrom (out : List Char) : List Char → List Char
  | [] => out
  -- 2A
  | '.' :: '.' :: '/' :: rest => removeFrom out rest
  | '.' :: '/' :: rest => removeFrom out rest
  -- 2B
  | '/' :: '.' :: '/' :: rest => removeFrom out ('/' :: rest)
  | ['/', '.'] => removeFrom out ['/']
  -- 2C
  | '/' :: '.' :: '.' :: '/' :: rest => removeFrom (dropLastSegment out) ('/' :: rest)
  | ['/', '.', '.'] => removeFrom (dropLastSegment out) ['/']
  -- 2D
  | ['.'] => out
  | ['.', '.'] => out
  -- 2E
  | c :: rest => removeFrom (out ++ c :: before (· == '/') rest) (since (· == '/') rest)
termination_by input => input.length
decreasing_by
  all_goals simp only [List.length_cons, List.length_nil]
  rotate_right
  · exact Nat.lt_succ_of_le (List.dropWhile_sublist _).length_le
  all_goals omega

/-- A path without its dot segments, section 5.2.4. -/
def removeDotSegments (path : List Char) : List Char :=
  removeFrom [] path

/-- The path of a reference behind the directory of a base that has an authority, section 5.2.3. -/
def merge (base path : List Char) : List Char :=
  if base.isEmpty then '/' :: path else uptoLastSlash base ++ path

/-- The path that a reference with a path means, section 5.2.2. -/
def targetPath (base path : List Char) : List Char :=
  removeDotSegments (if path.head? = some '/' then path else merge base path)

/-- A path with a slash in front. -/
def rooted (path : List Char) : List Char :=
  if path.head? = some '/' then path else '/' :: path

end GenericSyntax

namespace Link

open GenericSyntax

/-- A segment that names nothing and says where to go. -/
def IsDotSegment (s : List Char) : Prop :=
  s = ['.'] ∨ s = ['.', '.']

instance : DecidablePred IsDotSegment := fun s =>
  inferInstanceAs (Decidable (s = ['.'] ∨ s = ['.', '.']))

theorem not_isDotSegment_nil :
    ¬ IsDotSegment [] := by
  decide

/-! ## Segments and slashes -/

/-- Segments with a slash in front of each. -/
def slashed (segs : List (List Char)) : List Char :=
  segs.flatMap fun s => '/' :: s

@[simp] theorem slashed_nil :
    slashed [] = [] :=
  rfl

@[simp] theorem slashed_cons
    (s : List Char)
    (segs : List (List Char)) :
    slashed (s :: segs) = '/' :: (s ++ slashed segs) :=
  rfl

@[simp] theorem slashed_append
    (segs segs' : List (List Char)) :
    slashed (segs ++ segs') = slashed segs ++ slashed segs' :=
  List.flatMap_append

/-- Behind segments a text is at its end or at a slash. -/
theorem slashed_cases
    (segs : List (List Char)) :
    slashed segs = [] ∨ ∃ rest, slashed segs = '/' :: rest := by
  cases segs with
  | nil => exact Or.inl rfl
  | cons s segs => exact Or.inr ⟨_, rfl⟩

theorem cons_intercalate
    {segs : List (List Char)}
    (h : segs ≠ []) :
    '/' :: ['/'].intercalate segs = slashed segs := by
  induction segs with
  | nil => exact absurd rfl h
  | cons s segs ih =>
      cases segs with
      | nil => simp
      | cons t segs =>
          have hrest := ih (by simp)
          rw [List.intercalate_cons_of_ne_nil (by simp), slashed_cons, ← hrest]
          simp

theorem slashed_splitOn
    (cs : List Char) :
    slashed (cs.splitOn '/') = '/' :: cs := by
  rw [← cons_intercalate (List.splitOn_ne_nil _ _), List.intercalate_splitOn]

theorem slash_not_mem_of_mem_splitOn
    {cs s : List Char}
    (h : s ∈ cs.splitOn '/') :
    '/' ∉ s := by
  induction cs generalizing s with
  | nil =>
      rw [List.splitOn_nil, List.mem_singleton] at h
      simp [h]
  | cons c cs ih =>
      rw [List.splitOn_cons_eq_if_modifyHead] at h
      split at h
      · rcases List.mem_cons.1 h with rfl | h
        · simp
        · exact ih h
      · next hc =>
        cases hsplit : cs.splitOn '/' with
        | nil => exact absurd hsplit (List.splitOn_ne_nil _ _)
        | cons t segs =>
            rw [hsplit, List.modifyHead_cons] at h
            rcases List.mem_cons.1 h with rfl | h
            · have ht := ih (s := t) (by rw [hsplit]; simp)
              have hne : '/' ≠ c := fun heq => hc (by simp [← heq])
              simp [ht, hne]
            · exact ih (by rw [hsplit]; simp [h])

/-- The text in front of the first slash behind a segment is the segment. -/
theorem before_segment
    {s rest : List Char}
    (hs : '/' ∉ s)
    (hrest : rest = [] ∨ ∃ more, rest = '/' :: more) :
    before (· == '/') (s ++ rest) = s ∧ since (· == '/') (s ++ rest) = rest := by
  have hall : ∀ c ∈ s, (!(c == '/')) = true := by
    intro c hc
    have hne : c ≠ '/' := fun heq => hs (heq ▸ hc)
    simpa using hne
  rw [before, since, List.takeWhile_append_of_pos hall, List.dropWhile_append_of_pos hall]
  rcases hrest with rfl | ⟨more, rfl⟩
  · simp
  · simp

/-- What follows the last slash of a text is found from its end. -/
theorem dropWhile_reverse_segment
    {s : List Char}
    (hs : '/' ∉ s)
    (front : List Char) :
    (front ++ '/' :: s).reverse.dropWhile (· != '/') = '/' :: front.reverse := by
  have hall : ∀ c ∈ s.reverse, (c != '/') = true := by
    intro c hc
    have hne : c ≠ '/' := fun heq => hs (heq ▸ List.mem_reverse.1 hc)
    simpa using hne
  rw [List.reverse_append, List.reverse_cons, List.append_assoc,
    List.dropWhile_append_of_pos hall]
  rfl

theorem dropLastSegment_append_cons
    {s : List Char}
    (hs : '/' ∉ s)
    (front : List Char) :
    dropLastSegment (front ++ '/' :: s) = front := by
  rw [dropLastSegment, dropWhile_reverse_segment hs]
  simp

theorem uptoLastSlash_append_cons
    {s : List Char}
    (hs : '/' ∉ s)
    (front : List Char) :
    uptoLastSlash (front ++ '/' :: s) = front ++ ['/'] := by
  rw [uptoLastSlash, dropWhile_reverse_segment hs]
  simp

/-- Leaving out the last segment takes one segment from the stack, if there is one. -/
theorem dropLastSegment_slashed
    {done : List (List Char)}
    (h : ∀ s ∈ done, '/' ∉ s) :
    dropLastSegment (slashed done.reverse) = slashed (done.drop 1).reverse := by
  cases done with
  | nil => rfl
  | cons s done =>
      rw [List.reverse_cons, slashed_append, slashed_cons, slashed_nil, List.append_nil,
        dropLastSegment_append_cons (h s (by simp))]
      rfl

/-! ## The loop on segments -/

/-- A segment that is no dot segment is moved to the output. -/
theorem removeFrom_segment
    {s rest : List Char}
    (hs : '/' ∉ s)
    (hdot : ¬ IsDotSegment s)
    (hrest : rest = [] ∨ ∃ more, rest = '/' :: more)
    (out : List Char) :
    removeFrom out ('/' :: (s ++ rest)) = removeFrom (out ++ '/' :: s) rest := by
  obtain ⟨hbefore, hsince⟩ := before_segment hs hrest
  have hother : ∀ cs, s ++ rest = cs → ¬ IsDotSegment (before (· == '/') cs) := by
    rintro cs rfl
    rw [hbefore]
    exact hdot
  rw [removeFrom, hbefore, hsince]
  · exact fun _ h _ => absurd h (by decide)
  · exact fun _ h _ => absurd h (by decide)
  · exact fun _ _ h => hother _ h (Or.inl rfl)
  · exact fun _ h => hother _ h (Or.inl rfl)
  · exact fun _ _ h => hother _ h (Or.inr rfl)
  · exact fun _ h => hother _ h (Or.inr rfl)
  · exact fun h _ => absurd h (by decide)
  · exact fun h _ => absurd h (by decide)

theorem removeFrom_slash
    (out : List Char) :
    removeFrom out ['/'] = out ++ ['/'] := by
  have hend := removeFrom_segment List.not_mem_nil not_isDotSegment_nil (Or.inl rfl) out
  rw [removeFrom] at hend
  exact hend

/-- The loop goes through segments as the stack does. -/
theorem removeFrom_walk
    {done segs : List (List Char)}
    (hdone : ∀ s ∈ done, '/' ∉ s)
    (hsegs : ∀ s ∈ segs, '/' ∉ s) :
    removeFrom (slashed done.reverse) (slashed segs) = slashed (walk done segs).reverse := by
  induction segs generalizing done with
  | nil =>
      rw [slashed_nil, removeFrom, walk]
  | cons s segs ih =>
      have hrest : ∀ t ∈ segs, '/' ∉ t := fun t ht => hsegs t (by simp [ht])
      have hfewer : ∀ t ∈ done.drop 1, '/' ∉ t := fun t ht => hdone t (List.mem_of_mem_drop ht)
      by_cases hup : s = ['.', '.']
      · subst hup
        cases segs with
        | nil =>
            rw [slashed_cons, slashed_nil, List.append_nil, removeFrom, removeFrom_slash,
              dropLastSegment_slashed hdone]
            simp [walk]
        | cons t segs =>
            have hnext := ih hfewer hrest
            rw [slashed_cons, slashed_cons]
            change removeFrom _ ('/' :: '.' :: '.' :: '/' :: (t ++ slashed segs)) = _
            rw [removeFrom, dropLastSegment_slashed hdone, ← slashed_cons, hnext]
            simp [walk]
      · by_cases hhere : s = ['.']
        · subst hhere
          cases segs with
          | nil =>
              rw [slashed_cons, slashed_nil, List.append_nil, removeFrom, removeFrom_slash]
              simp [walk]
          | cons t segs =>
              have hnext := ih hdone hrest
              rw [slashed_cons, slashed_cons]
              change removeFrom _ ('/' :: '.' :: '/' :: (t ++ slashed segs)) = _
              rw [removeFrom, ← slashed_cons, hnext]
              simp [walk]
        · have hmore : ∀ t ∈ s :: done, '/' ∉ t := by
            intro t ht
            rcases List.mem_cons.1 ht with rfl | ht
            · exact hsegs t (by simp)
            · exact hdone t ht
          have hnext := ih hmore hrest
          rw [List.reverse_cons, slashed_append, slashed_cons, slashed_nil, List.append_nil] at hnext
          have hplain : ¬ IsDotSegment s := by
            rintro (h | h)
            · exact hhere h
            · exact hup h
          rw [slashed_cons, removeFrom_segment (hsegs s (by simp)) hplain (slashed_cases segs),
            hnext]
          simp [walk, hup, hhere]

/-! ## What is left on the stack -/

/-- What is true of the segments in front and of those that are no dot segments is true of every
segment that is left, if it is true of the empty one. -/
theorem forall_mem_walk
    {P : List Char → Prop}
    (hempty : P [])
    {done segs : List (List Char)}
    (hdone : ∀ s ∈ done, P s)
    (hsegs : ∀ s ∈ segs, ¬ IsDotSegment s → P s) :
    ∀ s ∈ walk done segs, P s := by
  induction segs generalizing done with
  | nil => exact hdone
  | cons t segs ih =>
      have hrest : ∀ s ∈ segs, ¬ IsDotSegment s → P s := fun s hs => hsegs s (by simp [hs])
      have hending : ∀ fewer : List (List Char), (∀ s ∈ fewer, P s) →
          ∀ s ∈ (if segs.isEmpty then [] :: fewer else fewer), P s := by
        intro fewer hfewer
        split
        · exact List.forall_mem_cons.2 ⟨hempty, hfewer⟩
        · exact hfewer
      rw [walk]
      dsimp only
      split
      · exact ih (hending _ fun s hs => hdone s (List.mem_of_mem_drop hs)) hrest
      · next hup =>
        split
        · exact ih (hending _ hdone) hrest
        · next hhere =>
          have hplain : ¬ IsDotSegment t := by
            rintro (h | h)
            · exact hhere h
            · exact hup h
          exact ih (List.forall_mem_cons.2 ⟨hsegs t (by simp) hplain, hdone⟩) hrest

theorem walk_ne_nil
    (done : List (List Char))
    {segs : List (List Char)}
    (h : segs ≠ []) :
    walk done segs ≠ [] := by
  obtain ⟨rest, hwalk | hwalk⟩ := walk_head done h
  · simp [hwalk]
  · simp [hwalk]

/-- Segments that are no dot segments are put on the stack. -/
theorem walk_append
    {front : List (List Char)}
    (h : ∀ s ∈ front, ¬ IsDotSegment s)
    (done segs : List (List Char)) :
    walk done (front ++ segs) = walk (front.reverse ++ done) segs := by
  induction front generalizing done with
  | nil => rfl
  | cons s front ih =>
      have hs := h s (by simp)
      have hup : s ≠ ['.', '.'] := fun heq => hs (Or.inr heq)
      have hhere : s ≠ ['.'] := fun heq => hs (Or.inl heq)
      rw [List.cons_append, walk]
      dsimp only
      rw [if_neg hup, if_neg hhere, ih fun t ht => h t (by simp [ht])]
      simp

/-! ## Merged paths -/

/-- A path with at most one slash in front has one slash in front when it is rooted. -/
theorem rooted_eq
    {path : List Char}
    (h : ¬ "//".toList <+: path) :
    rooted path = '/' :: path.dropWhile (· == '/') := by
  have hone : ∀ rest, path = '/' :: rest → rest.dropWhile (· == '/') = rest := by
    rintro rest rfl
    cases rest with
    | nil => rfl
    | cons d rest =>
        have hd : d ≠ '/' := by
          rintro rfl
          exact h ⟨rest, rfl⟩
        exact List.dropWhile_cons_of_neg (by simpa using hd)
  unfold rooted
  split
  · next hhead =>
    obtain ⟨rest, hrest⟩ := List.head?_eq_some_iff.1 hhead
    rw [hrest, List.dropWhile_cons_of_pos (by simp), hone rest hrest]
  · next hhead =>
    cases path with
    | nil => rfl
    | cons c path =>
        have hc : c ≠ '/' := by simpa using hhead
        rw [List.dropWhile_cons_of_neg (by simpa using hc)]

theorem slashed_segments
    {path : List Char}
    (h : ¬ "//".toList <+: path) :
    slashed (segments path) = rooted path := by
  rw [segments, slashed_splitOn, rooted_eq h]

/-- The directory of a path has the segments in front of its last one, but not the empty one in
front of a first slash. -/
theorem directory_subset
    {path : List Char}
    (h : ¬ "//".toList <+: path) :
    directory path ⊆ (path.splitOn '/').dropLast := by
  have hrooted := rooted_eq h
  unfold rooted at hrooted
  split at hrooted
  · have hsplit : path.splitOn '/' = [] :: segments path := by
      conv => lhs; rw [hrooted, List.splitOn_cons_eq_if_modifyHead]
      rfl
    rw [hsplit, List.dropLast_cons_of_ne_nil (segments_ne_nil path)]
    exact List.subset_cons_self _ _
  · have hsplit : path.splitOn '/' = segments path := by
      rw [segments, ← (List.cons.inj hrooted).2]
    rw [hsplit]
    exact List.Subset.refl _

/-- Up to its last slash a path has the segments of its directory. -/
theorem uptoLastSlash_rooted
    {path : List Char}
    (h : ¬ "//".toList <+: path) :
    uptoLastSlash (rooted path) = slashed (directory path) ++ ['/'] := by
  have hlast : '/' ∉ (segments path).getLast (segments_ne_nil path) :=
    slash_not_mem_of_mem_splitOn (List.getLast_mem _)
  have hsplit : rooted path =
      slashed (directory path) ++ '/' :: (segments path).getLast (segments_ne_nil path) := by
    have hconcat := congrArg slashed (List.dropLast_concat_getLast (segments_ne_nil path))
    rw [slashed_append, slashed_cons, slashed_nil, List.append_nil] at hconcat
    rw [← slashed_segments h, directory, hconcat]
  rw [hsplit, uptoLastSlash_append_cons hlast]

/--
Merging the path of a reference with the path of its base follows the rules, if neither starts with
two slashes and the directory of the base has no dot segments.
-/
theorem targetPath_eq_cons_mergePath
    {base path : List Char}
    (hpath : ¬ "//".toList <+: path)
    (hbase : ¬ "//".toList <+: base)
    (hdots : ∀ s ∈ directory base, ¬ IsDotSegment s) :
    targetPath (rooted base) path = '/' :: mergePath base path := by
  have hsegs : ∀ s ∈ segments path, '/' ∉ s := fun s hs => slash_not_mem_of_mem_splitOn hs
  have hloop : ∀ front : List (List Char), (∀ s ∈ front, '/' ∉ s) →
      (∀ s ∈ front, ¬ IsDotSegment s) →
        removeDotSegments (slashed (front ++ segments path)) =
          '/' :: ['/'].intercalate (walk front.reverse (segments path)).reverse := by
    intro front hslash hplain
    have hall : ∀ s ∈ front ++ segments path, '/' ∉ s := by
      intro s hs
      rcases List.mem_append.1 hs with hs | hs
      · exact hslash s hs
      · exact hsegs s hs
    have hwalk := removeFrom_walk (List.forall_mem_nil _) hall
    rw [List.reverse_nil, slashed_nil, walk_append hplain, List.append_nil] at hwalk
    rw [removeDotSegments, hwalk, cons_intercalate]
    simpa using walk_ne_nil _ (segments_ne_nil path)
  have hrooted : ¬ (rooted base).isEmpty := by
    unfold rooted
    split
    · next hhead =>
      cases base with
      | nil => cases hhead
      | cons c base => simp
    · simp
  unfold targetPath mergePath
  dsimp only
  by_cases hhead : path.head? = some '/'
  · have habsolute : rooted path = path := if_pos hhead
    rw [if_pos hhead, if_pos hhead, ← hloop [] (by simp) (by simp), List.nil_append,
      slashed_segments hpath, habsolute]
  · have hrelative : rooted path = '/' :: path := if_neg hhead
    rw [if_neg hhead, if_neg hhead, merge, if_neg hrooted, uptoLastSlash_rooted hbase,
      ← hloop (directory base)
        (fun s hs => slash_not_mem_of_mem_splitOn (List.dropLast_subset _ hs)) hdots,
      slashed_append, slashed_segments hpath, hrelative]
    simp

-- More steps up than there are directories, and a last dot segment.
example : targetPath "/b/c/d;p".toList "../.././../g/..".toList = "/".toList := by
  cbv

/-- No dot segment is left in a merged path. -/
theorem not_isDotSegment_of_mem_mergePath
    {base path : List Char}
    (hdots : ∀ s ∈ directory base, ¬ IsDotSegment s) :
    ∀ s ∈ (mergePath base path).splitOn '/', ¬ IsDotSegment s := by
  have habove : ∀ P : List Char → Prop, (∀ s ∈ directory base, P s) →
      ∀ s ∈ (if path.head? = some '/' then [] else directory base).reverse, P s := by
    intro P hall s hs
    rw [List.mem_reverse] at hs
    split at hs
    · cases hs
    · exact hall s hs
  have hslash := forall_mem_walk (P := fun s => '/' ∉ s) List.not_mem_nil
    (habove _ fun s hs => slash_not_mem_of_mem_splitOn (List.dropLast_subset _ hs))
    (fun s (hs : s ∈ segments path) _ => slash_not_mem_of_mem_splitOn hs)
  have hplain := forall_mem_walk (P := fun s => ¬ IsDotSegment s) not_isDotSegment_nil
    (habove _ hdots) (fun s (_ : s ∈ segments path) hs => hs)
  unfold mergePath
  dsimp only
  rw [List.splitOn_intercalate]
  · simpa using hplain
  · simpa using hslash
  · simpa using walk_ne_nil _ (segments_ne_nil path)

end Link
end LinkLedger
