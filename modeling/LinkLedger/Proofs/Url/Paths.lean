import LinkLedger.Proofs.Url.Names
import LinkLedger.Url.Parse

/-!
# Paths of URLs

The path of a URL of a common scheme is cut into segments, and each segment is encoded.  Going
through the segments puts one after the other on those that are done, unless it means the current
segment or the one above.

**Results.**
* `inSet_of_mem_percentEncode`: what is encoded has none of the characters of its set.
* `walkSegments_cons`, `walkSegments_concat`: what the first and what the last segment do.
* `inPath_of_mem_joinPath`: the characters of a path.
-/

namespace LinkLedger
namespace Url

open Text

/-! ## Encoded text -/

theorem hexChar_mem
    {n : Nat}
    (h : n < 16) :
    hexChar n ∈ "0123456789ABCDEF".toList := by
  revert n
  decide

/-- Whether a set of characters to be encoded spares those that encodings are made of. -/
def Spares (p : Char → Bool) : Prop :=
  ∀ c ∈ "%0123456789ABCDEF".toList, p c = false

instance (p : Char → Bool) : Decidable (Spares p) :=
  List.decidableBAll _ _

/-- What is encoded has none of the characters that it is encoded for. -/
theorem inSet_of_mem_percentEncode
    {p : Char → Bool}
    (hspares : Spares p)
    {cs : List Char}
    {c : Char}
    (h : c ∈ percentEncode p cs) :
    p c = false := by
  obtain ⟨d, -, hc⟩ := List.mem_flatMap.1 h
  split at hc
  · obtain ⟨b, -, hc⟩ := List.mem_flatMap.1 hc
    have hoctet : b.toNat < 256 := b.toNat_lt
    have hdigit : ∀ n < 16, p (hexChar n) = false := fun n hn =>
      hspares _ (List.mem_cons_of_mem '%' (hexChar_mem hn))
    simp only [percentOctet, List.mem_cons, List.not_mem_nil, or_false] at hc
    rcases hc with rfl | rfl | rfl
    · exact hspares _ (List.mem_cons_self ..)
    · exact hdigit _ (by omega)
    · exact hdigit _ (by omega)
  · next hplain =>
    rw [List.mem_singleton] at hc
    rw [hc]
    simpa using fun hd => hplain (Or.inr hd)

/-! ## Paths -/

theorem isFile_of_isCommon
    {scheme : List Char}
    (h : isCommon scheme = true) :
    isFile scheme = false := by
  rw [← Bool.not_eq_true]
  intro hfile
  rw [of_decide_eq_true hfile] at h
  revert h
  decide

/-- What a segment does to those that are done, last one first, where drives mean nothing. -/
def putSegment (last : Bool) (done : List (List Char)) (s : List Char) : List (List Char) :=
  if isDoubleDot s then (if last then [] :: done.drop 1 else done.drop 1)
  else if isDot s then (if last then [] :: done else done)
  else s :: done

theorem walkSegments_cons
    (done : List (List Char))
    (s : List Char)
    (rest : List (List Char)) :
    walkSegments false done (s :: rest) =
      walkSegments false (putSegment rest.isEmpty done s) rest := by
  rw [walkSegments.eq_def, putSegment]
  dsimp only
  split
  · match done with
    | [] => rfl
    | [only] => rfl
    | _ :: _ :: _ => rfl
  · split
    · rfl
    · match done, s with
      | _ :: _, _ => rfl
      | [], [] => rfl
      | [], [_] => rfl
      | [], [_, _] => rfl
      | [], _ :: _ :: _ :: _ => rfl

/-- The last segment is put behind all others. -/
theorem walkSegments_concat
    (done init : List (List Char))
    (s : List Char) :
    walkSegments false done (init ++ [s]) =
      putSegment true (init.foldl (putSegment false) done) s := by
  induction init generalizing done with
  | nil => rw [List.nil_append, walkSegments_cons]; rfl
  | cons t init ih =>
      have hmore : (init ++ [s]).isEmpty = false := by
        cases init <;> rfl
      rw [List.cons_append, walkSegments_cons, hmore, ih, List.foldl_cons]

theorem mem_of_mem_putSegment
    {last : Bool}
    {done : List (List Char)}
    {r s : List Char}
    (h : r ∈ putSegment last done s) :
    r = [] ∨ r ∈ done ∨ r = s := by
  have hdrop : r ∈ done.drop 1 → r ∈ done := List.mem_of_mem_drop
  unfold putSegment at h
  split at h
  · split at h
    · exact (List.mem_cons.1 h).imp_right fun hr => Or.inl (hdrop hr)
    · exact Or.inr (Or.inl (hdrop h))
  · split at h
    · split at h
      · exact (List.mem_cons.1 h).imp_right Or.inl
      · exact Or.inr (Or.inl h)
    · exact Or.inr (List.mem_cons.1 h).symm

/-- Going through segments adds none but empty ones. -/
theorem mem_of_mem_walkSegments
    {done segments : List (List Char)}
    {r : List Char}
    (h : r ∈ walkSegments false done segments) :
    r = [] ∨ r ∈ done ∨ r ∈ segments := by
  induction segments generalizing done with
  | nil => exact Or.inr (Or.inl h)
  | cons s segments ih =>
      rw [walkSegments_cons] at h
      rcases ih h with hnil | hdone | hmem
      · exact Or.inl hnil
      · rcases mem_of_mem_putSegment hdone with hnil | hdone | rfl
        · exact Or.inl hnil
        · exact Or.inr (Or.inl hdone)
        · exact Or.inr (Or.inr List.mem_cons_self)
      · exact Or.inr (Or.inr (List.mem_cons_of_mem _ hmem))

theorem joinPath_eq
    {scheme : List Char}
    (hcommon : isCommon scheme = true)
    (above : List (List Char))
    (cs : List Char) :
    joinPath scheme above cs =
      '/' :: ['/'].intercalate (walkSegments false above.reverse
        ((segmentsOf true cs).map (percentEncode inPath))).reverse := by
  rw [joinPath, isFile_of_isCommon hcommon, hcommon]
  rfl

/-- A path that starts with encoded segments is encoded. -/
theorem inPath_of_mem_joinPath
    {scheme : List Char}
    (hcommon : isCommon scheme = true)
    {above : List (List Char)}
    (habove : ∀ s ∈ above, ∀ c ∈ s, inPath c = false)
    {cs : List Char}
    {c : Char}
    (h : c ∈ joinPath scheme above cs) :
    inPath c = false := by
  rw [joinPath_eq hcommon, List.mem_cons] at h
  rcases h with rfl | h
  · decide
  · rcases mem_intercalate h with rfl | ⟨s, hs, hc⟩
    · decide
    · rcases mem_of_mem_walkSegments (List.mem_reverse.1 hs) with rfl | hs | hs
      · cases hc
      · exact habove s (List.mem_reverse.1 hs) c hc
      · obtain ⟨segment, -, rfl⟩ := List.mem_map.1 hs
        exact inSet_of_mem_percentEncode (by decide) hc

/-- The path behind a host is made of segments. -/
theorem exists_pathBehindHost
    {scheme : List Char}
    (hcommon : isCommon scheme = true)
    (cs : List Char) :
    ∃ text, pathBehindHost scheme cs = joinPath scheme [] text := by
  cases cs with
  | nil =>
      refine ⟨[], ?_⟩
      rw [pathBehindHost, hcommon, joinPath_eq hcommon]
      rfl
  | cons c rest =>
      rw [pathBehindHost]
      split
      · exact ⟨rest, rfl⟩
      · exact ⟨c :: rest, rfl⟩

theorem mem_intercalate_of_mem
    {c d : Char}
    {part : List Char}
    {parts : List (List Char)}
    (hpart : part ∈ parts)
    (hc : c ∈ part) :
    c ∈ [d].intercalate parts := by
  induction parts with
  | nil => cases hpart
  | cons first parts ih =>
      cases parts with
      | nil =>
          rw [List.mem_singleton] at hpart
          rwa [List.intercalate_singleton, ← hpart]
      | cons next parts =>
          rw [List.intercalate_cons_of_ne_nil (List.cons_ne_nil next parts), List.mem_append]
          rcases List.mem_cons.1 hpart with rfl | hpart
          · exact Or.inl (List.mem_append_left _ hc)
          · exact Or.inr (ih hpart)

/-- The segments of the directory of an encoded path are encoded. -/
theorem inPath_of_mem_directory
    {path : List Char}
    (h : ∀ c ∈ path, inPath c = false) :
    ∀ s ∈ directory path, ∀ c ∈ s, inPath c = false := by
  intro s hs c hc
  have hmem : c ∈ ['/'].intercalate ((path.drop 1).splitOn '/') :=
    mem_intercalate_of_mem (List.dropLast_subset _ hs) hc
  rw [List.intercalate_splitOn] at hmem
  exact h c (List.mem_of_mem_drop hmem)

end Url
end LinkLedger
