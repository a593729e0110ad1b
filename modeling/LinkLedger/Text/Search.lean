/-!
# Looking for one text in another

Tests and cuts on lists of characters: occurrence, splitting at a character, removal of a leading
or of a repeated trailing text, replacement of one character.

**Results.**
* `occursIn_iff`: what occurs in a text is a part of it.
* `eq_append_of_isPrefixOf?`: what is removed from the front and what is left make up the text.
* `eq_append_of_splitFirst?`: so do the parts that a text is split into.
-/

namespace LinkLedger
namespace Text

/-- Whether `pattern` occurs in a text as a contiguous part. -/
def occursIn (pattern : List Char) : List Char → Bool
  | [] => pattern.isEmpty
  | c :: cs => pattern.isPrefixOf (c :: cs) || occursIn pattern cs

theorem occursIn_iff {pattern cs : List Char} : occursIn pattern cs = true ↔ pattern <:+: cs := by
  induction cs with
  | nil => rw [occursIn, List.isEmpty_iff, List.infix_nil]
  | cons c cs ih =>
      rw [occursIn, Bool.or_eq_true, ih, List.isPrefixOf_iff_prefix, List.infix_cons_iff]

/-- Occurrence on strings, case by case and character by character. -/
def contains (text pattern : String) : Bool :=
  occursIn pattern.toList text.toList

/-- The text in front of the first character that satisfies `p`. -/
def before (p : Char → Bool) (cs : List Char) : List Char :=
  cs.takeWhile fun c => !p c

/-- The text from the first character that satisfies `p`. -/
def since (p : Char → Bool) (cs : List Char) : List Char :=
  cs.dropWhile fun c => !p c

@[simp] theorem before_append_since (p : Char → Bool) (cs : List Char) :
    before p cs ++ since p cs = cs := by
  simp [before, since]

/-- A text that is not cut stays in front of what is. -/
theorem before_append {p : Char → Bool} {front : List Char} (h : ∀ c ∈ front, p c = false)
    (back : List Char) : before p (front ++ back) = front ++ before p back :=
  List.takeWhile_append_of_pos fun c hc => by rw [h c hc]; rfl

/-- Nothing stands in front of the first character if that is looked for. -/
theorem before_eq_nil {p : Char → Bool} {cs : List Char}
    (h : ∀ c, cs.head? = some c → p c = true) : before p cs = [] := by
  cases cs with
  | nil => rfl
  | cons c cs => exact List.takeWhile_cons_of_neg (by simp [h c rfl])

theorem eq_append_of_isPrefixOf? {start cs rest : List Char}
    (h : start.isPrefixOf? cs = some rest) : cs = start ++ rest := by
  induction start generalizing cs with
  | nil => exact Option.some.inj h
  | cons c start ih =>
      cases cs with
      | nil => cases h
      | cons d cs =>
          have hstep : (if c == d then start.isPrefixOf? cs else none) = some rest := h
          split at hstep
          · next heq =>
            rw [ih hstep, List.cons_append, beq_iff_eq.1 heq]
          · cases hstep

/-- The parts of a text in front of, between and after the first occurrence of `pattern`. -/
def splitFirst? (pattern : List Char) : List Char → Option (List Char × List Char)
  | [] => if pattern.isEmpty then some ([], []) else none
  | c :: cs =>
      match pattern.isPrefixOf? (c :: cs) with
      | some rest => some ([], rest)
      | none => (splitFirst? pattern cs).map fun (front, rest) => (c :: front, rest)

theorem eq_append_of_splitFirst? {pattern cs front rest : List Char}
    (h : splitFirst? pattern cs = some (front, rest)) : cs = front ++ pattern ++ rest := by
  induction cs generalizing front rest with
  | nil =>
      rw [splitFirst?] at h
      split at h
      · next hempty =>
        rw [List.isEmpty_iff.1 hempty]
        simp_all
      · simp at h
  | cons c cs ih =>
      rw [splitFirst?] at h
      split at h
      · next behind hstrip =>
        simp only [Option.some.injEq, Prod.mk.injEq] at h
        rw [eq_append_of_isPrefixOf? hstrip, ← h.1, ← h.2]
        rfl
      · rw [Option.map_eq_some_iff] at h
        obtain ⟨⟨front', rest'⟩, hsplit, hpair⟩ := h
        simp only [Prod.mk.injEq] at hpair
        rw [ih hsplit, ← hpair.1, ← hpair.2]
        rfl

/-- A text without the leading repetitions of the non-empty text `unit`; `fuel` bounds their
number. -/
def dropRepeats (unit : List Char) : Nat → List Char → List Char
  | 0, cs => cs
  | fuel + 1, cs =>
      match unit.isPrefixOf? cs with
      | some rest => dropRepeats unit fuel rest
      | none => cs

/-- A text without the trailing repetitions of the non-empty text `unit`. -/
def trimEndRepeats (unit cs : List Char) : List Char :=
  (dropRepeats unit.reverse cs.length cs.reverse).reverse

/-- A text with every `c` written as the text `by_`. -/
def replaceChar (c : Char) (by_ : List Char) (cs : List Char) : List Char :=
  cs.flatMap fun d => if d = c then by_ else [d]

theorem replaceChar_append (c : Char) (by_ front back : List Char) :
    replaceChar c by_ (front ++ back) = replaceChar c by_ front ++ replaceChar c by_ back :=
  List.flatMap_append

theorem replaceChar_cons_of_ne {c d : Char} (h : d ≠ c) (by_ cs : List Char) :
    replaceChar c by_ (d :: cs) = d :: replaceChar c by_ cs := by
  rw [replaceChar, List.flatMap_cons, if_neg h]
  rfl

theorem replaceChar_of_not_mem {c : Char} {cs : List Char} (h : c ∉ cs) (by_ : List Char) :
    replaceChar c by_ cs = cs := by
  induction cs with
  | nil => rfl
  | cons d cs ih =>
      rw [List.mem_cons, not_or] at h
      rw [replaceChar_cons_of_ne (Ne.symm h.1), ih h.2]

end Text
end LinkLedger
