import LinkLedger.Proofs.Text.Utf8
import LinkLedger.Url.Parse

/-!
# The scheme of a URL

Reading a URL does not invent a scheme: it is spelled at the start of the text, up to the characters
that URLs ignore.

**Results.**
* `splitScheme?_of_parse`: the scheme of a URL that has been read is the one its text starts with.
* `cleaned_append_cons`: what stands in front of a character that URLs do not ignore does not depend
  on what follows.
* `splitScheme?_append_cons`: a scheme ends in front of a character that schemes do not have.
-/

namespace LinkLedger

namespace Text

theorem isBlank_eq_false_of_isAlpha
    {c : Char}
    (h : c.isAlpha = true) :
    isBlank c = false := by
  have hletter : (65 ≤ c.toNat ∧ c.toNat ≤ 90) ∨ (97 ≤ c.toNat ∧ c.toNat ≤ 122) := by
    rcases Bool.or_eq_true_iff.1 h with hupper | hlower
    · exact Or.inl (of_decide_eq_true hupper)
    · obtain ⟨hleast, hmost⟩ := Bool.and_eq_true_iff.1 hlower
      exact Or.inr ⟨of_decide_eq_true hleast, of_decide_eq_true hmost⟩
  simp only [isBlank, Bool.or_eq_false_iff, Bool.and_eq_false_iff, decide_eq_false_iff_not,
    beq_eq_false_iff_ne]
  omega

end Text

namespace Url

/-! ## What is read keeps the scheme -/

@[simp] theorem withTail_scheme
    (u : Url)
    (cs : List Char) :
    (withTail u cs).scheme = u.scheme := by
  unfold withTail
  split <;> rfl

theorem readBehindSlashes_scheme
    {scheme cs : List Char}
    {u : Url}
    (h : readBehindSlashes scheme cs = .ok u) :
    u.scheme = scheme := by
  obtain ⟨read, -, h⟩ := Text.exists_of_bind_eq_ok h
  rw [← Except.ok.inj h, withTail_scheme]

theorem readFile_scheme
    {scheme cs : List Char}
    {u : Url}
    (h : readFile scheme cs = .ok u) :
    u.scheme = scheme := by
  unfold readFile at h
  dsimp only at h
  split at h
  · next a b rest =>
    split at h
    · split at h
      · rw [← Except.ok.inj h]
        simp
      · obtain ⟨host, -, h⟩ := Text.exists_of_bind_eq_ok h
        rw [← Except.ok.inj h]
        simp
    · rw [← Except.ok.inj h]
      simp
  · rw [← Except.ok.inj h]
    simp

theorem readOther_scheme
    {scheme cs : List Char}
    {u : Url}
    (h : readOther scheme cs = .ok u) :
    u.scheme = scheme := by
  unfold readOther at h
  split at h
  · exact readBehindSlashes_scheme h
  · rw [← Except.ok.inj h]
    simp

theorem readBehindScheme_scheme
    {scheme cs : List Char}
    {u : Url}
    (h : readBehindScheme scheme cs = .ok u) :
    u.scheme = scheme := by
  unfold readBehindScheme at h
  split at h
  · exact readBehindSlashes_scheme h
  · split at h
    · exact readFile_scheme h
    · exact readOther_scheme h

/-- The scheme of a URL that has been read is the one its text starts with. -/
theorem splitScheme?_of_parse
    {cs : List Char}
    {u : Url}
    (h : parse cs = .ok u) :
    ∃ rest, splitScheme? (cleaned cs) = some (u.scheme, rest) := by
  unfold parse at h
  split at h
  · next scheme rest hsplit =>
    refine ⟨rest, ?_⟩
    rw [hsplit, readBehindScheme_scheme h]
  · simp at h

/-! ## What URLs ignore -/

theorem isEdge_of_isLineBreakOrTab
    {c : Char}
    (h : isLineBreakOrTab c = true) :
    isEdge c = true := by
  simp only [isLineBreakOrTab, Bool.or_eq_true, decide_eq_true_eq] at h
  rcases h with (rfl | rfl) | rfl <;> decide

theorem isLineBreakOrTab_of_isEdge_eq_false
    {c : Char}
    (h : isEdge c = false) :
    isLineBreakOrTab c = false := by
  rw [← Bool.not_eq_true]
  intro hbreak
  rw [isEdge_of_isLineBreakOrTab hbreak] at h
  cases h

/-- A text without what URLs ignore in front of it and inside of it. -/
def opened (cs : List Char) : List Char :=
  (cs.dropWhile isEdge).filter fun c => !isLineBreakOrTab c

theorem filter_cons_of_isEdge_eq_false
    {c : Char}
    (h : isEdge c = false)
    (cs : List Char) :
    (c :: cs).filter (fun d => !isLineBreakOrTab d) =
      c :: cs.filter fun d => !isLineBreakOrTab d :=
  List.filter_cons_of_pos (by rw [isLineBreakOrTab_of_isEdge_eq_false h]; rfl)

theorem opened_append_cons
    {stop : Char}
    (hstop : isEdge stop = false)
    (front back : List Char) :
    opened (front ++ stop :: back) =
      opened front ++ stop :: back.filter fun c => !isLineBreakOrTab c := by
  rw [opened, Text.dropWhile_append_cons_of_neg hstop, List.filter_append,
    filter_cons_of_isEdge_eq_false hstop, opened]

theorem opened_of_isEdge
    {cs : List Char}
    (h : ∀ c ∈ cs, isEdge c = true) :
    opened cs = [] := by
  rw [opened, Text.dropWhile_eq_nil_of_all h, List.filter_nil]

theorem opened_eq_self
    {cs : List Char}
    (h : ∀ c ∈ cs, isEdge c = false) :
    opened cs = cs := by
  have hdrop : cs.dropWhile isEdge = cs := by
    cases cs with
    | nil => rfl
    | cons c cs => exact List.dropWhile_cons_of_neg (by simp [h c List.mem_cons_self])
  rw [opened, hdrop, List.filter_eq_self]
  intro c hc
  rw [isLineBreakOrTab_of_isEdge_eq_false (h c hc)]
  rfl

/-- What ends in a character that URLs do not ignore does not depend on what follows. -/
theorem cleaned_append_cons
    {stop : Char}
    (hstop : isEdge stop = false)
    (front back : List Char) :
    ∃ rest, cleaned (front ++ stop :: back) = opened front ++ stop :: rest := by
  refine ⟨(Text.trimEndBy isEdge back).filter fun c => !isLineBreakOrTab c, ?_⟩
  rw [cleaned, Text.dropWhile_append_cons_of_neg hstop, Text.trimEndBy_append_cons_of_neg hstop,
    List.filter_append, filter_cons_of_isEdge_eq_false hstop, opened]

/-! ## The end of a scheme -/

/--
If a text with a scheme goes through a character that schemes do not have, the scheme and its colon
stand in front of that character.
-/
theorem splitScheme?_append_cons
    {front rest scheme behind : List Char}
    {stop : Char}
    (hstop : isSchemeChar stop = false)
    (hcolon : stop ≠ ':')
    (h : splitScheme? (front ++ stop :: rest) = some (scheme, behind)) :
    (∃ c, front.head? = some c ∧ c.isAlpha = true ∧ scheme.head? = some c.toLower) ∧
      (front.dropWhile isSchemeChar).head? = some ':' := by
  unfold splitScheme? at h
  split at h
  · next halpha =>
    split at h
    · next colonBehind hdrop =>
      have hfront : (front.dropWhile isSchemeChar).head? = some ':' := by
        rw [Text.dropWhile_append_cons_of_neg hstop] at hdrop
        cases hd : front.dropWhile isSchemeChar with
        | nil =>
            rw [hd] at hdrop
            exact absurd (List.cons.inj hdrop).1 hcolon
        | cons d ds =>
            rw [hd] at hdrop
            exact congrArg some (List.cons.inj hdrop).1
      refine ⟨?_, hfront⟩
      cases front with
      | nil =>
          simp at hfront
      | cons c front =>
          have hc : c.isAlpha = true := by simpa using halpha
          have hscheme : isSchemeChar c = true := by
            simp [isSchemeChar, Char.isAlphanum, hc]
          refine ⟨c, rfl, hc, ?_⟩
          rw [← (Prod.mk.inj (Option.some.inj h)).1]
          simp [hscheme]
    · simp at h
  · simp at h

end Url
end LinkLedger
