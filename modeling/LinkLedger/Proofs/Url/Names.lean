import LinkLedger.Proofs.Text.Composed
import LinkLedger.Text.Blank
import LinkLedger.Text.Search
import LinkLedger.Url.Name

/-!
# Names have no blanks

A name of a host with a blank or a control character is refused, whether the character is mapped to
a space, is refused itself, or stands in an encoded label.

**Results.**
* `mapCharacter_of_isBlank`: blanks outside of ASCII become spaces or are refused.
* `mem_of_decodeLabel?`: what an encoded label is made of.
* `notBlank_of_asciiName?`: the characters of a name that has a form in ASCII.
-/

namespace LinkLedger
namespace Url

open Text

/-! ## Mapping -/

/-- The blanks outside of ASCII that become spaces. -/
def spacesOutside : List Nat :=
  [0xA0, 0x2000, 0x2001, 0x2002, 0x2003, 0x2004, 0x2005, 0x2006, 0x2007, 0x2008, 0x2009, 0x200A,
    0x202F, 0x205F, 0x3000]

/-- The blanks outside of ASCII that are refused. -/
def breaksOutside : List Nat := [0x85, 0x1680, 0x2028, 0x2029]

theorem mem_outside_of_isBlank
    {c : Char}
    (h : isBlank c = true)
    (hhigh : 128 ≤ c.toNat) :
    c.toNat ∈ spacesOutside ∨ c.toNat ∈ breaksOutside := by
  simp only [isBlank, Bool.or_eq_true, Bool.and_eq_true, decide_eq_true_eq, beq_iff_eq] at h
  simp only [spacesOutside, breaksOutside, List.mem_cons, List.not_mem_nil, or_false]
  omega

set_option maxRecDepth 8000 in
theorem mappedCharacters_lines :
    ∃ lines, mappedCharacters = Mapping.ofLines lines ∧ ∃ texts, Spelled lines texts ∧
      (runsFrom 0 (texts.flatMap (·.splitOn ' '))).length < 10000 ∧
      (spacesOutside.all fun n => (runsFrom 0 (texts.flatMap (·.splitOn ' '))).any fun r =>
        r.first ≤ n && n ≤ r.last && r.image? n == some [' ']) = true := by
  refine ⟨_, rfl, ?_⟩
  apply Exists.intro
  apply And.intro
  · repeat apply Spelled.cons
    exact .nil
  · decide +kernel

set_option maxRecDepth 8000 in
theorem refusedCharacters_lines :
    ∃ lines, refusedCharacters = Ranges.ofLines lines ∧ lines ≠ [] ∧ ∃ texts, Spelled lines texts ∧
      (rangesOf 0 (texts.flatMap fun cs => (base36Numbers cs).toList)).length < 10000 ∧
      (breaksOutside.all fun n =>
        (rangesOf 0 (texts.flatMap fun cs => (base36Numbers cs).toList)).any fun r =>
          r.1 ≤ n && n ≤ r.2) = true := by
  refine ⟨_, rfl, nofun, ?_⟩
  apply Exists.intro
  apply And.intro
  · repeat apply Spelled.cons
    exact .nil
  · decide +kernel

theorem droppedCharacters_lines :
    ∃ lines, droppedCharacters = Ranges.ofLines lines ∧ lines ≠ [] ∧ ∃ texts, Spelled lines texts ∧
      (spacesOutside.all fun n =>
        (rangesOf 0 (texts.flatMap fun cs => (base36Numbers cs).toList)).all fun r =>
          n < r.1 || r.2 < n) = true := by
  refine ⟨_, rfl, nofun, ?_⟩
  apply Exists.intro
  apply And.intro
  · repeat apply Spelled.cons
    exact .nil
  · decide +kernel

theorem mappedCharacters_of_mem
    {c : Char}
    (h : c.toNat ∈ spacesOutside) :
    mappedCharacters.image? c = some [' '] := by
  obtain ⟨lines, heq, texts, hspelled, hlength, hall⟩ := mappedCharacters_lines
  obtain ⟨r, hr, hrun⟩ := List.any_eq_true.1 (List.all_eq_true.1 hall _ h)
  simp only [Bool.and_eq_true, decide_eq_true_eq, beq_iff_eq] at hrun
  rw [← hspelled.map_toList, ← Mapping.toList_runs] at hr hlength
  rw [heq, Mapping.image?_eq (Nat.lt_trans hlength (by decide)) hr hrun.1.1 hrun.1.2, hrun.2]

theorem refusedCharacters_of_mem
    {c : Char}
    (h : c.toNat ∈ breaksOutside) :
    refusedCharacters.has c = true := by
  obtain ⟨lines, heq, hlines, texts, hspelled, hlength, hall⟩ := refusedCharacters_lines
  obtain ⟨r, hr, hrange⟩ := List.any_eq_true.1 (List.all_eq_true.1 hall _ h)
  simp only [Bool.and_eq_true, decide_eq_true_eq] at hrange
  rw [← hspelled.map_toList, ← Ranges.toList_ranges hlines] at hr hlength
  rw [heq]
  exact Ranges.has_of_mem (Nat.lt_trans hlength (by decide)) hr hrange.1 hrange.2

theorem droppedCharacters_of_mem
    {c : Char}
    (h : c.toNat ∈ spacesOutside) :
    droppedCharacters.has c = false := by
  obtain ⟨lines, heq, hlines, texts, hspelled, hall⟩ := droppedCharacters_lines
  rw [← Bool.not_eq_true]
  intro hdropped
  obtain ⟨r, hr, hfirst, hlast⟩ := Ranges.exists_range hdropped
  rw [heq, Ranges.toList_ranges hlines, hspelled.map_toList] at hr
  have hapart := List.all_eq_true.1 (List.all_eq_true.1 hall _ h) r hr
  simp only [Bool.or_eq_true, decide_eq_true_eq] at hapart
  omega

/-- Blanks outside of ASCII become spaces or are refused. -/
theorem mapCharacter_of_isBlank
    {c : Char}
    (h : isBlank c = true)
    (hhigh : 128 ≤ c.toNat) :
    mapCharacter c = none ∨ mapCharacter c = some [' '] := by
  rw [mapCharacter, if_neg (Nat.not_lt.2 hhigh)]
  by_cases hrefused : refusedCharacters.has c = true
  · exact Or.inl (if_pos hrefused)
  · rw [if_neg hrefused]
    rcases mem_outside_of_isBlank h hhigh with hspace | hbreak
    · rw [droppedCharacters_of_mem hspace, mappedCharacters_of_mem hspace]
      exact Or.inr rfl
    · exact absurd (refusedCharacters_of_mem hbreak) hrefused

theorem toLower_of_isLow
    {c : Char}
    (h : isLow c = true) :
    c.toLower = c := by
  have hlow : c.toNat ≤ 32 := of_decide_eq_true h
  refine dif_neg ?_
  rintro ⟨hupper, -⟩
  have hcode : 65 ≤ c.toNat := hupper
  omega

/-- A blank or a control character of a name gives a low character, unless the name is refused. -/
theorem exists_isLow_of_mapCharacter
    {c : Char}
    (h : isLow c = true ∨ isBlank c = true)
    {image : List Char}
    (himage : mapCharacter c = some image) :
    ∃ e ∈ image, isLow e = true := by
  by_cases hascii : c.toNat < 128
  · have hlow : isLow c = true := by
      rcases h with h | h
      · exact h
      · simp only [isBlank, Bool.or_eq_true, Bool.and_eq_true, decide_eq_true_eq, beq_iff_eq] at h
        exact decide_eq_true (by omega)
    rw [mapCharacter, if_pos hascii, toLower_of_isLow hlow] at himage
    rw [← Option.some.inj himage]
    exact ⟨c, List.mem_singleton_self c, hlow⟩
  · have hblank : isBlank c = true := by
      rcases h with h | h
      · have hlow : c.toNat ≤ 32 := of_decide_eq_true h
        omega
      · exact h
    rcases mapCharacter_of_isBlank hblank (Nat.le_of_not_lt hascii) with hnone | hspace
    · rw [hnone] at himage
      cases himage
    · rw [hspace] at himage
      rw [← Option.some.inj himage]
      exact ⟨' ', List.mem_singleton_self _, rfl⟩

/-- The images of all characters make up the mapped name. -/
theorem subset_of_mapCharacters
    {cs mapped : List Char}
    (h : mapCharacters cs = some mapped)
    {c : Char}
    (hc : c ∈ cs) :
    ∃ image, mapCharacter c = some image ∧ image ⊆ mapped := by
  induction cs generalizing mapped with
  | nil => cases hc
  | cons d cs ih =>
      rw [mapCharacters] at h
      obtain ⟨image, himage, h⟩ := Option.bind_eq_some_iff.1 h
      obtain ⟨rest, hrest, h⟩ := Option.bind_eq_some_iff.1 h
      rw [← Option.some.inj h]
      rcases List.mem_cons.1 hc with rfl | hc
      · exact ⟨image, himage, List.subset_append_left _ _⟩
      · obtain ⟨image', himage', hsubset⟩ := ih hrest hc
        exact ⟨image', himage', fun e he => List.mem_append_right _ (hsubset he)⟩

/-! ## Encoded labels -/

/-- What stands behind the last `d` of a text, and what stands in front of it. -/
theorem eq_append_behind_last
    (d : Char)
    (cs : List Char) :
    cs = (cs.reverse.takeWhile (· != d)).reverse ∨
      cs = cs.take (cs.length - (cs.reverse.takeWhile (· != d)).reverse.length - 1) ++
        d :: (cs.reverse.takeWhile (· != d)).reverse := by
  have hsplit := congrArg List.reverse
    (List.takeWhile_append_dropWhile (p := (· != d)) (l := cs.reverse))
  rw [List.reverse_append, List.reverse_reverse] at hsplit
  generalize (cs.reverse.takeWhile (· != d)).reverse = behind at hsplit
  cases hdrop : cs.reverse.dropWhile (· != d) with
  | nil =>
      rw [hdrop] at hsplit
      exact Or.inl hsplit.symm
  | cons e front =>
      have he : e = d := by simpa using head_dropWhile hdrop
      rw [hdrop, he, List.reverse_cons, List.append_assoc, List.singleton_append] at hsplit
      have hlength : cs.length - behind.length - 1 = front.reverse.length := by
        rw [← hsplit, List.length_append, List.length_cons]
        omega
      right
      rw [hlength]
      conv => lhs; rw [← hsplit]
      conv => rhs; rw [← hsplit, List.take_left]

/-- A difference is made of digits. -/
theorem exists_digits_of_readDelta
    {bias place weight value delta : Nat}
    {cs rest : List Char}
    (h : readDelta bias place weight value cs = some (delta, rest)) :
    ∃ digits, cs = digits ++ rest ∧ ∀ c ∈ digits, (digitValue? c).isSome = true := by
  induction cs generalizing place weight value with
  | nil => cases h
  | cons c cs ih =>
      rw [readDelta] at h
      split at h
      · cases h
      · next d hdigit =>
        dsimp only at h
        have hc : (digitValue? c).isSome = true := by rw [hdigit]; rfl
        split at h
        · cases h
          exact ⟨[c], rfl, by simpa using hc⟩
        · obtain ⟨digits, rfl, hdigits⟩ := ih h
          exact ⟨c :: digits, rfl, by simpa [hc] using hdigits⟩

theorem mem_insertAt
    {c d : Char}
    {cs : List Char}
    {i : Nat} :
    c ∈ insertAt cs i d ↔ c ∈ cs ∨ c = d := by
  rw [insertAt, List.mem_append, List.mem_cons, or_left_comm, ← List.mem_append,
    List.take_append_drop, or_comm]

/-- Characters are only added to those that are in place, and all else is digits. -/
theorem mem_of_decodeDeltas
    {fuel n i bias : Nat}
    {first : Bool}
    {done rest label : List Char}
    (h : decodeDeltas fuel n i bias first done rest = some label) :
    done ⊆ label ∧ ∀ c ∈ rest, (digitValue? c).isSome = true := by
  induction fuel generalizing n i bias first done rest with
  | zero => cases h
  | succ fuel ih =>
      cases rest with
      | nil =>
          cases h
          exact ⟨List.Subset.refl _, nofun⟩
      | cons c rest =>
          rw [decodeDeltas.eq_3 _ _ _ _ _ _ _ (List.cons_ne_nil c rest)] at h
          obtain ⟨⟨delta, behind⟩, hdelta, h⟩ := Option.bind_eq_some_iff.1 h
          dsimp only at h
          obtain ⟨digits, hrest, hdigits⟩ := exists_digits_of_readDelta hdelta
          split at h
          · cases h
          · obtain ⟨hdone, hbehind⟩ := ih h
            refine ⟨fun d hd => hdone (mem_insertAt.2 (Or.inl hd)), fun d hd => ?_⟩
            rw [hrest] at hd
            exact (List.mem_append.1 hd).elim (hdigits d) (hbehind d)

/-- An encoded label is made of characters that it stands for, hyphens, and digits. -/
theorem mem_of_decodeLabel?
    {cs label : List Char}
    (h : decodeLabel? cs = some label)
    {c : Char}
    (hc : c ∈ cs) :
    c ∈ label ∨ c = '-' ∨ (digitValue? c).isSome = true := by
  unfold decodeLabel? at h
  dsimp only at h
  split at h
  · obtain ⟨hbasic, htail⟩ := mem_of_decodeDeltas h
    rcases eq_append_behind_last '-' cs with hcs | hcs
    · rw [hcs] at hc
      exact Or.inr (Or.inr (htail c hc))
    · rw [hcs] at hc
      rcases List.mem_append.1 hc with hc | hc
      · exact Or.inl (hbasic hc)
      · rcases List.mem_cons.1 hc with hc | hc
        · exact Or.inr (Or.inl hc)
        · exact Or.inr (Or.inr (htail c hc))
  · cases h

/-! ## Checked labels -/

theorem isForbidden_of_isLow
    {c : Char}
    (h : isLow c = true) :
    isForbidden c = true := by
  have hlow : c.toNat ≤ 32 := of_decide_eq_true h
  simp [isForbidden, hlow]

theorem not_isLow_of_labelFits
    {label : List Char}
    (h : labelFits label = true)
    {c : Char}
    (hc : c ∈ label) :
    isLow c = false := by
  rw [labelFits, Bool.and_eq_true] at h
  have hfits := List.all_eq_true.1 h.2 c hc
  rw [← Bool.not_eq_true]
  intro hlow
  rw [isForbidden_of_isLow hlow] at hfits
  cases hfits

theorem digitValue?_of_isLow
    {c : Char}
    (h : isLow c = true) :
    digitValue? c = none := by
  have hlow : c.toNat ≤ 32 := of_decide_eq_true h
  have hcode : ∀ b : Char, 32 < b.toNat → ¬ b ≤ c := by
    intro b hb hle
    have hle' : b.toNat ≤ c.toNat := hle
    omega
  have hlower : c.isLower = false :=
    Bool.and_eq_false_imp.2 fun hc => absurd (of_decide_eq_true hc) (hcode 'a' (by decide))
  have hupper : c.isUpper = false := decide_eq_false fun hc => hcode 'A' (by decide) hc.1
  have hdigit : c.isDigit = false :=
    Bool.and_eq_false_imp.2 fun hc => absurd (of_decide_eq_true hc) (hcode '0' (by decide))
  rw [digitValue?, hlower, hupper, hdigit]
  rfl

/-- A label with a low character is refused, whatever its form. -/
theorem not_isLow_of_ofPrepared?
    {cs : List Char}
    {label : Label}
    (h : Label.ofPrepared? cs = some label)
    {c : Char}
    (hc : c ∈ cs) :
    isLow c = false := by
  unfold Label.ofPrepared? at h
  split at h
  · next code hcode =>
    rw [← Bool.not_eq_true]
    intro hlow
    have hmem : c ∈ code := by
      rw [eq_append_of_isPrefixOf? hcode, List.mem_append] at hc
      refine hc.resolve_left fun hstart => ?_
      have hall : (encodedStart.all fun d => !isLow d) = true := by decide
      have hhigh := List.all_eq_true.1 hall c hstart
      rw [hlow] at hhigh
      cases hhigh
    split at h
    · obtain ⟨decoded, hdecoded, h⟩ := Option.bind_eq_some_iff.1 h
      split at h
      · next hfits =>
        rw [Bool.and_eq_true] at hfits
        rcases mem_of_decodeLabel? hdecoded hmem with hc' | rfl | hdigit
        · rw [not_isLow_of_labelFits hfits.2 hc'] at hlow
          cases hlow
        · cases hlow
        · rw [digitValue?_of_isLow hlow] at hdigit
          cases hdigit
      · cases h
    · cases h
  · split at h
    · next hfits => exact not_isLow_of_labelFits hfits hc
    · cases h

/-! ## Names -/

theorem exists_of_mapM
    {α β : Type}
    {f : α → Option β}
    {xs : List α}
    {ys : List β}
    (h : xs.mapM f = some ys)
    {x : α}
    (hx : x ∈ xs) :
    ∃ y, f x = some y := by
  induction xs generalizing ys with
  | nil => cases hx
  | cons a xs ih =>
      rw [List.mapM_cons] at h
      obtain ⟨b, hb, h⟩ := Option.bind_eq_some_iff.1 h
      obtain ⟨bs, hbs, -⟩ := Option.bind_eq_some_iff.1 h
      rcases List.mem_cons.1 hx with rfl | hx
      · exact ⟨b, hb⟩
      · exact ih hbs hx

theorem mem_intercalate
    {c d : Char}
    {parts : List (List Char)}
    (h : c ∈ [d].intercalate parts) :
    c = d ∨ ∃ part ∈ parts, c ∈ part := by
  induction parts with
  | nil => cases h
  | cons part parts ih =>
      cases parts with
      | nil =>
          rw [List.intercalate_singleton] at h
          exact Or.inr ⟨part, List.mem_cons_self, h⟩
      | cons next parts =>
          rw [List.intercalate_cons_of_ne_nil (List.cons_ne_nil next parts), List.mem_append,
            List.mem_append, List.mem_singleton] at h
          rcases h with (h | h) | h
          · exact Or.inr ⟨part, List.mem_cons_self, h⟩
          · exact Or.inl h
          · exact (ih h).imp_right fun ⟨part', hpart, hc⟩ =>
              ⟨part', List.mem_cons_of_mem _ hpart, hc⟩

/-- A name that has a form in ASCII has neither blanks nor control characters. -/
theorem notBlank_of_asciiName?
    {cs domain : List Char}
    (h : asciiName? cs = some domain)
    {c : Char}
    (hc : c ∈ cs) :
    isLow c = false ∧ isBlank c = false := by
  obtain ⟨prepared, hprepared, h⟩ := Option.bind_eq_some_iff.1 h
  obtain ⟨labels, hlabels, -⟩ := Option.bind_eq_some_iff.1 h
  obtain ⟨mapped, hmapped, rfl⟩ := Option.map_eq_some_iff.1 hprepared
  rw [← Bool.not_eq_true, ← Bool.not_eq_true, ← not_or]
  intro hblank
  obtain ⟨image, himage, hsubset⟩ := subset_of_mapCharacters hmapped hc
  obtain ⟨e, he, hlow⟩ := exists_isLow_of_mapCharacter hblank himage
  have hcomposed := mem_composed hlow (hsubset he)
  have hparts : ['.'].intercalate ((composed mapped).splitOn '.') = composed mapped :=
    List.intercalate_splitOn '.'
  rw [← hparts] at hcomposed
  rcases mem_intercalate hcomposed with rfl | ⟨part, hpart, hmem⟩
  · cases hlow
  · obtain ⟨label, hlabel⟩ := exists_of_mapM hlabels hpart
    rw [not_isLow_of_ofPrepared? hlabel hmem] at hlow
    cases hlow

end Url
end LinkLedger
