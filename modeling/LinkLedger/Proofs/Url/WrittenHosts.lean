import LinkLedger.Proofs.Json.Numerals
import LinkLedger.Proofs.Url.Hosts

/-!
# Hosts as they are written

A host is written without the characters that no name may have, apart from the brackets and the
colons of an address of version 6.  So neither a slash nor an at sign nor a space stands in it.

**Results.**
* `not_isForbidden_of_encodeLabel`, `not_isForbidden_of_asciiName?`: labels and names in ASCII.
* `isHostChar_of_writeIpv4`, `isHostChar_of_writeIpv6`: addresses.
* `Host.isHostChar_of_read`: the characters of a written host.
-/

namespace LinkLedger
namespace Url

/-! ## Letters and digits -/

theorem not_isForbidden_of_isAlphanum
    {c : Char}
    (h : c.isAlphanum = true) :
    isForbidden c = false := by
  change ((c.isUpper || c.isLower) || c.isDigit) = true at h
  have hmost : c.val ≤ 'z'.val := by
    rw [Bool.or_eq_true, Bool.or_eq_true] at h
    rcases h with (hupper | hlower) | hdigit
    · exact UInt32.le_trans (of_decide_eq_true hupper).2 (by decide)
    · exact of_decide_eq_true (Bool.and_eq_true_iff.1 hlower).2
    · exact UInt32.le_trans (of_decide_eq_true (Bool.and_eq_true_iff.1 hdigit).2) (by decide)
  have hcode : c.toNat < 128 := Nat.lt_of_le_of_lt (UInt32.le_iff_toNat_le.1 hmost) (by decide)
  have hall : ∀ n < 128, (Char.ofNat n).isAlphanum = true → isForbidden (Char.ofNat n) = false := by
    decide
  have hself := hall c.toNat hcode
  rw [Char.ofNat_toNat] at hself
  exact hself h

/-- A digit in base 36 that is written is a small letter or a digit. -/
theorem not_isForbidden_digitChar
    {d : Nat}
    (h : d < 36) :
    isForbidden (digitChar d) = false := by
  revert d
  decide

theorem not_isForbidden_of_digitValue?
    {c : Char}
    (h : (digitValue? c).isSome = true) :
    isForbidden c = false := by
  refine not_isForbidden_of_isAlphanum ?_
  rw [digitValue?] at h
  change ((c.isUpper || c.isLower) || c.isDigit) = true
  rw [Bool.or_eq_true, Bool.or_eq_true]
  split at h
  · next hlower => exact Or.inl (Or.inr hlower)
  · split at h
    · next hupper => exact Or.inl (Or.inl hupper)
    · split at h
      · next hdigit => exact Or.inr hdigit
      · cases h

/-! ## Labels -/

theorem exists_digitChar_of_digitsOfDelta
    {bias place q : Nat}
    {c : Char}
    (h : c ∈ digitsOfDelta bias place q) :
    ∃ d < 36, c = digitChar d := by
  induction place, q using digitsOfDelta.induct bias with
  | case1 place q t hq =>
      rw [digitsOfDelta, if_pos hq, List.mem_singleton] at h
      have hle := threshold_le place bias
      exact ⟨q, by omega, h⟩
  | case2 place q t hq ih =>
      rw [digitsOfDelta, if_neg hq] at h
      rcases List.mem_cons.1 h with rfl | h
      · have hle := threshold_le place bias
        have hmod : (q - t) % (36 - t) < 36 - t := Nat.mod_lt _ (by omega)
        exact ⟨t + (q - t) % (36 - t), by omega, rfl⟩
      · exact ih h

/-- The encoder writes digits only. -/
theorem Encoding.over_digits
    {basic n : Nat}
    {e : Encoding}
    (h : ∀ c ∈ e.digits, isForbidden c = false)
    (d : Char) :
    ∀ c ∈ (e.over basic n d).digits, isForbidden c = false := by
  unfold Encoding.over
  split
  · exact h
  · split
    · intro c hc
      rcases List.mem_append.1 hc with hc | hc
      · exact h c hc
      · obtain ⟨value, hvalue, rfl⟩ := exists_digitChar_of_digitsOfDelta hc
        exact not_isForbidden_digitChar hvalue
    · exact h

theorem not_isForbidden_of_encodeValues
    {cs : List Char}
    {basic next : Nat}
    {values : List Nat}
    {e : Encoding}
    (h : ∀ c ∈ e.digits, isForbidden c = false) :
    ∀ c ∈ (encodeValues cs basic values next e).digits, isForbidden c = false := by
  induction values generalizing next e with
  | nil => exact h
  | cons n values ih =>
      have hpass : ∀ (front : List Char) (e' : Encoding),
          (∀ c ∈ e'.digits, isForbidden c = false) →
          ∀ c ∈ (front.foldl (Encoding.over basic n) e').digits, isForbidden c = false := by
        intro front
        induction front with
        | nil => exact fun e' h' => h'
        | cons d front ih' => exact fun e' h' => ih' _ (Encoding.over_digits h' d)
      exact ih (hpass cs _ h)

theorem not_isForbidden_of_encodeLabel
    {cs : List Char}
    (h : ∀ c ∈ cs, isForbidden c = false)
    {c : Char}
    (hc : c ∈ encodeLabel cs) :
    isForbidden c = false := by
  rw [encodeLabel, List.mem_append, List.mem_append] at hc
  rcases hc with (hc | hc) | hc
  · exact h c (List.mem_filter.1 hc).1
  · split at hc
    · cases hc
    · rw [List.mem_singleton] at hc
      subst hc
      decide
  · exact not_isForbidden_of_encodeValues (fun _ hnone => absurd hnone List.not_mem_nil) c hc

theorem not_isForbidden_of_labelFits
    {label : List Char}
    (h : labelFits label = true)
    {c : Char}
    (hc : c ∈ label) :
    isForbidden c = false := by
  rw [labelFits, Bool.and_eq_true] at h
  simpa using List.all_eq_true.1 h.2 c hc

/-- The start of an encoded label in front of what fits. -/
theorem not_isForbidden_of_encodedStart_append
    {code : List Char}
    (h : ∀ c ∈ code, isForbidden c = false) :
    ∀ c ∈ encodedStart ++ code, isForbidden c = false := by
  have hstart : (encodedStart.all fun d => !isForbidden d) = true := by decide
  rw [List.forall_mem_append]
  exact ⟨fun c hc => by simpa using List.all_eq_true.1 hstart c hc, h⟩

theorem not_isForbidden_of_ofPrepared?
    {cs : List Char}
    {label : Label}
    (h : Label.ofPrepared? cs = some label) :
    ∀ c ∈ label.ascii, isForbidden c = false := by
  unfold Label.ofPrepared? at h
  split at h
  · next code hcode =>
    split at h
    · obtain ⟨decoded, hdecoded, h⟩ := Option.bind_eq_some_iff.1 h
      split at h
      · next hfits =>
        rw [Bool.and_eq_true] at hfits
        cases h
        rw [Text.eq_append_of_isPrefixOf? hcode]
        refine not_isForbidden_of_encodedStart_append fun c hc => ?_
        rcases mem_of_decodeLabel? hdecoded hc with hc | rfl | hdigit
        · exact not_isForbidden_of_labelFits hfits.2 hc
        · decide
        · exact not_isForbidden_of_digitValue? hdigit
      · cases h
    · cases h
  · split at h
    · next hfits =>
      split at h
      · cases h
        exact fun c hc => not_isForbidden_of_labelFits hfits hc
      · split at h
        · cases h
          exact not_isForbidden_of_encodedStart_append fun c hc =>
            not_isForbidden_of_encodeLabel (fun d hd => not_isForbidden_of_labelFits hfits hd) hc
        · cases h
    · cases h

theorem exists_of_mem_mapM
    {α β : Type}
    {f : α → Option β}
    {xs : List α}
    {ys : List β}
    (h : xs.mapM f = some ys)
    {y : β}
    (hy : y ∈ ys) :
    ∃ x ∈ xs, f x = some y := by
  induction xs generalizing ys with
  | nil =>
      rw [List.mapM_nil] at h
      cases h
      cases hy
  | cons a xs ih =>
      rw [List.mapM_cons] at h
      obtain ⟨b, hb, h⟩ := Option.bind_eq_some_iff.1 h
      obtain ⟨bs, hbs, h⟩ := Option.bind_eq_some_iff.1 h
      cases h
      rcases List.mem_cons.1 hy with rfl | hy
      · exact ⟨a, List.mem_cons_self, hb⟩
      · obtain ⟨x, hx, hfx⟩ := ih hbs hy
        exact ⟨x, List.mem_cons_of_mem _ hx, hfx⟩

theorem not_isForbidden_of_asciiName?
    {cs domain : List Char}
    (h : asciiName? cs = some domain) :
    ∀ c ∈ domain, isForbidden c = false := by
  obtain ⟨prepared, -, h⟩ := Option.bind_eq_some_iff.1 h
  obtain ⟨labels, hlabels, h⟩ := Option.bind_eq_some_iff.1 h
  dsimp only at h
  split at h
  · cases h
  · cases h
    intro c hc
    rcases mem_intercalate hc with rfl | ⟨part, hpart, hmem⟩
    · decide
    · obtain ⟨label, hlabel, rfl⟩ := List.mem_map.1 hpart
      obtain ⟨text, -, hread⟩ := exists_of_mem_mapM hlabels hlabel
      exact not_isForbidden_of_ofPrepared? hread c hmem

/-! ## Addresses -/

/-- Whether a character may stand in a host as it is written. -/
def isHostChar (c : Char) : Bool := !isForbidden c || "[:]".toList.contains c

theorem isHostChar_of_not_isForbidden
    {c : Char}
    (h : isForbidden c = false) :
    isHostChar c = true := by
  rw [isHostChar, h]
  rfl

theorem isHostChar_of_mem_digitsOf
    {n : Nat}
    {c : Char}
    (h : c ∈ Decimal.digitsOf n) :
    isHostChar c = true := by
  have hdigit := Decimal.isDigit_of_mem_digitsOf h
  refine isHostChar_of_not_isForbidden (not_isForbidden_of_isAlphanum ?_)
  rw [Char.isAlphanum, hdigit, Bool.or_true]

theorem isHostChar_of_mem_lowerHex
    {n : Nat}
    {c : Char}
    (h : c ∈ lowerHex n) :
    isHostChar c = true := by
  have hall : ∀ d < 16, isHostChar (Nat.digitChar d) = true := by decide
  unfold lowerHex at h
  induction n using Nat.strongRecOn with
  | _ n ih =>
      by_cases hsmall : n < 16
      · rw [Nat.toDigits_of_lt_base hsmall, List.mem_singleton] at h
        rw [h]
        exact hall n hsmall
      · rw [Nat.toDigits_of_base_le (by decide) (by omega), List.mem_append,
          List.mem_singleton] at h
        rcases h with h | rfl
        · exact ih (n / 16) (by omega) h
        · exact hall _ (Nat.mod_lt _ (by decide))

theorem isHostChar_of_writeIpv4
    {n : Nat}
    {c : Char}
    (h : c ∈ writeIpv4 n) :
    isHostChar c = true := by
  rcases mem_intercalate h with rfl | ⟨part, hpart, hc⟩
  · decide
  · obtain ⟨m, -, rfl⟩ := List.mem_map.1 hpart
    exact isHostChar_of_mem_digitsOf hc

theorem isHostChar_of_writeIpv6
    {pieces : List Nat}
    {c : Char}
    (h : c ∈ writeIpv6 pieces) :
    isHostChar c = true := by
  have hpart : ∀ ns : List Nat, c ∈ [':'].intercalate (ns.map lowerHex) → isHostChar c = true := by
    intro ns hc
    rcases mem_intercalate hc with rfl | ⟨part, hmem, hc⟩
    · decide
    · obtain ⟨m, -, rfl⟩ := List.mem_map.1 hmem
      exact isHostChar_of_mem_lowerHex hc
  unfold writeIpv6 at h
  dsimp only at h
  split at h
  · rw [List.mem_append, List.mem_append] at h
    rcases h with (h | h) | h
    · exact hpart _ h
    · have hcolons : ("::".toList.all isHostChar) = true := by decide
      exact List.all_eq_true.1 hcolons c h
    · exact hpart _ h
  · exact hpart _ h

/-! ## Hosts -/

theorem isHostChar_of_bracketedHost
    {inside : List Char}
    {host : Host}
    (h : bracketedHost inside = .ok host) :
    ∀ c ∈ host.write, isHostChar c = true := by
  unfold bracketedHost at h
  split at h
  · split at h
    · cases h
      intro c hc
      rw [Host.write, List.mem_append, List.mem_cons, List.mem_singleton] at hc
      rcases hc with (rfl | hc) | rfl
      · decide
      · exact isHostChar_of_writeIpv6 hc
      · decide
    · cases h
  · cases h

/-- A host that has been read is written without the characters that no name may have, apart from
brackets and colons. -/
theorem Host.isHostChar_of_read
    {cs : List Char}
    {host : Host}
    (h : Host.read cs = .ok host) :
    ∀ c ∈ host.write, isHostChar c = true := by
  unfold Host.read at h
  split at h
  · exact isHostChar_of_bracketedHost h
  · split at h
    · cases h
    · split at h
      · cases h
      · cases h
      · next domain _ hname =>
        split at h
        · split at h
          · cases h
            exact fun c hc => isHostChar_of_writeIpv4 hc
          · cases h
        · cases h
          exact fun c hc => isHostChar_of_not_isForbidden (not_isForbidden_of_asciiName? hname c hc)

end Url
end LinkLedger
