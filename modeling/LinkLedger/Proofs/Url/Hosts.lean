import LinkLedger.Proofs.Text.Utf8
import LinkLedger.Proofs.Url.Names
import LinkLedger.Url.Host
import Mathlib.Data.List.TakeWhile

/-!
# Hosts have no blanks

Blanks and control characters of a host are refused wherever they stand, in names and in addresses.
A space that is written as an octet is one all the same.

**Results.**
* `percentDecode_append`: octets are read part by part, where a part does not start with a digit.
* `percentDecode_replaceChar`: spaces may be written as octets.
* `Host.notBlank_of_read`: the characters of a host.
* `Host.space_not_mem_of_read`: a host that was written without spaces had none.
-/

namespace LinkLedger
namespace Url

open Text

/-! ## Octets -/

/-- A character stands for itself, unless it is a percent sign with two digits behind it. -/
theorem percentDecode_cons
    {c : Char}
    {cs : List Char}
    (h : c = '%' → ∀ a b rest, cs = a :: b :: rest → hexValue? a = none ∨ hexValue? b = none) :
    percentDecode (c :: cs) = octetsOf c ++ percentDecode cs := by
  by_cases hsign : c = '%'
  · subst hsign
    match cs, h with
    | [], _ => rw [percentDecode.eq_3 _ _ (by simp)]
    | [a], _ => rw [percentDecode.eq_3 _ _ (by simp)]
    | a :: b :: rest, h =>
        rw [percentDecode.eq_2]
        rcases h rfl a b rest rfl with hnone | hnone
        · rw [hnone]
          rfl
        · rw [hnone]
          cases hexValue? a <;> rfl
  · exact percentDecode.eq_3 c cs fun _ _ _ heq _ => hsign heq

/-- A text that no digit starts is read apart from what stands in front of it. -/
theorem percentDecode_append
    {back : List Char}
    (h : ∀ c, back.head? = some c → hexValue? c = none)
    (front : List Char) :
    percentDecode (front ++ back) = percentDecode front ++ percentDecode back := by
  induction front using percentDecode.induct with
  | case1 => rfl
  | case2 a b front x y hy hx ih =>
      rw [List.cons_append, List.cons_append, List.cons_append, percentDecode.eq_2,
        percentDecode.eq_2, hx, hy]
      dsimp only
      rw [ih, List.cons_append]
  | case3 a b front hnone ih =>
      have hdigits : hexValue? a = none ∨ hexValue? b = none := by
        cases hx : hexValue? a with
        | none => exact Or.inl rfl
        | some x =>
            cases hy : hexValue? b with
            | none => exact Or.inr rfl
            | some y => exact (hnone x y hx hy).elim
      rw [List.cons_append, percentDecode_cons, percentDecode_cons, ih, List.append_assoc]
      all_goals
        rintro - a' b' rest heq
        cases heq
        exact hdigits
  | case4 c front hshort ih =>
      rw [List.cons_append, percentDecode_cons, percentDecode_cons, ih, List.append_assoc]
      · rintro hsign a b rest rfl
        exact (hshort a b rest hsign rfl).elim
      · -- A digit short in front of `back`, which does not start with one.
        intro hsign a b rest heq
        match front with
        | [] => exact Or.inl (h a (congrArg List.head? heq))
        | [d] => exact Or.inr (h b (congrArg List.head? (List.cons.inj heq).2))
        | d :: e :: front => exact (hshort d e front hsign rfl).elim

/-- The octets of a character that is neither a percent sign nor a digit stand among the others. -/
theorem percentDecode_append_cons
    {c : Char}
    (hsign : c ≠ '%')
    (hdigit : hexValue? c = none)
    (front back : List Char) :
    percentDecode (front ++ c :: back) =
      percentDecode front ++ (octetsOf c ++ percentDecode back) := by
  rw [percentDecode_append, percentDecode_cons (fun heq => absurd heq hsign)]
  intro d hd
  rw [← Option.some.inj hd]
  exact hdigit

/-- Spaces may be written as octets. -/
theorem percentDecode_replaceChar
    (cs : List Char) :
    percentDecode (replaceChar ' ' "%20".toList cs) = percentDecode cs := by
  by_cases hspace : ' ' ∈ cs
  · obtain ⟨front, back, hcs, hfront⟩ := List.eq_append_cons_of_mem hspace
    have ih := percentDecode_replaceChar back
    have hreplace : replaceChar ' ' "%20".toList cs =
        front ++ '%' :: '2' :: '0' :: replaceChar ' ' "%20".toList back := by
      conv => rhs; lhs; rw [← replaceChar_of_not_mem hfront "%20".toList]
      rw [hcs]
      simp [replaceChar]
    rw [hreplace, percentDecode_append, percentDecode.eq_2, hcs,
      percentDecode_append_cons (by decide) (by decide), ← ih]
    · rfl
    · intro c hc
      rw [← Option.some.inj hc]
      decide
  · rw [replaceChar_of_not_mem hspace]
termination_by cs.length
decreasing_by
  rw [hcs, List.length_append, List.length_cons]
  omega

/-! ## Names -/

theorem hexValue?_of_isBlank
    {c : Char}
    (h : isLow c = true ∨ isBlank c = true) :
    hexValue? c = none := by
  have hcode : ¬ (48 ≤ c.toNat ∧ c.toNat ≤ 57) ∧ ¬ (65 ≤ c.toNat ∧ c.toNat ≤ 70) ∧
      ¬ (97 ≤ c.toNat ∧ c.toNat ≤ 102) := by
    rcases h with h | h
    · have hlow : c.toNat ≤ 32 := of_decide_eq_true h
      omega
    · simp only [isBlank, Bool.or_eq_true, Bool.and_eq_true, decide_eq_true_eq, beq_iff_eq] at h
      omega
  rw [hexValue?, if_neg hcode.1, if_neg hcode.2.1, if_neg hcode.2.2]

/-- The characters of a host whose octets are those of a name. -/
theorem notBlank_of_decoded
    {cs decoded domain : List Char}
    (hdecoded : decodeOctets (percentDecode cs) = .ok decoded)
    (hname : asciiName? decoded = some domain)
    {c : Char}
    (hc : c ∈ cs) :
    isLow c = false ∧ isBlank c = false := by
  rw [← Bool.not_eq_true, ← Bool.not_eq_true, ← not_or]
  intro hblank
  have hsign : c ≠ '%' := by
    rintro rfl
    revert hblank
    decide
  obtain ⟨front, back, rfl⟩ := List.append_of_mem hc
  rw [percentDecode_append_cons hsign (hexValue?_of_isBlank hblank)] at hdecoded
  have hfits := notBlank_of_asciiName? hname (mem_of_decodeOctets hdecoded)
  rw [hfits.1, hfits.2] at hblank
  simp at hblank

/-! ## Addresses -/

/-- Whether a character may be part of an address of version 6. -/
def isAddressChar (c : Char) : Bool := c = ':' || c = '.' || (hexValue? c).isSome

theorem isAddressChar_of_isDigit
    {c : Char}
    (h : c.isDigit = true) :
    isAddressChar c = true := by
  obtain ⟨hleast, hmost⟩ := Bool.and_eq_true_iff.1 h
  have hcode : 48 ≤ c.toNat ∧ c.toNat ≤ 57 := ⟨of_decide_eq_true hleast, of_decide_eq_true hmost⟩
  rw [isAddressChar, hexValue?, if_pos hcode, Option.isSome_some, Bool.or_true]

theorem drop_length_takeWhile
    (p : Char → Bool)
    (cs : List Char) :
    cs.drop (cs.takeWhile p).length = cs.dropWhile p := by
  conv => lhs; arg 2; rw [← List.takeWhile_append_dropWhile (p := p) (l := cs)]
  exact List.drop_left

theorem exists_digits_of_ipv6Octet?
    {cs rest : List Char}
    {n : Nat}
    (h : ipv6Octet? cs = some (n, rest)) :
    ∃ digits, cs = digits ++ rest ∧ ∀ c ∈ digits, isAddressChar c = true := by
  have hdigits : ∀ c ∈ cs.takeWhile Char.isDigit, isAddressChar c = true :=
    fun c hc => isAddressChar_of_isDigit (List.mem_takeWhile_imp hc)
  unfold ipv6Octet? at h
  dsimp only at h
  split at h
  · cases h
  · cases h
  · split at h
    · rw [drop_length_takeWhile] at h
      cases h
      exact ⟨_, List.takeWhile_append_dropWhile.symm, hdigits⟩
    · cases h

/-- A point and a number of an address of version 4. -/
theorem exists_point_of_ipv6Octet?
    {cs behind rest : List Char}
    {n : Nat}
    (hpoint : ['.'].isPrefixOf? cs = some behind)
    (h : ipv6Octet? behind = some (n, rest)) :
    ∃ front, cs = front ++ rest ∧ ∀ c ∈ front, isAddressChar c = true := by
  have hcs := eq_append_of_isPrefixOf? hpoint
  obtain ⟨digits, rfl, hdigits⟩ := exists_digits_of_ipv6Octet? h
  refine ⟨'.' :: digits, hcs, fun c hc => ?_⟩
  rcases List.mem_cons.1 hc with rfl | hc
  · rfl
  · exact hdigits c hc

theorem isAddressChar_of_ipv6Tail?
    {cs : List Char}
    {pieces : Nat × Nat}
    (h : ipv6Tail? cs = some pieces) :
    ∀ c ∈ cs, isAddressChar c = true := by
  unfold ipv6Tail? at h
  obtain ⟨⟨n₁, cs₁⟩, h₁, h⟩ := Option.bind_eq_some_iff.1 h
  obtain ⟨b₂, hb₂, h⟩ := Option.bind_eq_some_iff.1 h
  obtain ⟨⟨n₂, cs₂⟩, h₂, h⟩ := Option.bind_eq_some_iff.1 h
  obtain ⟨b₃, hb₃, h⟩ := Option.bind_eq_some_iff.1 h
  obtain ⟨⟨n₃, cs₃⟩, h₃, h⟩ := Option.bind_eq_some_iff.1 h
  obtain ⟨b₄, hb₄, h⟩ := Option.bind_eq_some_iff.1 h
  obtain ⟨⟨n₄, cs₄⟩, h₄, h⟩ := Option.bind_eq_some_iff.1 h
  dsimp only at hb₂ hb₃ hb₄ h
  split at h
  · next hempty =>
    obtain ⟨front₁, rfl, hfront₁⟩ := exists_digits_of_ipv6Octet? h₁
    obtain ⟨front₂, rfl, hfront₂⟩ := exists_point_of_ipv6Octet? hb₂ h₂
    obtain ⟨front₃, rfl, hfront₃⟩ := exists_point_of_ipv6Octet? hb₃ h₃
    obtain ⟨front₄, rfl, hfront₄⟩ := exists_point_of_ipv6Octet? hb₄ h₄
    rw [List.isEmpty_iff.1 hempty, List.append_nil]
    simp only [List.forall_mem_append]
    exact ⟨hfront₁, hfront₂, hfront₃, hfront₄⟩
  · cases h

/-- All characters of an address of version 6 are digits, colons and points. -/
theorem isAddressChar_of_ipv6Pieces?
    {fuel : Nat}
    {d : Ipv6Draft}
    {cs : List Char}
    {pieces : List Nat}
    (h : ipv6Pieces? fuel d cs = some pieces) :
    ∀ c ∈ cs, isAddressChar c = true := by
  induction fuel generalizing d cs with
  | zero => cases h
  | succ fuel ih =>
      cases cs with
      | nil => nofun
      | cons c cs =>
          rw [ipv6Pieces?] at h
          split at h
          · cases h
          · split at h
            · next hcolon =>
              split at h
              · cases h
              · rw [List.forall_mem_cons]
                exact ⟨by rw [hcolon]; rfl, ih h⟩
            · dsimp only at h
              have hdigits : ∀ e ∈ ((c :: cs).take 4).takeWhile fun e => (hexValue? e).isSome,
                  isAddressChar e = true := by
                intro e he
                rw [isAddressChar, Bool.or_eq_true]
                exact Or.inr (List.mem_takeWhile_imp (p := fun e => (hexValue? e).isSome) he)
              have hsplit : c :: cs =
                  (((c :: cs).take 4).takeWhile fun e => (hexValue? e).isSome) ++
                  (c :: cs).drop
                    (((c :: cs).take 4).takeWhile fun e => (hexValue? e).isSome).length := by
                obtain ⟨rest, hrest⟩ := (List.takeWhile_prefix
                  (fun e => (hexValue? e).isSome)).trans (List.take_prefix 4 (c :: cs))
                conv => rhs; arg 2; arg 2; rw [← hrest]
                rw [List.drop_left]
                exact hrest.symm
              rw [hsplit, List.forall_mem_append]
              refine ⟨hdigits, ?_⟩
              split at h
              · next hdrop =>
                rw [hdrop]
                nofun
              · split at h
                · cases h
                · split at h
                  · next htail =>
                    rw [hsplit] at htail
                    exact fun e he =>
                      isAddressChar_of_ipv6Tail? htail e (List.mem_append_right _ he)
                  · cases h
              · next rest hdrop =>
                split at h
                · cases h
                · rw [hdrop, List.forall_mem_cons]
                  exact ⟨rfl, ih h⟩
              · cases h

theorem isAddressChar_of_ipv6?
    {cs : List Char}
    {pieces : List Nat}
    (h : ipv6? cs = some pieces) :
    ∀ c ∈ cs, isAddressChar c = true := by
  unfold ipv6? at h
  split at h
  · rw [List.forall_mem_cons, List.forall_mem_cons]
    exact ⟨rfl, rfl, isAddressChar_of_ipv6Pieces? h⟩
  · cases h
  · exact isAddressChar_of_ipv6Pieces? h
  · cases h

theorem isAddressChar_of_bracketedHost
    {inside : List Char}
    {host : Host}
    (h : bracketedHost inside = .ok host) :
    ∀ c ∈ inside, c = ']' ∨ isAddressChar c = true := by
  unfold bracketedHost at h
  split at h
  · next hlast =>
    split at h
    · next hpieces =>
      obtain ⟨front, rfl⟩ := List.getLast?_eq_some_iff.1 hlast
      rw [List.dropLast_concat] at hpieces
      intro c hc
      rw [List.mem_append, List.mem_singleton] at hc
      exact hc.symm.imp_right (isAddressChar_of_ipv6? hpieces c)
    · cases h
  · cases h

/-! ## Hosts -/

/-- A host that is no address in brackets is read as a name first. -/
theorem Host.exists_decoded_of_read
    {cs : List Char}
    {host : Host}
    (h : Host.read cs = .ok host)
    (hbracket : cs.head? ≠ some '[') :
    ∃ decoded domain, decodeOctets (percentDecode cs) = .ok decoded ∧
      asciiName? decoded = some domain := by
  unfold Host.read at h
  split at h
  · exact absurd rfl hbracket
  · split at h
    · cases h
    · next decoded hdecoded =>
      split at h
      · cases h
      · cases h
      · next domain _ hname => exact ⟨decoded, domain, hdecoded, hname⟩

/-- A host has neither blanks nor control characters. -/
theorem Host.notBlank_of_read
    {cs : List Char}
    {host : Host}
    (h : Host.read cs = .ok host)
    {c : Char}
    (hc : c ∈ cs) :
    isLow c = false ∧ isBlank c = false := by
  by_cases hbracket : cs.head? = some '['
  · obtain ⟨inside, rfl⟩ := List.head?_eq_some_iff.1 hbracket
    have hchars := isAddressChar_of_bracketedHost (h : bracketedHost inside = .ok host)
    rw [← Bool.not_eq_true, ← Bool.not_eq_true, ← not_or]
    intro hblank
    have hmarks : c ≠ '[' ∧ c ≠ ']' ∧ c ≠ ':' ∧ c ≠ '.' := by
      refine ⟨?_, ?_, ?_, ?_⟩
      all_goals
        rintro rfl
        revert hblank
        decide
    rcases hchars c ((List.mem_cons.1 hc).resolve_left hmarks.1) with hclose | hchar
    · exact hmarks.2.1 hclose
    · rw [isAddressChar, hexValue?_of_isBlank hblank] at hchar
      simp [hmarks] at hchar
  · obtain ⟨decoded, domain, hdecoded, hname⟩ := Host.exists_decoded_of_read h hbracket
    exact notBlank_of_decoded hdecoded hname hc

/-- A host whose spaces are written as octets has none. -/
theorem Host.space_not_mem_of_read
    {cs : List Char}
    {host : Host}
    (h : Host.read (replaceChar ' ' "%20".toList cs) = .ok host) :
    ' ' ∉ cs := by
  intro hspace
  by_cases hbracket : cs.head? = some '['
  · obtain ⟨inside, rfl⟩ := List.head?_eq_some_iff.1 hbracket
    have hinside : ' ' ∈ inside := by simpa using hspace
    have hchars := isAddressChar_of_bracketedHost
      (h : bracketedHost (replaceChar ' ' "%20".toList inside) = .ok host)
    have hsign := hchars '%' (List.mem_flatMap.2 ⟨' ', hinside, by simp⟩)
    revert hsign
    decide
  · have hbracket' : (replaceChar ' ' "%20".toList cs).head? ≠ some '[' := by
      cases cs with
      | nil => exact hbracket
      | cons c cs =>
          by_cases hc : c = ' '
          · subst hc
            exact fun heq => absurd (Option.some.inj (heq : some '%' = some '[')) (by decide)
          · simpa [replaceChar, hc] using hbracket
    obtain ⟨decoded, domain, hdecoded, hname⟩ := Host.exists_decoded_of_read h hbracket'
    rw [percentDecode_replaceChar] at hdecoded
    have hfits := (notBlank_of_decoded hdecoded hname hspace).1
    revert hfits
    decide

end Url
end LinkLedger
