import LinkLedger.Json.Quantity
import LinkLedger.Json.Reader
import LinkLedger.Json.Writer

/-!
# Numbers in documents

A number is written as it is spelled, and read again so.  A natural number is written in decimal
digits without leading zeros; these stand for it as long as it fits into 64 bits, and a larger one
stands for a floating point number.

**Results.**
* `readNumber_write`: the reader takes a number as it is spelled and leaves what follows.
* `takeWhole_of_le`: the digits of a number that fits are all taken in.
* `eq_of_quantity?_ofNat`: no number is mistaken for another one.
-/

namespace LinkLedger

namespace Decimal

theorem isDigit_of_mem_digitsOf
    {n : Nat}
    {c : Char}
    (h : c ∈ digitsOf n) :
    c.isDigit = true :=
  Nat.isDigit_of_mem_toDigits (by decide) (by decide) h

theorem digitsOf_ne_nil
    (n : Nat) :
    digitsOf n ≠ [] :=
  Nat.toDigits_ne_nil

/-- A positive number does not start with a zero. -/
theorem head?_digitsOf
    {n : Nat}
    (h : 0 < n) :
    (digitsOf n).head? ≠ some '0' := by
  induction n using Nat.strongRecOn with
  | ind n ih =>
      by_cases hsmall : n < 10
      · rw [digitsOf, Nat.toDigits_of_lt_base hsmall, List.head?_cons]
        intro hzero
        have hvalue := Nat.toNat_digitChar_sub_48_of_lt_ten hsmall
        rw [Option.some.inj hzero] at hvalue
        exact Nat.ne_of_gt h hvalue.symm
      · have hrest := ih (n / 10) (by omega) (by omega)
        rw [digitsOf, Nat.toDigits_of_base_le (by decide) (by omega), List.head?_append]
        rw [digitsOf] at hrest
        cases hdigits : (Nat.toDigits 10 (n / 10)).head? with
        | none => exact absurd (List.head?_eq_none_iff.1 hdigits) Nat.toDigits_ne_nil
        | some d =>
            rw [hdigits] at hrest
            exact hrest

/-- The digits of a number have no zero in front of others. -/
theorem digitsOf_ne_zero_cons
    (n : Nat)
    (c : Char)
    (cs : List Char) :
    digitsOf n ≠ '0' :: c :: cs := by
  intro h
  rcases Nat.eq_zero_or_pos n with rfl | hpos
  · cases h
  · have hhead := head?_digitsOf hpos
    rw [h] at hhead
    exact hhead rfl

end Decimal

namespace Json

/-! ## Reading digits -/

/-- What may follow a number. -/
def EndsNumber (rest : List Char) : Prop :=
  ∀ c, rest.head? = some c → c.isDigit = false ∧ c ≠ '.' ∧ c ≠ 'e' ∧ c ≠ 'E'

theorem endsNumber_nil :
    EndsNumber [] := by
  intro c h
  cases h

theorem readDigits_append
    {digits rest : List Char}
    (hdigits : ∀ c ∈ digits, c.isDigit = true)
    (hrest : ∀ c, rest.head? = some c → c.isDigit = false) :
    readDigits (digits ++ rest) = (digits, rest) := by
  have hstop : rest.takeWhile Char.isDigit = [] ∧ rest.dropWhile Char.isDigit = rest := by
    cases rest with
    | nil => exact ⟨rfl, rfl⟩
    | cons c rest =>
        have hc := hrest c rfl
        exact ⟨List.takeWhile_cons_of_neg (by simp [hc]), List.dropWhile_cons_of_neg (by simp [hc])⟩
  rw [readDigits, List.takeWhile_append_of_pos hdigits, List.dropWhile_append_of_pos hdigits,
    hstop.1, hstop.2, List.append_nil]

theorem readPower_of_endsNumber
    {rest : List Char}
    (h : EndsNumber rest)
    (negative : Bool)
    (whole fraction : List Char) :
    readPower negative whole fraction rest =
      (.number ⟨negative, whole, fraction, none⟩, some rest) := by
  cases rest with
  | nil => rfl
  | cons c rest =>
      obtain ⟨-, -, hlower, hupper⟩ := h c rfl
      unfold readPower
      exact if_neg (by simp [hlower, hupper])

/-- A number is spelled as documents allow it: with digits in front of the point and no zero in
front of them, with digits in its other parts, and with some in its exponent. -/
structure Numeral.WellSpelled (n : Numeral) : Prop where
  whole_ne_nil : n.whole ≠ []
  whole : ∀ c ∈ n.whole, c.isDigit = true
  lead : ∀ c cs, n.whole ≠ '0' :: c :: cs
  fraction : ∀ c ∈ n.fraction, c.isDigit = true
  power : ∀ p ∈ n.power, p.2 ≠ [] ∧ ∀ c ∈ p.2, c.isDigit = true

theorem wellSpelled_ofNat
    (n : Nat) :
    (Numeral.ofNat n).WellSpelled :=
  ⟨Decimal.digitsOf_ne_nil n, fun _ => Decimal.isDigit_of_mem_digitsOf,
    Decimal.digitsOf_ne_zero_cons n, nofun, nofun⟩

/-- The exponent of a number as it is written. -/
def writePower : Option (Bool × List Char) → List Char
  | none => []
  | some (down, digits) => 'e' :: (if down then ['-'] else []) ++ digits

/-- A number is written behind its sign. -/
theorem Numeral.write_eq
    (n : Numeral) :
    n.write = (if n.negative then ['-'] else []) ++ { n with negative := false }.write := by
  simp [Numeral.write]

theorem Numeral.write_unsigned
    (n : Numeral) :
    { n with negative := false }.write =
      n.whole ++
        ((if n.fraction.isEmpty then [] else '.' :: n.fraction) ++ writePower n.power) := by
  rw [← List.append_assoc]
  rfl

/-- Behind its sign, a number starts with a digit. -/
theorem Numeral.WellSpelled.exists_write_eq_cons
    {n : Numeral}
    (h : n.WellSpelled) :
    ∃ c cs, { n with negative := false }.write = c :: cs ∧ c.isDigit = true := by
  rw [n.write_unsigned]
  cases hwhole : n.whole with
  | nil => exact absurd hwhole h.whole_ne_nil
  | cons c cs => exact ⟨c, _, rfl, h.whole c (by rw [hwhole]; exact List.mem_cons_self)⟩

/-- What follows the digits of a number is no digit and no point. -/
theorem head?_writePower_append
    {rest : List Char}
    (h : EndsNumber rest)
    (power : Option (Bool × List Char))
    {c : Char}
    (hc : (writePower power ++ rest).head? = some c) :
    c.isDigit = false ∧ c ≠ '.' := by
  cases power with
  | none => exact ⟨(h c hc).1, (h c hc).2.1⟩
  | some p =>
      obtain rfl : 'e' = c := Option.some.inj hc
      exact ⟨rfl, by decide⟩

theorem readPower_writePower
    {rest : List Char}
    (h : EndsNumber rest)
    (negative : Bool)
    (whole fraction : List Char)
    {power : Option (Bool × List Char)}
    (hpower : ∀ p ∈ power, p.2 ≠ [] ∧ ∀ c ∈ p.2, c.isDigit = true) :
    readPower negative whole fraction (writePower power ++ rest) =
      (.number ⟨negative, whole, fraction, power⟩, some rest) := by
  cases power with
  | none => exact readPower_of_endsNumber h negative whole fraction
  | some p =>
      obtain ⟨down, digits⟩ := p
      obtain ⟨hne, hdigits⟩ := hpower _ rfl
      have hread := readDigits_append hdigits fun c hc => (h c hc).1
      have hnonempty : digits.isEmpty = false := by
        rwa [Bool.eq_false_iff, Ne, List.isEmpty_iff]
      cases down with
      | true =>
          unfold readPower
          simp [writePower, hread, hnonempty]
      | false =>
          cases digits with
          | nil => exact absurd rfl hne
          | cons d ds =>
              -- The first digit is no sign.
              have hother : ∀ sign : Char, sign.isDigit = false → d ≠ sign := by
                rintro sign hsign rfl
                rw [hdigits d List.mem_cons_self] at hsign
                cases hsign
              have hminus : d ≠ '-' := hother '-' rfl
              have hplus : d ≠ '+' := hother '+' rfl
              rw [List.cons_append] at hread
              unfold readPower
              simp [writePower, hread, hminus, hplus]

/-- The reader takes the digits of a number, its point and its exponent, and leaves what
follows. -/
theorem readNumber_write
    {n : Numeral}
    (hn : n.WellSpelled)
    {rest : List Char}
    (h : EndsNumber rest) :
    readNumber n.negative ({ n with negative := false }.write ++ rest) =
      (.number n, some rest) := by
  obtain ⟨negative, whole, fraction, power⟩ := n
  obtain ⟨hne, hwhole, hlead, hfraction, hpower⟩ := hn
  dsimp only at hne hwhole hlead hfraction hpower
  have hend := readPower_writePower h negative whole fraction hpower
  have htext := Numeral.write_unsigned ⟨negative, whole, fraction, power⟩
  dsimp only at htext ⊢
  rw [htext, List.append_assoc, List.append_assoc]
  unfold readNumber
  cases fraction with
  | nil =>
      have hread : readDigits (whole ++ (writePower power ++ rest)) =
          (whole, writePower power ++ rest) :=
        readDigits_append hwhole fun c hc => (head?_writePower_append h power hc).1
      rw [List.isEmpty_nil, if_pos rfl, List.nil_append, hread]
      dsimp only
      split
      · exact absurd rfl hne
      · exact absurd rfl (hlead _ _)
      · split
        · next heq =>
          have hpoint := head?_writePower_append h power (c := '.') (by rw [heq]; rfl)
          exact absurd rfl hpoint.2
        · exact hend
  | cons d ds =>
      have hread : readDigits (whole ++ '.' :: (d :: ds ++ (writePower power ++ rest))) =
          (whole, '.' :: (d :: ds ++ (writePower power ++ rest))) := by
        refine readDigits_append hwhole fun c hc => ?_
        obtain rfl : '.' = c := Option.some.inj hc
        rfl
      have hpoint : readDigits (d :: ds ++ (writePower power ++ rest)) =
          (d :: ds, writePower power ++ rest) :=
        readDigits_append hfraction fun c hc => (head?_writePower_append h power hc).1
      rw [List.isEmpty_cons, if_neg (by decide), List.cons_append, hread]
      dsimp only
      split
      · exact absurd rfl hne
      · exact absurd rfl (hlead _ _)
      · split
        · next heq =>
          cases heq
          rw [hpoint]
          exact hend
        · next hother => exact absurd rfl (hother _)

/-! ## What digits stand for -/

theorem numberOfDigits_digitsOf
    (n : Nat) :
    numberOfDigits (Decimal.digitsOf n) = n := by
  have hstep : (fun (m : Nat) (c : Char) => m * 10 + digitValue c) =
      fun m c => 10 * m + (c.toNat - '0'.toNat) := by
    funext m c
    rw [Nat.mul_comm, digitValue]
    rfl
  rw [numberOfDigits, hstep, ← Nat.ofDigitChars_eq_foldl]
  exact Nat.ofDigitChars_ten_toDigits

/-- Further digits do not make a number smaller. -/
theorem le_foldl_digits
    (cs : List Char)
    (m : Nat) :
    m ≤ cs.foldl (fun n c => n * 10 + digitValue c) m := by
  induction cs generalizing m with
  | nil => exact Nat.le_refl m
  | cons c cs ih =>
      have hrest := ih (m * 10 + digitValue c)
      rw [List.foldl_cons]
      omega

/-- The digits of a number that fits are all taken in. -/
theorem takeWhole_of_le
    {cs : List Char}
    {m : Nat}
    (h : cs.foldl (fun n c => n * 10 + digitValue c) m ≤ maxNatural) :
    takeWhole m cs = (cs.foldl (fun n c => n * 10 + digitValue c) m, 0) := by
  induction cs generalizing m with
  | nil => rfl
  | cons c cs ih =>
      rw [List.foldl_cons] at h ⊢
      rw [takeWhole, if_pos (Nat.le_trans (le_foldl_digits cs _) h), ih h]

/-- Digits that are all taken in stand for their number, which fits. -/
theorem of_takeWhole_eq_zero
    {cs : List Char}
    {m k : Nat}
    (hm : m ≤ maxNatural)
    (h : takeWhole m cs = (k, 0)) :
    cs.foldl (fun n c => n * 10 + digitValue c) m = k ∧ k ≤ maxNatural := by
  induction cs generalizing m with
  | nil =>
      cases h
      exact ⟨rfl, hm⟩
  | cons c cs ih =>
      rw [takeWhole] at h
      split at h
      · next hfits => exact ih hfits h
      · cases h

theorem quantity?_ofNat
    {n : Nat}
    (h : n ≤ maxNatural) :
    (Numeral.ofNat n).quantity? = some (.natural n) := by
  have hvalue := numberOfDigits_digitsOf n
  rw [numberOfDigits] at hvalue
  have htake : takeWhole 0 (Decimal.digitsOf n) = (n, 0) := by
    rw [takeWhole_of_le (by rw [hvalue]; exact h), hvalue]
  unfold Numeral.quantity? Numeral.ofNat
  dsimp only
  rw [htake]
  rfl

/-- No natural number is mistaken for another one. -/
theorem eq_of_quantity?_ofNat
    {n k : Nat}
    (h : (Numeral.ofNat n).quantity? = some (.natural k)) :
    k = n := by
  unfold Numeral.quantity? Numeral.ofNat at h
  dsimp only at h
  rcases htake : takeWhole 0 (Decimal.digitsOf n) with ⟨lead, dropped⟩
  rw [htake] at h
  dsimp only at h
  split at h
  · next hall =>
    obtain ⟨-, -, rfl⟩ := hall
    obtain ⟨hvalue, -⟩ := of_takeWhole_eq_zero (Nat.zero_le _) htake
    rw [if_pos rfl] at h
    cases h
    rw [← hvalue]
    exact numberOfDigits_digitsOf n
  · obtain ⟨x, -, hx⟩ := Option.map_eq_some_iff.1 h
    cases hx

end Json
end LinkLedger
