import LinkLedger.Text.Utf8
import Mathlib.Tactic.SplitIfs

/-!
# Texts are read back from their octets

The octets of a character are a lead and up to three tails.  The reader takes the lead for what it
is: the value it keeps is the upper part of the character, and its bounds on the next octet hold for
every character.  Each tail then adds six bits.

**Results.**
* `decodeOctetsAt_char`: the octets of a character are read as that character.
* `decodeOctets_octets`: the octets of a text are read as that text.
* `mem_of_decodeOctets`: characters are read wherever their octets stand.
-/

namespace LinkLedger
namespace Text

/-- The octets that spell a text in UTF-8. -/
def octets (text : String) : List UInt8 := text.toByteArray.data.toList

theorem octets_ofList
    (cs : List Char) :
    octets (String.ofList cs) = cs.flatMap String.utf8EncodeChar := by
  rw [octets, String.toByteArray_ofList, List.utf8Encode, List.data_toByteArray]

/-! ## Readers that succeed -/

theorem exists_of_map_eq_ok
    {ε α β : Type}
    {f : α → β}
    {x : Except ε α}
    {y : β}
    (h : x.map f = .ok y) :
    ∃ a, x = .ok a ∧ y = f a := by
  cases x with
  | error fault => cases h
  | ok a =>
      cases h
      exact ⟨a, rfl, rfl⟩

theorem exists_of_bind_eq_ok
    {ε α β : Type}
    {x : Except ε α}
    {f : α → Except ε β}
    {b : β}
    (h : (x >>= f) = .ok b) :
    ∃ a, x = .ok a ∧ f a = .ok b := by
  cases x with
  | error fault => cases h
  | ok a => exact ⟨a, rfl, h⟩

/-! ## One octet -/

theorem toNat_ofNat_octet
    {n : Nat}
    (h : n < 256) :
    (UInt8.ofNat n).toNat = n := by
  rw [UInt8.toNat_ofNat', Nat.mod_eq_of_lt h]

/-- An octet below 128 is a character. -/
theorem decodeOctetsAt_single
    {n : Nat}
    (h : n < 0x80)
    (start : Nat)
    (bs : List UInt8) :
    decodeOctetsAt start none (UInt8.ofNat n :: bs) =
      (decodeOctetsAt (start + 1) none bs).map (Char.ofNat n :: ·) := by
  rw [decodeOctetsAt, toNat_ofNat_octet (by omega), if_pos h]

/-- A lead leaves the reader inside a character. -/
theorem decodeOctetsAt_lead
    {n : Nat}
    {c : PartialChar}
    (hleast : 0x80 ≤ n)
    (hmost : n < 256)
    (h : PartialChar.begin? n = some c)
    (start : Nat)
    (bs : List UInt8) :
    decodeOctetsAt start none (UInt8.ofNat n :: bs) = decodeOctetsAt start (some c) bs := by
  rw [decodeOctetsAt, toNat_ofNat_octet hmost, if_neg (by omega), h]

/-- A tail that is not the last one adds six bits. -/
theorem decodeOctetsAt_tail
    {c : PartialChar}
    {n : Nat}
    (howed : 1 < c.owed)
    (hn : n < 64)
    (hlow : c.low ≤ n + 128)
    (hhigh : n + 128 ≤ c.high)
    (start : Nat)
    (bs : List UInt8) :
    decodeOctetsAt start (some c) (UInt8.ofNat (n + 128) :: bs) =
      decodeOctetsAt start
        (some ⟨c.seen + 1, c.owed - 1, 0x80, 0xBF, c.value * 64 + n⟩) bs := by
  have hopen : (c.push (n + 128)).owed ≠ 0 := by
    show c.owed - 1 ≠ 0
    omega
  rw [decodeOctetsAt, toNat_ofNat_octet (by omega), if_pos ⟨hlow, hhigh⟩]
  show (if (c.push (n + 128)).owed = 0 then _ else _) = _
  rw [if_neg hopen, PartialChar.push, Nat.add_sub_cancel]

/-- The last tail completes the character. -/
theorem decodeOctetsAt_last
    {c : PartialChar}
    {n : Nat}
    (howed : c.owed = 1)
    (hn : n < 64)
    (hlow : c.low ≤ n + 128)
    (hhigh : n + 128 ≤ c.high)
    (start : Nat)
    (bs : List UInt8) :
    decodeOctetsAt start (some c) (UInt8.ofNat (n + 128) :: bs) =
      (decodeOctetsAt (start + (c.seen + 1)) none bs).map
        (Char.ofNat (c.value * 64 + n) :: ·) := by
  have hdone : (c.push (n + 128)).owed = 0 := by
    show c.owed - 1 = 0
    omega
  rw [decodeOctetsAt, toNat_ofNat_octet (by omega), if_pos ⟨hlow, hhigh⟩]
  show (if (c.push (n + 128)).owed = 0 then _ else _) = _
  rw [if_pos hdone, PartialChar.push, Nat.add_sub_cancel]

/-! ## One character -/

/-- The lead of two octets: overlong forms are the ones it refuses. -/
theorem begin?_two
    {v : Nat}
    (hleast : 0x80 ≤ v)
    (hmost : v ≤ 0x7FF) :
    PartialChar.begin? (v / 64 % 32 + 192) = some ⟨1, 1, 0x80, 0xBF, v / 64⟩ := by
  have hlead : 0xC2 ≤ v / 64 % 32 + 192 ∧ v / 64 % 32 + 192 ≤ 0xDF := by
    omega
  have hvalue : v / 64 % 32 + 192 - 0xC0 = v / 64 := by
    omega
  rw [PartialChar.begin?, if_pos hlead, hvalue]

/-- The lead of three octets: its bounds keep out overlong forms and surrogates only. -/
theorem begin?_three
    {v : Nat}
    (hleast : 0x800 ≤ v)
    (hmost : v ≤ 0xFFFF)
    (hscalar : v < 0xD800 ∨ 0xDFFF < v) :
    ∃ low high, PartialChar.begin? (v / 4096 % 16 + 224) = some ⟨1, 2, low, high, v / 4096⟩ ∧
      low ≤ v / 64 % 64 + 128 ∧ v / 64 % 64 + 128 ≤ high := by
  unfold PartialChar.begin?
  rw [if_neg (by omega)]
  split_ifs with hfirst hsurrogates hother
  · exact ⟨_, _, by rw [show v / 4096 = 0 by omega], by omega, by omega⟩
  · exact ⟨_, _, by rw [show v / 4096 % 16 + 224 - 0xE0 = v / 4096 by omega], by omega, by omega⟩
  · exact ⟨_, _, by rw [show v / 4096 % 16 + 224 - 0xE0 = v / 4096 by omega], by omega, by omega⟩
  all_goals omega

/-- The lead of four octets: its bounds keep out overlong forms and numbers of no character. -/
theorem begin?_four
    {v : Nat}
    (hleast : 0x10000 ≤ v)
    (hmost : v < 0x110000) :
    ∃ low high, PartialChar.begin? (v / 262144 % 8 + 240) = some ⟨1, 3, low, high, v / 262144⟩ ∧
      low ≤ v / 4096 % 64 + 128 ∧ v / 4096 % 64 + 128 ≤ high := by
  unfold PartialChar.begin?
  rw [if_neg (by omega), if_neg (by omega), if_neg (by omega), if_neg (by omega)]
  split_ifs with hfirst hmiddle hlast
  · exact ⟨_, _, by rw [show v / 262144 = 0 by omega], by omega, by omega⟩
  · exact ⟨_, _, by rw [show v / 262144 % 8 + 240 - 0xF0 = v / 262144 by omega], by omega, by omega⟩
  · exact ⟨_, _, by rw [show v / 262144 = 4 by omega], by omega, by omega⟩
  · omega

/-- The octets of a character are read as that character. -/
theorem decodeOctetsAt_char
    (c : Char)
    (start : Nat)
    (bs : List UInt8) :
    ∃ next, decodeOctetsAt start none (String.utf8EncodeChar c ++ bs) =
      (decodeOctetsAt next none bs).map (c :: ·) := by
  have hscalar : c.val.toNat < 0xD800 ∨ 0xDFFF < c.val.toNat ∧ c.val.toNat < 0x110000 := c.valid
  have hchar : ∀ n, n = c.val.toNat → Char.ofNat n = c := by
    rintro n rfl
    exact c.ofNat_toNat
  -- One case for each number of octets; from here on only the number of the character matters.
  rw [String.utf8EncodeChar.eq_1]
  generalize c.val.toNat = v at hscalar hchar
  split_ifs with hone htwo hthree
  · refine ⟨start + 1, ?_⟩
    rw [List.singleton_append, decodeOctetsAt_single (by omega), hchar v rfl]
  · refine ⟨start + 2, ?_⟩
    rw [List.cons_append, List.singleton_append,
      decodeOctetsAt_lead (by omega) (by omega) (begin?_two (by omega) htwo),
      decodeOctetsAt_last rfl (by omega) (by simp) (by simp; omega), hchar _ (by simp; omega)]
  · obtain ⟨low, high, hlead, hlow, hhigh⟩ := begin?_three (v := v) (by omega) hthree (by omega)
    refine ⟨start + 3, ?_⟩
    rw [List.cons_append, List.cons_append, List.singleton_append,
      decodeOctetsAt_lead (by omega) (by omega) hlead,
      decodeOctetsAt_tail (by simp) (by omega) hlow hhigh,
      decodeOctetsAt_last rfl (by omega) (by simp) (by simp; omega), hchar _ (by simp; omega)]
  · obtain ⟨low, high, hlead, hlow, hhigh⟩ := begin?_four (v := v) (by omega) (by omega)
    refine ⟨start + 4, ?_⟩
    rw [List.cons_append, List.cons_append, List.cons_append, List.singleton_append,
      decodeOctetsAt_lead (by omega) (by omega) hlead,
      decodeOctetsAt_tail (by simp) (by omega) hlow hhigh,
      decodeOctetsAt_tail (by simp) (by omega) (by simp) (by simp; omega),
      decodeOctetsAt_last rfl (by omega) (by simp) (by simp; omega), hchar _ (by simp; omega)]

/-! ## A text -/

theorem decodeOctetsAt_flatMap
    (cs : List Char)
    (start : Nat) :
    decodeOctetsAt start none (cs.flatMap String.utf8EncodeChar) = .ok cs := by
  induction cs generalizing start with
  | nil => rfl
  | cons c cs ih =>
      obtain ⟨next, hchar⟩ := decodeOctetsAt_char c start (cs.flatMap String.utf8EncodeChar)
      rw [List.flatMap_cons, hchar, ih next]
      rfl

/-- The octets of a text are read as that text. -/
@[simp] theorem decodeOctets_octets
    (text : String) :
    decodeOctets (octets text) = .ok text.toList := by
  rw [← text.ofList_toList, octets_ofList, String.toList_ofList]
  exact decodeOctetsAt_flatMap text.toList 0

/-! ## A character among other octets -/

/-- The first octet of a character is never taken for a tail. -/
theorem exists_lead
    (c : Char) :
    ∃ b bs, String.utf8EncodeChar c = b :: bs ∧ (b.toNat < 0x80 ∨ 0xBF < b.toNat) := by
  have hscalar : c.val.toNat < 0xD800 ∨ 0xDFFF < c.val.toNat ∧ c.val.toNat < 0x110000 := c.valid
  rw [String.utf8EncodeChar.eq_1]
  generalize c.val.toNat = v at hscalar
  split_ifs with hone htwo hthree
  · exact ⟨_, _, rfl, by rw [toNat_ofNat_octet (by omega)]; omega⟩
  · exact ⟨_, _, rfl, by rw [toNat_ofNat_octet (by omega)]; omega⟩
  · exact ⟨_, _, rfl, by rw [toNat_ofNat_octet (by omega)]; omega⟩
  · exact ⟨_, _, rfl, by rw [toNat_ofNat_octet (by omega)]; omega⟩

/-- The bounds of a next octet are bounds of tails. -/
def PartialChar.OwesTail (c : PartialChar) : Prop := 0x80 ≤ c.low ∧ c.high ≤ 0xBF

theorem owesTail_of_begin?
    {n : Nat}
    {c : PartialChar}
    (h : PartialChar.begin? n = some c) :
    c.OwesTail := by
  unfold PartialChar.begin? at h
  split_ifs at h
  all_goals
    cases h
    simp [PartialChar.OwesTail]

theorem owesTail_push
    (c : PartialChar)
    (n : Nat) :
    (c.push n).OwesTail :=
  ⟨Nat.le_refl _, Nat.le_refl _⟩

/--
The octets of a character are read as that character wherever they stand, since they cannot be part
of another one.
-/
theorem mem_of_decodeOctetsAt
    {c : Char}
    {front back : List UInt8}
    {start : Nat}
    {state : Option PartialChar}
    {cs : List Char}
    (hstate : ∀ p, state = some p → p.OwesTail)
    (h : decodeOctetsAt start state (front ++ (String.utf8EncodeChar c ++ back)) = .ok cs) :
    c ∈ cs := by
  induction front generalizing start state cs with
  | nil =>
      rw [List.nil_append] at h
      cases state with
      | none =>
          obtain ⟨next, hchar⟩ := decodeOctetsAt_char c start back
          rw [hchar] at h
          obtain ⟨rest, -, rfl⟩ := exists_of_map_eq_ok h
          exact List.mem_cons_self
      | some p =>
          obtain ⟨b, bs, hoctets, hlead⟩ := exists_lead c
          obtain ⟨hlow, hhigh⟩ := hstate p rfl
          rw [hoctets, List.cons_append, decodeOctetsAt, if_neg (by omega)] at h
          cases h
  | cons b front ih =>
      rw [List.cons_append] at h
      cases state with
      | none =>
          rw [decodeOctetsAt] at h
          split at h
          · obtain ⟨rest, hrest, rfl⟩ := exists_of_map_eq_ok h
            exact List.mem_cons_of_mem _ (ih (by simp) hrest)
          · split at h
            · cases h
            · next p hbegin =>
              exact ih (fun q hq => Option.some.inj hq ▸ owesTail_of_begin? hbegin) h
      | some p =>
          rw [decodeOctetsAt] at h
          split at h
          · dsimp only at h
            split at h
            · obtain ⟨rest, hrest, rfl⟩ := exists_of_map_eq_ok h
              exact List.mem_cons_of_mem _ (ih (by simp) hrest)
            · exact ih (fun q hq => Option.some.inj hq ▸ owesTail_push p _) h
          · cases h

/-- A character whose octets stand among others is read if these are text at all. -/
theorem mem_of_decodeOctets
    {c : Char}
    {front back : List UInt8}
    {cs : List Char}
    (h : decodeOctets (front ++ (String.utf8EncodeChar c ++ back)) = .ok cs) :
    c ∈ cs :=
  mem_of_decodeOctetsAt (by simp) h

end Text
end LinkLedger
