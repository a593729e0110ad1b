import LinkLedger.Json.Decode
import LinkLedger.Json.Writer
import LinkLedger.Proofs.Json.Numerals
import Mathlib.Tactic.SplitIfs

/-!
# Documents are read as they are written

The reader makes of the text of a document a reading without faults, whatever characters its texts
have and whatever numbers it has, as long as these are spelled as documents allow it.

**Results.**
* `readQuoted_quote`: a text between quotation marks is read as it is.
* `readValue_write`: the reader takes the text of a document and leaves what follows.
* `scan_write`, `decodeDocument_render`: a written document is decoded as the document it is.
-/

namespace LinkLedger
namespace Json

/-! ## Texts -/

theorem hexValue?_hexDigit
    {n : Nat}
    (h : n < 16) :
    hexValue? (hexDigit n) = some n := by
  have hall : ∀ n < 16, hexValue? (hexDigit n) = some n := by decide
  exact hall n h

/-- Four characters make four octets at least. -/
theorem readHex4_cons
    {a b c d : Char}
    {m n k l : Nat}
    (ha : hexValue? a = some m)
    (hb : hexValue? b = some n)
    (hc : hexValue? c = some k)
    (hd : hexValue? d = some l)
    (rest : List Char) :
    readHex4 (a :: b :: c :: d :: rest) = .ok (((m * 16 + n) * 16 + k) * 16 + l, rest) := by
  have hsize : ¬ (String.ofList ((a :: b :: c :: d :: rest).take 4)).utf8ByteSize < 4 := by
    have ha := a.utf8Size_pos
    have hb := b.utf8Size_pos
    have hc := c.utf8Size_pos
    have hd := d.utf8Size_pos
    simp only [List.take_succ_cons, List.take_zero, String.ofList_cons, String.utf8ByteSize_append,
      String.utf8ByteSize_singleton]
    omega
  rw [readHex4, if_neg hsize]
  simp only [ha, hb, hc, hd]

/-- A control character that is written by its number is read as itself. -/
theorem readHex4_control
    {c : Char}
    (h : c.toNat < 0x20)
    (cs : List Char) :
    readHex4 ('0' :: '0' :: hexDigit (c.toNat / 16) :: hexDigit (c.toNat % 16) :: cs) =
      .ok (c.toNat, cs) := by
  have hhigh := hexValue?_hexDigit (show c.toNat / 16 < 16 by omega)
  have hlow := hexValue?_hexDigit (show c.toNat % 16 < 16 by omega)
  rw [readHex4_cons (show hexValue? '0' = some 0 from rfl) (show hexValue? '0' = some 0 from rfl)
    hhigh hlow]
  have hvalue : ((0 * 16 + 0) * 16 + c.toNat / 16) * 16 + c.toNat % 16 = c.toNat := by omega
  rw [hvalue]

/-- An escaped character is read as itself. -/
theorem readQuoted_escape
    (fuel : Nat)
    (c : Char)
    (cs : List Char) :
    readQuoted (fuel + 1) (escape c ++ cs) = (readQuoted fuel cs).cons c := by
  have hcode : ∀ n, c.toNat = n → c = Char.ofNat n := by
    rintro n rfl
    exact (Char.ofNat_toNat c).symm
  unfold escape
  split_ifs with hquote hslash hcontrol h8 h9 h10 h12 h13
  · subst hquote
    rfl
  · subst hslash
    rfl
  · rw [hcode 8 h8]
    rfl
  · rw [hcode 9 h9]
    rfl
  · rw [hcode 10 h10]
    rfl
  · rw [hcode 12 h12]
    rfl
  · rw [hcode 13 h13]
    rfl
  · have htrail : isTrail c.toNat = false := by
      simp only [isTrail, Bool.and_eq_false_iff, decide_eq_false_iff_not]
      omega
    have hlead : isLead c.toNat = false := by
      simp only [isLead, Bool.and_eq_false_iff, decide_eq_false_iff_not]
      omega
    have hread := readHex4_control hcontrol cs
    simp only [List.cons_append, List.nil_append, readQuoted]
    rw [hread]
    simp [htrail, hlead]
  · simp [readQuoted, hquote, hslash, hcontrol]

/-- The characters of a text are read up to its closing quotation mark. -/
theorem readQuoted_flatMap_escape
    {s : List Char}
    {fuel : Nat}
    (h : s.length < fuel)
    (rest : List Char) :
    readQuoted fuel (s.flatMap escape ++ '"' :: rest) = .ok s rest := by
  induction s generalizing fuel with
  | nil =>
      obtain ⟨fuel, rfl⟩ := Nat.exists_eq_add_one_of_ne_zero (Nat.ne_of_gt h)
      rfl
  | cons c s ih =>
      obtain ⟨fuel, rfl⟩ := Nat.exists_eq_add_one_of_ne_zero (Nat.ne_of_gt (Nat.zero_lt_of_lt h))
      rw [List.flatMap_cons, List.append_assoc, readQuoted_escape,
        ih (Nat.lt_of_succ_lt_succ h)]
      rfl

/-- No character is lost when a text is escaped. -/
theorem length_le_flatMap_escape
    (s : List Char) :
    s.length ≤ (s.flatMap escape).length := by
  induction s with
  | nil => exact Nat.le_refl 0
  | cons c s ih =>
      have hone : 1 ≤ (escape c).length := by
        unfold escape
        split_ifs <;> simp
      rw [List.flatMap_cons, List.length_append, List.length_cons]
      omega

/-- A text between quotation marks is read as it is. -/
theorem readQuoted_quote
    (s rest : List Char) :
    readQuoted ((s.flatMap escape ++ '"' :: rest).length + 1) (s.flatMap escape ++ '"' :: rest) =
      .ok s rest := by
  have hlength := length_le_flatMap_escape s
  refine readQuoted_flatMap_escape ?_ rest
  rw [List.length_append]
  omega

/-! ## Values -/

mutual

/-- A document whose numbers are spelled as documents allow it. -/
def WellSpelled : Json → Prop
  | .number n => n.WellSpelled
  | .list items => ItemsWellSpelled items
  | .fields entries => EntriesWellSpelled entries
  | _ => True

/-- Items whose numbers are spelled as documents allow it. -/
def ItemsWellSpelled : List Json → Prop
  | [] => True
  | j :: js => j.WellSpelled ∧ ItemsWellSpelled js

/-- Entries whose numbers are spelled as documents allow it. -/
def EntriesWellSpelled : List (String × Json) → Prop
  | [] => True
  | (_, j) :: rest => j.WellSpelled ∧ EntriesWellSpelled rest

end

theorem ne_of_isDigit
    {c d : Char}
    (hc : c.isDigit = true)
    (hd : d.isDigit = false) :
    c ≠ d := by
  rintro rfl
  rw [hd] at hc
  cases hc

theorem isSpace_of_isDigit
    {c : Char}
    (hc : c.isDigit = true) :
    isSpace c = false := by
  simp [isSpace, ne_of_isDigit hc]

/-- The text of a document starts with a character that is no space and closes nothing. -/
theorem exists_write_eq_cons
    {j : Json}
    (h : j.WellSpelled) :
    ∃ c cs, j.write = c :: cs ∧ isSpace c = false ∧ c ≠ ']' := by
  cases j with
  | null => exact ⟨'n', "ull".toList, rfl, rfl, by decide⟩
  | bool b =>
      cases b with
      | false => exact ⟨'f', "alse".toList, rfl, rfl, by decide⟩
      | true => exact ⟨'t', "rue".toList, rfl, rfl, by decide⟩
  | number n =>
      obtain ⟨c, cs, hwrite, hdigit⟩ := Numeral.WellSpelled.exists_write_eq_cons h
      have htext := n.write_eq
      rw [hwrite] at htext
      cases hsign : n.negative with
      | true =>
          rw [hsign] at htext
          exact ⟨'-', c :: cs, htext, rfl, by decide⟩
      | false =>
          rw [hsign] at htext
          exact ⟨c, cs, htext, isSpace_of_isDigit hdigit, ne_of_isDigit hdigit rfl⟩
  | text s => exact ⟨'"', s.toList.flatMap escape ++ ['"'], rfl, rfl, by decide⟩
  | list items => exact ⟨'[', writeItems true items, rfl, rfl, by decide⟩
  | fields entries => exact ⟨'\x7b', writeEntries true entries, rfl, rfl, by decide⟩

theorem skipSpace_cons
    {c : Char}
    (h : isSpace c = false)
    (cs : List Char) :
    skipSpace (c :: cs) = c :: cs :=
  List.dropWhile_cons_of_neg (by simp [h])

theorem length_write_pos
    {j : Json}
    (h : j.WellSpelled) :
    0 < j.write.length := by
  obtain ⟨c, cs, heq, -⟩ := exists_write_eq_cons h
  rw [heq]
  exact Nat.succ_pos _

/-- The reader takes a number as a value. -/
theorem readValue_number
    {n : Numeral}
    (hn : n.WellSpelled)
    (fuel : Nat)
    {rest : List Char}
    (h : EndsNumber rest) :
    readValue (fuel + 1) (n.write ++ rest) = (.number n, some rest) := by
  have hread := readNumber_write hn h
  obtain ⟨c, cs, hwrite, hdigit⟩ := hn.exists_write_eq_cons
  rw [n.write_eq]
  rw [hwrite] at hread ⊢
  rw [List.cons_append] at hread
  unfold readValue
  cases hsign : n.negative with
  | true =>
      rw [hsign] at hread
      exact hread
  | false =>
      rw [hsign] at hread
      rw [if_neg Bool.false_ne_true, List.nil_append, List.cons_append,
        skipSpace_cons (isSpace_of_isDigit hdigit)]
      dsimp only
      rw [if_neg (ne_of_isDigit hdigit rfl), if_neg (ne_of_isDigit hdigit rfl),
        if_neg (ne_of_isDigit hdigit rfl), if_neg (ne_of_isDigit hdigit rfl), if_pos hdigit]
      exact hread

theorem endsNumber_cons
    {c : Char}
    (h : c.isDigit = false ∧ c ≠ '.' ∧ c ≠ 'e' ∧ c ≠ 'E')
    (cs : List Char) :
    EndsNumber (c :: cs) := by
  intro d hd
  rw [← Option.some.inj (List.head?_cons.symm.trans hd)]
  exact h

theorem endsNumber_writeItems
    (items : List Json)
    (rest : List Char) :
    EndsNumber (writeItems false items ++ rest) := by
  cases items with
  | nil => exact endsNumber_cons (by decide) rest
  | cons j js => exact endsNumber_cons (by decide) _

theorem endsNumber_writeEntries
    (entries : List (String × Json))
    (rest : List Char) :
    EndsNumber (writeEntries false entries ++ rest) := by
  cases entries with
  | nil => exact endsNumber_cons (by decide) rest
  | cons e es => exact endsNumber_cons (by decide) _

theorem readValue_text
    (s : String)
    (fuel : Nat)
    (rest : List Char) :
    readValue (fuel + 1) (quote s.toList ++ rest) = (.text s, some rest) := by
  have hread := readQuoted_quote s.toList rest
  unfold readValue quote
  rw [List.cons_append, List.append_assoc, List.singleton_append, skipSpace_cons rfl]
  dsimp only
  rw [if_pos rfl, hread]
  dsimp only
  rw [String.ofList_toList]

/-- The first item of a list, and every other one behind its comma, starts an item. -/
theorem readItems_eq_readItem
    {c : Char}
    (hspace : isSpace c = false)
    (hclose : c ≠ ']')
    (fuel : Nat)
    (first : Bool)
    (cs : List Char) :
    readItems (fuel + 1) first ((if first then [] else [',']) ++ c :: cs) =
      readItem fuel (c :: cs) := by
  cases first with
  | true =>
      rw [if_pos rfl, List.nil_append]
      unfold readItems
      rw [skipSpace_cons hspace]
      split
      · next heq => cases heq
      · next heq =>
        cases heq
        exact absurd rfl hclose
      · next heq =>
        cases heq
        rw [if_pos rfl]
  | false =>
      have hcomma : isSpace ',' = false := rfl
      rw [if_neg (by decide), List.singleton_append]
      unfold readItems
      rw [skipSpace_cons hcomma]
      split
      · next heq => cases heq
      · next heq => exact absurd (List.cons.inj heq).1 (by decide)
      next heq =>
      cases heq
      rw [if_neg (by decide), if_pos rfl, skipSpace_cons hspace]
      split
      · next heq => cases heq
      · next heq =>
        cases heq
        exact absurd rfl hclose
      · rfl

/-- The first entry of an object, and every other one behind its comma, starts with its name. -/
theorem readEntries_eq_readEntry
    (fuel : Nat)
    (first : Bool)
    (cs : List Char) :
    readEntries (fuel + 1) first ((if first then [] else [',']) ++ '"' :: cs) =
      readEntry fuel ('"' :: cs) := by
  cases first with
  | true => rfl
  | false => rfl

/-- An item that can be read is read with those behind it. -/
theorem readItems_cons
    {fuel : Nat}
    {first : Bool}
    {j : Json}
    {text rest : List Char}
    {items : List Reading}
    (hj : j.WellSpelled)
    (hvalue : readValue fuel (j.write ++ text) = (.ofJson j, some text))
    (hrest : readItems fuel false text = (items, .closed, some rest)) :
    readItems (fuel + 2) first ((if first then [] else [',']) ++ (j.write ++ text)) =
      (.ofJson j :: items, .closed, some rest) := by
  have hitem : readItem (fuel + 1) (j.write ++ text) =
      (.ofJson j :: items, .closed, some rest) := by
    unfold readItem
    rw [hvalue]
    dsimp only
    rw [hrest]
  obtain ⟨c, cs, hwrite, hspace, hclose⟩ := exists_write_eq_cons hj
  rw [hwrite, List.cons_append] at hitem ⊢
  rw [readItems_eq_readItem hspace hclose, hitem]

/-- An entry that can be read is read with those behind it. -/
theorem readEntries_cons
    {fuel : Nat}
    {first : Bool}
    {name : String}
    {j : Json}
    {text rest : List Char}
    {entries : List (Label × Reading)}
    (hvalue : readValue fuel (j.write ++ text) = (.ofJson j, some text))
    (hrest : readEntries fuel false text = (entries, .closed, some rest)) :
    readEntries (fuel + 3) first
        ((if first then [] else [',']) ++ (quote name.toList ++ ':' :: (j.write ++ text))) =
      ((.text name, .ofJson j) :: entries, .closed, some rest) := by
  have hnamed : readNamed (fuel + 1) (.text name) (':' :: (j.write ++ text)) =
      ((.text name, .ofJson j) :: entries, .closed, some rest) := by
    have hcolon : isSpace ':' = false := rfl
    simp only [readNamed, skipSpace_cons hcolon, hvalue, hrest]
  rw [quote, List.cons_append, List.append_assoc, List.singleton_append,
    readEntries_eq_readEntry, readEntry, readQuoted_quote]
  dsimp only
  rw [String.ofList_toList, hnamed]

theorem length_writeItems_pos
    (items : List Json) :
    0 < (writeItems false items).length := by
  cases items with
  | nil => exact Nat.succ_pos _
  | cons j js => exact Nat.succ_pos _

/-! ## Documents -/

-- An entry takes three rounds besides those of its value, and it has four characters or more; with
-- four rounds for every character the reader does not run out of them.
mutual

/-- The reader takes the text of a document and leaves what follows. -/
theorem readValue_write :
    ∀ (j : Json), j.WellSpelled → ∀ {rest : List Char}, EndsNumber rest →
      ∀ (fuel : Nat), 4 * j.write.length ≤ fuel →
        readValue fuel (j.write ++ rest) = (.ofJson j, some rest)
  | .null, _, rest, _, fuel, hfuel => by
      obtain ⟨fuel, rfl⟩ := Nat.exists_eq_add_of_le hfuel
      rw [Nat.add_comm]
      rfl
  | .bool true, _, rest, _, fuel, hfuel => by
      obtain ⟨fuel, rfl⟩ := Nat.exists_eq_add_of_le hfuel
      rw [Nat.add_comm]
      rfl
  | .bool false, _, rest, _, fuel, hfuel => by
      obtain ⟨fuel, rfl⟩ := Nat.exists_eq_add_of_le hfuel
      rw [Nat.add_comm]
      rfl
  | .number n, hj, rest, hrest, fuel, hfuel => by
      have hpos := length_write_pos hj
      obtain ⟨fuel, rfl⟩ := Nat.exists_eq_add_one_of_ne_zero (show fuel ≠ 0 by omega)
      exact readValue_number hj fuel hrest
  | .text s, hj, rest, _, fuel, hfuel => by
      have hpos := length_write_pos hj
      obtain ⟨fuel, rfl⟩ := Nat.exists_eq_add_one_of_ne_zero (show fuel ≠ 0 by omega)
      exact readValue_text s fuel rest
  | .list items, hj, rest, _, fuel, hfuel => by
      have hlength : (Json.list items).write.length = (writeItems true items).length + 1 := rfl
      obtain ⟨fuel, rfl⟩ := Nat.exists_eq_add_one_of_ne_zero (show fuel ≠ 0 by omega)
      have hread := readItems_writeItems items hj true rest fuel (by omega)
      have hstep : readValue (fuel + 1) ((Json.list items).write ++ rest) =
          let (items, stop, rest) := readItems fuel true (writeItems true items ++ rest)
          (.list items stop, rest) := rfl
      rw [hstep, hread]
      rfl
  | .fields entries, hj, rest, _, fuel, hfuel => by
      have hlength : (Json.fields entries).write.length =
          (writeEntries true entries).length + 1 := rfl
      obtain ⟨fuel, rfl⟩ := Nat.exists_eq_add_one_of_ne_zero (show fuel ≠ 0 by omega)
      have hread := readEntries_writeEntries entries hj true rest fuel (by omega)
      have hstep : readValue (fuel + 1) ((Json.fields entries).write ++ rest) =
          let (entries, stop, rest) := readEntries fuel true (writeEntries true entries ++ rest)
          (.fields entries stop, rest) := rfl
      rw [hstep, hread]
      rfl

/-- The reader takes the items of a list up to the bracket behind them. -/
theorem readItems_writeItems :
    ∀ (items : List Json), ItemsWellSpelled items → ∀ (first : Bool) (rest : List Char)
      (fuel : Nat), 4 * (writeItems first items).length ≤ fuel →
        readItems fuel first (writeItems first items ++ rest) =
          (Reading.ofItems items, .closed, some rest)
  | [], _, first, rest, fuel, hfuel => by
      obtain ⟨fuel, rfl⟩ := Nat.exists_eq_add_of_le hfuel
      rw [Nat.add_comm]
      rfl
  | j :: js, ⟨hj, hjs⟩, first, rest, fuel, hfuel => by
      have hlength : (writeItems first (j :: js)).length =
          (if first then [] else [',']).length + j.write.length +
            (writeItems false js).length := by
        rw [writeItems, List.length_append, List.length_append]
      have hpos := length_write_pos hj
      have hclose := length_writeItems_pos js
      obtain ⟨fuel, rfl⟩ := Nat.exists_eq_add_of_le (show 2 ≤ fuel by omega)
      have hvalue := readValue_write j hj (endsNumber_writeItems js rest) fuel (by omega)
      have hitems := readItems_writeItems js hjs false rest fuel (by omega)
      rw [writeItems, List.append_assoc, List.append_assoc, Nat.add_comm]
      exact readItems_cons hj hvalue hitems

/-- The reader takes the entries of an object up to the brace behind them. -/
theorem readEntries_writeEntries :
    ∀ (entries : List (String × Json)), EntriesWellSpelled entries →
      ∀ (first : Bool) (rest : List Char) (fuel : Nat),
        4 * (writeEntries first entries).length ≤ fuel →
          readEntries fuel first (writeEntries first entries ++ rest) =
            (Reading.ofEntries entries, .closed, some rest)
  | [], _, first, rest, fuel, hfuel => by
      obtain ⟨fuel, rfl⟩ := Nat.exists_eq_add_of_le hfuel
      rw [Nat.add_comm]
      rfl
  | (name, j) :: es, ⟨hj, hes⟩, first, rest, fuel, hfuel => by
      have hlength : (writeEntries first ((name, j) :: es)).length =
          (if first then [] else [',']).length + (quote name.toList).length + 1 +
            j.write.length + (writeEntries false es).length := by
        simp only [writeEntries, List.length_append, List.length_cons]
        omega
      have hpos := length_write_pos hj
      obtain ⟨fuel, rfl⟩ := Nat.exists_eq_add_of_le (show 3 ≤ fuel by omega)
      have hvalue := readValue_write j hj (endsNumber_writeEntries es rest) fuel
        (by omega)
      have hentries := readEntries_writeEntries es hes false rest fuel (by omega)
      have htext : writeEntries first ((name, j) :: es) ++ rest =
          (if first then [] else [',']) ++
            (quote name.toList ++ ':' :: (j.write ++ (writeEntries false es ++ rest))) := by
        simp only [writeEntries, List.append_assoc, List.cons_append]
      rw [htext, Nat.add_comm]
      exact readEntries_cons hvalue hentries

end

/-- The text of a document is read as the document, without anything behind it. -/
theorem scan_write
    {j : Json}
    (h : j.WellSpelled) :
    scan j.write = ⟨.ofJson j, false⟩ := by
  have hread := readValue_write j h endsNumber_nil (4 * j.write.length + 4) (by omega)
  rw [List.append_nil] at hread
  rw [scan, hread]
  rfl

/-- A written document is decoded as the document it is. -/
theorem decodeDocument_render
    {α : Type}
    {j : Json}
    (h : j.WellSpelled)
    (d : Decoder α) :
    decodeDocument d j.render = d (.ofJson j) := by
  rw [decodeDocument, render, String.toList_ofList, scan_write h]
  cases d (.ofJson j) with
  | error e => rfl
  | ok a => rfl

end Json
end LinkLedger
