/-!
# Blank characters and trimming

A blank is a character with the Unicode property `White_Space`.  Texts are lists of characters
here; the functions on `String` at the end of the file only convert.

**Results.**
* `trim_eq_nil_iff`: trimming leaves nothing exactly when every character is blank.
* `trim_trim`: trimming a second time changes nothing.
-/

namespace LinkLedger
namespace Text

/-- The characters with the Unicode property `White_Space`. -/
def isBlank (c : Char) : Bool :=
  let n := c.toNat
  (9 ≤ n && n ≤ 13) || n == 0x20 || n == 0x85 || n == 0xA0 || n == 0x1680 ||
    (0x2000 ≤ n && n ≤ 0x200A) || n == 0x2028 || n == 0x2029 || n == 0x202F || n == 0x205F ||
    n == 0x3000

/-- A text without the longest final run of characters that satisfy `p`. -/
def trimEndBy (p : Char → Bool) (cs : List Char) : List Char :=
  (cs.reverse.dropWhile p).reverse

/-- A text without its leading and trailing blanks. -/
def trim (cs : List Char) : List Char :=
  trimEndBy isBlank (cs.dropWhile isBlank)

/-- Whether a text has no character other than blanks. -/
def isBlankText (cs : List Char) : Bool :=
  cs.all isBlank

@[simp] theorem trimEndBy_nil (p : Char → Bool) : trimEndBy p [] = [] := rfl

theorem dropWhile_eq_nil_of_all {p : Char → Bool} {cs : List Char} (h : ∀ c ∈ cs, p c = true) :
    cs.dropWhile p = [] := by
  induction cs with
  | nil => rfl
  | cons c cs ih =>
      have hc := h c (by simp)
      have hcs : ∀ d ∈ cs, p d = true := fun d hd => h d (by simp [hd])
      simp [hc, ih hcs]

theorem head_dropWhile {p : Char → Bool} {cs : List Char} {c : Char} {r : List Char}
    (h : cs.dropWhile p = c :: r) : p c = false := by
  induction cs with
  | nil => simp at h
  | cons d ds ih =>
      by_cases hd : p d = true
      · exact ih (by simpa [List.dropWhile_cons, hd] using h)
      · have hdc : d :: ds = c :: r := by simpa [List.dropWhile_cons, hd] using h
        cases hdc
        simpa using hd

theorem dropWhile_idem (p : Char → Bool) (cs : List Char) :
    (cs.dropWhile p).dropWhile p = cs.dropWhile p := by
  cases h : cs.dropWhile p with
  | nil => rfl
  | cons c r => simp [head_dropWhile h]

theorem trimEndBy_idem (p : Char → Bool) (cs : List Char) :
    trimEndBy p (trimEndBy p cs) = trimEndBy p cs := by
  simp [trimEndBy, dropWhile_idem]

theorem dropWhile_append_cons_of_neg {p : Char → Bool} {c : Char} (h : p c = false)
    (front back : List Char) :
    (front ++ c :: back).dropWhile p = front.dropWhile p ++ c :: back := by
  induction front with
  | nil => simp [h]
  | cons d front ih => by_cases hd : p d = true <;> simp [hd, ih]

/-- Cutting the end of a text keeps everything up to a character that is not cut off. -/
theorem trimEndBy_append_cons_of_neg {p : Char → Bool} {c : Char} (h : p c = false)
    (front back : List Char) :
    trimEndBy p (front ++ c :: back) = front ++ c :: trimEndBy p back := by
  simp [trimEndBy, dropWhile_append_cons_of_neg h]

/-- Cutting the end of a text keeps its first character, unless nothing is left. -/
theorem trimEndBy_cons_of_neg {p : Char → Bool} {c : Char} (h : p c = false) (cs : List Char) :
    trimEndBy p (c :: cs) = c :: trimEndBy p cs :=
  trimEndBy_append_cons_of_neg h [] cs

theorem trim_trim (cs : List Char) : trim (trim cs) = trim cs := by
  cases h : cs.dropWhile isBlank with
  | nil => simp [trim, h]
  | cons c r =>
      have hc := head_dropWhile h
      simp [trim, h, trimEndBy_cons_of_neg hc, hc, trimEndBy_idem]

theorem trim_eq_nil_iff (cs : List Char) : trim cs = [] ↔ ∀ c ∈ cs, isBlank c = true := by
  constructor
  · intro h
    have hd : cs.dropWhile isBlank = [] := by
      cases hd : cs.dropWhile isBlank with
      | nil => rfl
      | cons c r => simp [trim, hd, trimEndBy_cons_of_neg (head_dropWhile hd)] at h
    intro c hc
    induction cs with
    | nil => simp at hc
    | cons d ds ih =>
        by_cases hb : isBlank d = true
        · rcases List.mem_cons.1 hc with rfl | hc
          · exact hb
          · have hds : ds.dropWhile isBlank = [] := by
              simpa [List.dropWhile_cons, hb] using hd
            exact ih (by simp [trim, hds]) hds hc
        · simp [hb] at hd
  · intro h
    simp [trim, dropWhile_eq_nil_of_all h]

theorem isBlankText_iff (cs : List Char) : isBlankText cs = true ↔ trim cs = [] := by
  rw [isBlankText, List.all_eq_true, trim_eq_nil_iff]

/-- A text is trimmed if neither its first nor its last character is blank. -/
theorem trim_eq_self {cs : List Char} (hfirst : ∀ c, cs.head? = some c → isBlank c = false)
    (hlast : ∀ c, cs.getLast? = some c → isBlank c = false) : trim cs = cs := by
  cases cs with
  | nil => rfl
  | cons c r =>
      have hc := hfirst c rfl
      obtain ⟨front, d, hd⟩ : ∃ front d, c :: r = front ++ [d] :=
        ⟨_, _, (List.dropLast_concat_getLast (List.cons_ne_nil c r)).symm⟩
      have hdb := hlast d (by simp [hd])
      rw [trim, List.dropWhile_cons_of_neg (by simp [hc]), hd,
        trimEndBy_append_cons_of_neg hdb, trimEndBy_nil]

/-- The last character of a trimmed text is not blank. -/
theorem getLast?_trim {cs : List Char} {c : Char} (h : (trim cs).getLast? = some c) :
    isBlank c = false := by
  rw [trim, trimEndBy, List.getLast?_reverse] at h
  obtain ⟨rest, hrest⟩ := List.head?_eq_some_iff.1 h
  exact head_dropWhile hrest

theorem mem_of_mem_trimEndBy {p : Char → Bool} {c : Char} {cs : List Char}
    (h : c ∈ trimEndBy p cs) : c ∈ cs := by
  rw [trimEndBy, List.mem_reverse] at h
  exact List.mem_reverse.1 ((List.dropWhile_sublist p).mem h)

theorem mem_of_mem_trim {c : Char} {cs : List Char} (h : c ∈ trim cs) : c ∈ cs :=
  (List.dropWhile_sublist isBlank).mem (mem_of_mem_trimEndBy h)

/-- `trim` on strings. -/
def trimmed (s : String) : String :=
  String.ofList (trim s.toList)

@[simp] theorem toList_trimmed (s : String) : (trimmed s).toList = trim s.toList := by
  simp [trimmed]

end Text
end LinkLedger
