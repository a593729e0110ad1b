import LinkLedger.Proofs.Url.Hosts
import LinkLedger.Url.Parse

/-!
# Where a URL leads

Of an authority, only what stands behind its user says where a URL of a common scheme leads: a host
and a port, in which no blanks and no control characters can stand.

**Results.**
* `place_cases`: a place is a host, or a host and a port.
* `notBlank_of_readPlace`: the characters of that part.
* `space_not_mem_of_readPlace`: it has no spaces, even if they are written as octets.
-/

namespace LinkLedger
namespace Url

open Text

/-- Host and port, read from what stands behind the user of an authority. -/
def readPlace (scheme place : List Char) : Except ParseFault (Host × Option Nat) := do
  let host ← Host.read (hostText false place)
  match place.drop (hostText false place).length with
  | ':' :: digits => (readPort scheme digits).map fun read => (host, read.1)
  | _ => .ok (host, none)

/-- A place is a host, or a host, a colon, and a port. -/
theorem place_cases
    (inside : Bool)
    (place : List Char) :
    place = hostText inside place ∨ ∃ digits, place = hostText inside place ++ ':' :: digits := by
  induction place generalizing inside with
  | nil => exact Or.inl rfl
  | cons c place ih =>
      rw [hostText]
      split
      · next hcolon => exact Or.inr ⟨place, by rw [hcolon.1]; rfl⟩
      · rcases ih (if c = '[' then true else if c = ']' then false else inside) with
          heq | ⟨digits, heq⟩
        · exact Or.inl (congrArg (c :: ·) heq)
        · exact Or.inr ⟨digits, congrArg (c :: ·) heq⟩

theorem drop_hostText
    (place : List Char) :
    place.drop (hostText false place).length = [] ∨
      ∃ digits, place.drop (hostText false place).length = ':' :: digits := by
  rcases place_cases false place with hplace | ⟨digits, hplace⟩
  · rw [← hplace, List.drop_length]
    exact Or.inl rfl
  · refine Or.inr ⟨digits, ?_⟩
    conv => lhs; arg 2; rw [hplace]
    exact List.drop_left

/-! ## The characters of a place -/

/-- How spaces are written does not matter for where a host ends. -/
theorem hostText_replaceChar
    (inside : Bool)
    (cs : List Char) :
    hostText inside (replaceChar ' ' "%20".toList cs) =
      replaceChar ' ' "%20".toList (hostText inside cs) := by
  induction cs generalizing inside with
  | nil => rfl
  | cons c cs ih =>
      by_cases hspace : c = ' '
      · subst hspace
        have hchars : ∀ rest, hostText inside ('%' :: '2' :: '0' :: rest) =
            '%' :: '2' :: '0' :: hostText inside rest := fun rest => rfl
        change hostText inside ('%' :: '2' :: '0' :: replaceChar ' ' "%20".toList cs) = _
        rw [hchars, ih]
        rfl
      · rw [replaceChar_cons_of_ne hspace, hostText, hostText, ih]
        split
        · rfl
        · rw [replaceChar_cons_of_ne hspace]

/-- A port is made of digits, if no backslash follows it. -/
theorem isDigit_of_readPort
    {scheme cs : List Char}
    {read : Option Nat × List Char}
    (h : readPort scheme cs = .ok read)
    (hback : '\\' ∉ cs)
    {c : Char}
    (hc : c ∈ cs) :
    c.isDigit = true := by
  have hsplit := List.takeWhile_append_dropWhile (p := Char.isDigit) (l := cs)
  unfold readPort at h
  dsimp only at h
  rw [drop_length_takeWhile] at h
  split at h
  · cases h
  · split at h
    · next hdrop =>
      rw [hdrop, List.append_nil] at hsplit
      rw [← hsplit] at hc
      exact List.mem_takeWhile_imp hc
    · next hdrop =>
      refine absurd ?_ hback
      rw [← hsplit, hdrop]
      exact List.mem_append_right _ List.mem_cons_self
    · cases h

theorem notBlank_of_isDigit
    {c : Char}
    (h : c.isDigit = true) :
    isLow c = false ∧ isBlank c = false := by
  have hdigit := isAddressChar_of_isDigit h
  rw [← Bool.not_eq_true, ← Bool.not_eq_true, ← not_or]
  intro hblank
  rw [isAddressChar, hexValue?_of_isBlank hblank, Option.isSome_none, Bool.or_false,
    Bool.or_eq_true, decide_eq_true_eq, decide_eq_true_eq] at hdigit
  rcases hdigit with rfl | rfl
  all_goals
    revert hblank
    decide

/-- What is read of a place: its host, and the port if there is one. -/
theorem read_of_readPlace
    {scheme place : List Char}
    {read : Host × Option Nat}
    (h : readPlace scheme place = .ok read) :
    (∃ host, Host.read (hostText false place) = .ok host) ∧
      ∀ digits, place = hostText false place ++ ':' :: digits →
        ∃ port, readPort scheme digits = .ok port := by
  obtain ⟨host, hhost, h⟩ := exists_of_bind_eq_ok h
  refine ⟨⟨host, hhost⟩, fun digits hplace => ?_⟩
  have hdrop : place.drop (hostText false place).length = ':' :: digits := by
    conv => lhs; arg 2; rw [hplace]
    exact List.drop_left
  rw [hdrop] at h
  obtain ⟨port, hport, -⟩ := exists_of_map_eq_ok h
  exact ⟨port, hport⟩

/-- Where a URL leads is written without blanks and control characters. -/
theorem notBlank_of_readPlace
    {scheme place : List Char}
    {read : Host × Option Nat}
    (h : readPlace scheme place = .ok read)
    (hback : '\\' ∉ place)
    {c : Char}
    (hc : c ∈ place) :
    isLow c = false ∧ isBlank c = false := by
  obtain ⟨⟨host, hhost⟩, hport⟩ := read_of_readPlace h
  rcases place_cases false place with hplace | ⟨digits, hplace⟩
  · rw [hplace] at hc
    exact Host.notBlank_of_read hhost hc
  · obtain ⟨port, hread⟩ := hport digits hplace
    rw [hplace, List.mem_append, List.mem_cons] at hc
    rcases hc with hc | rfl | hc
    · exact Host.notBlank_of_read hhost hc
    · decide
    · refine notBlank_of_isDigit (isDigit_of_readPort hread (fun hmem => hback ?_) hc)
      rw [hplace]
      exact List.mem_append_right _ (List.mem_cons_of_mem _ hmem)

theorem mem_of_mem_replaceChar
    {c : Char}
    {cs : List Char}
    (h : c ∈ replaceChar ' ' "%20".toList cs) :
    c ∈ cs ∨ c ∈ "%20".toList := by
  obtain ⟨d, hd, hc⟩ := List.mem_flatMap.1 h
  split at hc
  · exact Or.inr hc
  · rw [List.mem_singleton] at hc
    exact Or.inl (hc ▸ hd)

/-- Spaces are refused even if they are written as octets. -/
theorem space_not_mem_of_readPlace
    {scheme place : List Char}
    {read : Host × Option Nat}
    (h : readPlace scheme (replaceChar ' ' "%20".toList place) = .ok read)
    (hback : '\\' ∉ place) :
    ' ' ∉ place := by
  obtain ⟨⟨host, hhost⟩, hport⟩ := read_of_readPlace h
  rw [hostText_replaceChar] at hhost hport
  have hspace := Host.space_not_mem_of_read hhost
  rcases place_cases false place with hplace | ⟨digits, hplace⟩
  · rwa [hplace]
  · obtain ⟨port, hread⟩ := hport (replaceChar ' ' "%20".toList digits) (by
      conv => lhs; rw [hplace]
      rw [replaceChar_append, replaceChar_cons_of_ne (by decide)])
    rw [hplace, List.mem_append, List.mem_cons, not_or, not_or]
    refine ⟨hspace, by decide, fun hmem => ?_⟩
    have hdigit := isDigit_of_readPort hread (c := '%') (fun hback' => ?_)
      (List.mem_flatMap.2 ⟨' ', hmem, by simp⟩)
    · revert hdigit
      decide
    · rcases mem_of_mem_replaceChar hback' with hmem' | hmem'
      · refine hback ?_
        rw [hplace]
        exact List.mem_append_right _ (List.mem_cons_of_mem _ hmem')
      · revert hmem'
        decide

/-! ## The part behind the user -/

theorem splitUser_eq_of_not_mem
    {cs : List Char}
    (h : '@' ∉ cs) :
    splitUser cs = (none, cs) := by
  have hall : cs.reverse.takeWhile (· != '@') = cs.reverse := by
    rw [List.takeWhile_eq_self_iff]
    intro c hc
    have hne : c ≠ '@' := by
      rintro rfl
      exact h (List.mem_reverse.1 hc)
    simpa using hne
  unfold splitUser
  dsimp only
  rw [hall, List.reverse_reverse, if_pos rfl]

theorem splitUser_of_not_mem
    {cs : List Char}
    (h : '@' ∉ cs) :
    (splitUser cs).2 = cs := by
  rw [splitUser_eq_of_not_mem h]

theorem splitUser_eq_append_cons
    (front : List Char)
    {place : List Char}
    (h : '@' ∉ place) :
    splitUser (front ++ '@' :: place) = (some front, place) := by
  have hall : ∀ c ∈ place.reverse, (c != '@') = true := by
    intro c hc
    have hne : c ≠ '@' := by
      rintro rfl
      exact h (List.mem_reverse.1 hc)
    simpa using hne
  have hbehind : ((front ++ '@' :: place).reverse.takeWhile (· != '@')).reverse = place := by
    rw [List.reverse_append, List.reverse_cons, List.append_assoc,
      List.takeWhile_append_of_pos hall]
    simp
  have hlength : (front ++ '@' :: place).length - place.length - 1 = front.length := by
    rw [List.length_append, List.length_cons]
    omega
  unfold splitUser
  dsimp only
  rw [hbehind, if_neg, hlength, List.take_left]
  rw [List.length_append, List.length_cons]
  omega

theorem splitUser_append_cons
    (front : List Char)
    {place : List Char}
    (h : '@' ∉ place) :
    (splitUser (front ++ '@' :: place)).2 = place := by
  rw [splitUser_eq_append_cons front h]

theorem exists_last_of_mem
    {c : Char}
    {cs : List Char}
    (h : c ∈ cs) :
    ∃ front back, cs = front ++ c :: back ∧ c ∉ back := by
  obtain ⟨behind, front, heq, hbehind⟩ := List.eq_append_cons_of_mem (List.mem_reverse.2 h)
  refine ⟨front.reverse, behind.reverse, ?_, fun hmem => hbehind (List.mem_reverse.1 hmem)⟩
  rw [← List.reverse_reverse cs, heq]
  simp

/-- Only the last at sign counts. -/
theorem user_cases
    (cs : List Char) :
    '@' ∉ cs ∨ ∃ front place, cs = front ++ '@' :: place ∧ '@' ∉ place := by
  by_cases h : '@' ∈ cs
  · exact Or.inr (exists_last_of_mem h)
  · exact Or.inl h

theorem splitUser_subset
    (cs : List Char) :
    (splitUser cs).2 ⊆ cs := by
  rcases user_cases cs with h | ⟨front, place, rfl, hplace⟩
  · rw [splitUser_of_not_mem h]
    exact List.Subset.refl _
  · rw [splitUser_append_cons front hplace]
    exact fun c hc => List.mem_append_right _ (List.mem_cons_of_mem _ hc)

/-- More text belongs to the part behind the user. -/
theorem splitUser_append
    (cs : List Char)
    {more : List Char}
    (h : '@' ∉ more) :
    (splitUser (cs ++ more)).2 = (splitUser cs).2 ++ more := by
  rcases user_cases cs with hcs | ⟨front, place, rfl, hplace⟩
  · rw [splitUser_of_not_mem hcs, splitUser_of_not_mem (by simp [hcs, h])]
  · rw [splitUser_append_cons front hplace, List.append_assoc, List.cons_append,
      splitUser_append_cons front (by simp [hplace, h])]

/-- User and place stay apart when spaces are written as octets. -/
theorem splitUser_replaceChar
    (cs : List Char) :
    splitUser (replaceChar ' ' "%20".toList cs) =
      ((splitUser cs).1.map (replaceChar ' ' "%20".toList),
        replaceChar ' ' "%20".toList (splitUser cs).2) := by
  have hat : ∀ {text : List Char}, '@' ∉ text → '@' ∉ replaceChar ' ' "%20".toList text := by
    intro text htext hmem
    rcases mem_of_mem_replaceChar hmem with hmem | hmem
    · exact htext hmem
    · revert hmem
      decide
  rcases user_cases cs with h | ⟨front, place, rfl, hplace⟩
  · rw [splitUser_eq_of_not_mem h, splitUser_eq_of_not_mem (hat h)]
    rfl
  · rw [replaceChar_append, replaceChar_cons_of_ne (by decide), splitUser_eq_append_cons _ hplace,
      splitUser_eq_append_cons _ (hat hplace)]
    rfl

end Url
end LinkLedger
