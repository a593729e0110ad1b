import LinkLedger.Proofs.Url.Authority

/-!
# How URLs of the common schemes are read

A URL of a common scheme is read part by part: the place behind the user of its authority may be
refused, and every other part is taken as it is and encoded.

**Results.**
* `readAuthority_eq`: an authority is a place with a user.
* `readBehindSlashes_eq`: behind its authority, a URL has a path and a tail.
-/

namespace LinkLedger
namespace Url

open Text

/-- The authority that a user, maybe with a password, and a place make. -/
def authorityOf (user : Option (List Char)) (read : Host × Option Nat) : Authority :=
  let names := user.getD []
  let name := names.takeWhile (· != ':')
  ⟨percentEncode inUser name, percentEncode inUser (names.drop (name.length + 1)), some read.1,
    read.2⟩

/-- The URL that a scheme, an authority, and the text behind it make. -/
def urlOf (scheme : List Char) (authority : Authority) (back : List Char) : Url :=
  withTail ⟨scheme, some authority, pathBehindHost scheme (before endsPath back), none, none⟩
    (since endsPath back)

theorem readPlace_nil
    (scheme : List Char) :
    readPlace scheme [] = .error .emptyHost :=
  rfl

/-- Behind a port there is nothing but what a backslash starts. -/
theorem rest_of_readPort
    {scheme cs rest : List Char}
    {port : Option Nat}
    (h : readPort scheme cs = .ok (port, rest))
    (hback : '\\' ∉ cs) :
    rest = [] := by
  unfold readPort at h
  dsimp only at h
  rw [drop_length_takeWhile] at h
  split at h
  · cases h
  · split at h
    · exact (Prod.mk.inj (Except.ok.inj h)).2.symm
    · next hdrop =>
      refine absurd ((List.dropWhile_sublist Char.isDigit).subset ?_) hback
      rw [hdrop]
      exact List.mem_cons_self
    · cases h

/-- An authority of a common scheme is a place with a user in front of it. -/
theorem readAuthority_eq
    {scheme cs : List Char}
    (hcommon : isCommon scheme = true)
    (hback : '\\' ∉ cs)
    (more : Bool) :
    readAuthority scheme cs more =
      (readPlace scheme (splitUser cs).2).map fun read =>
        (authorityOf (splitUser cs).1 read, []) := by
  have hplace : '\\' ∉ (splitUser cs).2 := fun hmem => hback (splitUser_subset cs hmem)
  unfold readAuthority
  rcases hsplit : splitUser cs with ⟨user, place⟩
  rw [hsplit] at hplace
  dsimp only at hplace ⊢
  rw [hcommon]
  by_cases htext : (hostText false place).isEmpty = true
  · -- Without a host there is no place, whatever stands in front of it.
    have hread : readPlace scheme place = .error .emptyHost := by
      rw [readPlace, List.isEmpty_iff.1 htext]
      rfl
    rw [hread]
    split
    · rfl
    · rw [if_pos ⟨htext, Or.inl rfl⟩]
      rfl
  · have hsome : ¬ (user = some [] ∧ place.isEmpty = true ∧ more = true) := by
      rintro ⟨-, hempty, -⟩
      rw [List.isEmpty_iff.1 hempty] at htext
      exact htext rfl
    rw [if_neg hsome, if_neg fun hempty => htext hempty.1, if_pos rfl, readPlace]
    cases Host.read (hostText false place) with
    | error fault => rfl
    | ok host =>
        rcases drop_hostText place with hdrop | ⟨digits, hdrop⟩
        · rw [hdrop]
          rfl
        · rw [hdrop]
          have hdigits : '\\' ∉ digits := by
            intro hmem
            refine hplace (List.mem_of_mem_drop (i := (hostText false place).length) ?_)
            rw [hdrop]
            exact List.mem_cons_of_mem _ hmem
          cases hport : readPort scheme digits with
          | error fault => simp [hport, Except.map, bind, Except.bind]
          | ok read =>
              obtain ⟨port, rest⟩ := read
              obtain rfl := rest_of_readPort hport hdigits
              simp [hport, Except.map, bind, Except.bind, authorityOf]

/-- Behind the slashes stand a place with a user, a path, and a tail. -/
theorem readBehindSlashes_eq
    {scheme : List Char}
    (hcommon : isCommon scheme = true)
    (cs : List Char) :
    readBehindSlashes scheme cs =
      (readPlace scheme (splitUser (before (endsAuthority true) cs)).2).map fun read =>
        urlOf scheme (authorityOf (splitUser (before (endsAuthority true) cs)).1 read)
          (since (endsAuthority true) cs) := by
  have hback : '\\' ∉ before (endsAuthority true) cs := by
    intro hmem
    have hkept := List.mem_takeWhile_imp hmem
    revert hkept
    decide
  have hdrop : ∀ (p : Char → Bool) (text : List Char),
      text.drop (before p text).length = since p text :=
    fun p text => drop_length_takeWhile (fun c => !p c) text
  rw [readBehindSlashes, hcommon]
  dsimp only
  rw [readAuthority_eq hcommon hback, hdrop]
  cases readPlace scheme (splitUser (before (endsAuthority true) cs)).2 with
  | error fault => rfl
  | ok read =>
      change Except.ok (withTail _ (([] ++ since (endsAuthority true) cs).drop _)) = _
      rw [List.nil_append, hdrop]
      rfl

end Url
end LinkLedger
