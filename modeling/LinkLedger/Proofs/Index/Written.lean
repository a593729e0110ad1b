import LinkLedger.Proofs.Index.WellFormed
import Mathlib.Data.List.Forall2
import Mathlib.Tactic.SplitIfs

/-!
# What has been written, and nothing else

An operation that stops half way leaves some records written and the others as they were.  Which is
which stands in the journal, so the index behind it is compared with the index in front of it entry
by entry: under the numbers in the journal stands what the operation may write, under all others
what was there.

**Results.**
* `Index.WrittenAt`: that comparison; it is closed under sequence (`WrittenAt.trans`).
* `writtenAt_update`: an update is such a change.
* `WrittenAt.wellFormed`: it keeps the invariant of the index.
-/

namespace LinkLedger

/-- What relates to something that relates to the members of a list relates to the list. -/
theorem forall₂_comp
    {α β γ : Type}
    {R : α → β → Prop}
    {S : β → γ → Prop}
    {T : α → γ → Prop}
    {l : List α}
    {m : List β}
    {n : List γ}
    (hm : List.Forall₂ R l m)
    (hn : List.Forall₂ S m n)
    (h : ∀ a ∈ l, ∀ b c, R a b → S b c → T a c) :
    List.Forall₂ T l n := by
  induction hm generalizing n with
  | nil =>
      cases hn
      exact .nil
  | cons hab hm ih =>
      cases hn with
      | cons hbc hn =>
          exact .cons (h _ List.mem_cons_self _ _ hab hbc)
            (ih hn fun a ha => h a (List.mem_cons_of_mem _ ha))

/-- A member of a list has a counterpart in a list that relates to it. -/
theorem exists_of_mem_right
    {α β : Type}
    {R : α → β → Prop}
    {l : List α}
    {m : List β}
    (h : List.Forall₂ R l m)
    {b : β}
    (hb : b ∈ m) :
    ∃ a ∈ l, R a b := by
  induction h with
  | nil => cases hb
  | @cons a c l m hac _ ih =>
      rcases List.mem_cons.1 hb with rfl | hb
      · exact ⟨a, List.mem_cons_self, hac⟩
      · obtain ⟨a', ha', hab⟩ := ih hb
        exact ⟨a', List.mem_cons_of_mem a ha', hab⟩

namespace Index

/-! ## Entries -/

variable {P Q : Nat → LinkRecord → Prop} {ids ids' : List Nat} {d e f : Nat × LinkRecord}

/-- An entry behind a change: a record that `P` admits if its number is among those written, and
the old one if not. -/
structure EntryWritten
    (P : Nat → LinkRecord → Prop) (ids : List Nat) (d e : Nat × LinkRecord) : Prop where
  number : e.1 = d.1
  written : d.1 ∈ ids → P d.1 e.2
  kept : d.1 ∉ ids → e.2 = d.2

theorem EntryWritten.refl
    (d : Nat × LinkRecord) :
    EntryWritten P [] d d :=
  ⟨rfl, fun h => absurd h List.not_mem_nil, fun _ => rfl⟩

theorem EntryWritten.mono
    (h : EntryWritten P ids d e)
    (hPQ : ∀ id r, P id r → Q id r) :
    EntryWritten Q ids d e :=
  ⟨h.number, fun hid => hPQ _ _ (h.written hid), h.kept⟩

theorem EntryWritten.trans
    (h : EntryWritten P ids d e)
    (h' : EntryWritten P ids' e f) :
    EntryWritten P (ids ++ ids') d f := by
  refine ⟨h'.number.trans h.number, ?_, ?_⟩
  · intro hid
    by_cases hlater : d.1 ∈ ids'
    · rw [← h.number] at hlater ⊢
      exact h'.written hlater
    · have hearlier := (List.mem_append.1 hid).resolve_right hlater
      rw [← h.number] at hlater
      rw [h'.kept hlater]
      exact h.written hearlier
  · intro hid
    obtain ⟨hearlier, hlater⟩ := not_or.1 (mt List.mem_append.2 hid)
    rw [← h.number] at hlater
    rw [h'.kept hlater, h.kept hearlier]

/-! ## Indexes -/

variable {x y z : Index}

/-- The index behind a change that writes records which `P` admits under some numbers, and changes
nothing else. -/
structure WrittenAt (P : Nat → LinkRecord → Prop) (ids : List Nat) (x y : Index) : Prop where
  last : y.last = x.last
  entries : List.Forall₂ (EntryWritten P ids) x.entries y.entries

theorem WrittenAt.refl
    (x : Index) :
    x.WrittenAt P [] x :=
  ⟨rfl, List.forall₂_same.2 fun d _ => .refl d⟩

theorem WrittenAt.mono
    (h : x.WrittenAt P ids y)
    (hPQ : ∀ id r, P id r → Q id r) :
    x.WrittenAt Q ids y :=
  ⟨h.last, h.entries.imp fun _ _ hentry => hentry.mono hPQ⟩

theorem WrittenAt.trans
    (h : x.WrittenAt P ids y)
    (h' : y.WrittenAt P ids' z) :
    x.WrittenAt P (ids ++ ids') z :=
  ⟨h'.last.trans h.last,
    forall₂_comp h.entries h'.entries fun _ _ _ _ hentry hentry' => hentry.trans hentry'⟩

/-- Where nothing has been written, nothing has changed. -/
theorem WrittenAt.eq_of_nil
    (h : x.WrittenAt P [] y) :
    y = x := by
  have hentries : x.entries = y.entries := by
    refine List.forall₂_eq_eq_eq ▸ h.entries.imp fun d e hentry => ?_
    exact Prod.ext hentry.number.symm (hentry.kept List.not_mem_nil).symm
  cases x
  cases y
  exact congrArg₂ Index.mk hentries.symm h.last

/-- An entry that has not been written was there before. -/
theorem WrittenAt.mem_of_not_mem
    (h : x.WrittenAt P ids y)
    (he : e ∈ y.entries)
    (hid : e.1 ∉ ids) :
    e ∈ x.entries := by
  obtain ⟨d, hd, hentry⟩ := exists_of_mem_right h.entries he
  rw [hentry.number] at hid
  rwa [Prod.ext hentry.number (hentry.kept hid)]

theorem WrittenAt.keys
    (h : x.WrittenAt P ids y) :
    y.entries.map (·.1) = x.entries.map (·.1) := by
  have hentries := h.entries
  revert hentries
  generalize x.entries = l, y.entries = m
  intro hentries
  induction hentries with
  | nil => rfl
  | cons hentry _ ih => rw [List.map_cons, List.map_cons, hentry.number, ih]

/-- The invariant is kept if records are written under their own numbers. -/
theorem WrittenAt.wellFormed
    (h : x.WrittenAt P ids y)
    (hx : x.WellFormed)
    (hP : ∀ id r, P id r → r.id = some id) :
    y.WellFormed := by
  refine ⟨?_, ?_, ?_⟩
  · have hascending := List.pairwise_map.2 hx.ascending
    rw [← h.keys] at hascending
    exact List.pairwise_map.1 hascending
  · intro e he
    obtain ⟨d, hd, hentry⟩ := exists_of_mem_right h.entries he
    rw [hentry.number]
    by_cases hid : d.1 ∈ ids
    · exact hP _ _ (hentry.written hid)
    · rw [hentry.kept hid]
      exact hx.numbered d hd
  · intro e he
    obtain ⟨d, hd, hentry⟩ := exists_of_mem_right h.entries he
    rw [hentry.number, h.last]
    exact hx.bounded d hd

/-- An update writes under the number of its record. -/
theorem writtenAt_update
    {r : LinkRecord}
    {id : Nat}
    (hid : r.id = some id)
    (hP : P id r)
    (h : x.update r = .ok y) :
    x.WrittenAt P [id] y := by
  obtain ⟨id', hid', rfl⟩ := eq_of_update h
  obtain rfl : id = id' := Option.some.inj (hid.symm.trans hid')
  refine ⟨rfl, List.forall₂_map_right_iff.2 (List.forall₂_same.2 fun d _ => ?_)⟩
  by_cases hd : d.1 = id
  · rw [if_pos hd]
    exact ⟨hd.symm, fun _ => hd ▸ hP, fun hnot => absurd (List.mem_singleton.2 hd) hnot⟩
  · rw [if_neg hd]
    exact ⟨rfl, fun hmem => absurd (List.mem_singleton.1 hmem) hd, fun _ => rfl⟩

end Index

end LinkLedger
