import LinkLedger.Proofs.Json.Decoding
import Mathlib.Data.List.Pairwise

/-!
# Objects in any order, with anything between

Documents that others write have the entries of a record in any order, and among them entries that
the record does not have.  An entry that is there does the same wherever it stands, since each
changes a part of its own, and the others are passed over, whatever their values are.  A name of the
record that occurs twice is refused.

**Results.**
* `Spells.decode`: a text is decoded as the document that it spells; `spells_render`.
* `skip_ofJson`: every document can be passed over.
* `decode_of_repeats`, `decode_of_refused`: a name that is repeated is refused, and so is a value
  that is refused by itself.
* `Scattered`: entries in any order, with others among them.
* `Filling`: an entry with what it does; `Filling.decode_of_scattered`: entries in any order, with
  others among them, do what they do in the order of a list.
-/

namespace LinkLedger
namespace Json

/-! ## Texts -/

/-- A text spells a document, with whatever spaces and escapes, and nothing behind it. -/
def Spells (text : String) (j : Json) : Prop := scan text.toList = ⟨.ofJson j, false⟩

theorem Spells.decode
    {α : Type}
    {text : String}
    {j : Json}
    (h : Spells text j)
    (d : Decoder α) :
    decodeDocument d text = d (.ofJson j) := by
  rw [decodeDocument, show scan text.toList = _ from h]
  cases d (.ofJson j) with
  | error e => rfl
  | ok a => rfl

theorem spells_render
    {j : Json}
    (h : j.WellSpelled) :
    Spells j.render j := by
  rw [Spells, render, String.toList_ofList, scan_write h]

/-! ## What is passed over -/

mutual

/-- A document is passed over, whatever it is. -/
theorem skip_ofJson :
    ∀ j : Json, skip (.ofJson j) = .ok ()
  | .null => rfl
  | .bool _ => rfl
  | .number _ => rfl
  | .text _ => rfl
  | .list items => by
      rw [Reading.ofJson, skip, skipItems_ofItems items]
      rfl
  | .fields entries => by
      rw [Reading.ofJson, skip, skipEntries_ofEntries entries]
      rfl

theorem skipItems_ofItems :
    ∀ items : List Json, skipItems (Reading.ofItems items) = .ok ()
  | [] => rfl
  | j :: js => by
      rw [Reading.ofItems, skipItems, skip_ofJson j]
      exact skipItems_ofItems js

theorem skipEntries_ofEntries :
    ∀ entries : List (String × Json), skipEntries (Reading.ofEntries entries) = .ok ()
  | [] => rfl
  | (name, j) :: rest => by
      rw [Reading.ofEntries, skipEntries, skip_ofJson j]
      · exact skipEntries_ofEntries rest
      · exact nofun

end

section Entries

variable {σ : Type} {shape : Shape σ} {seen : List String} {s t : σ}
variable {name : String} {j : Json} {es : List (String × Json)}

theorem entries_of_unknown
    (hname : name ∉ shape.names)
    (seen : List String)
    (s : σ) :
    shape.entries seen (Reading.ofEntries ((name, j) :: es)) s =
      shape.entries seen (Reading.ofEntries es) s := by
  rw [Reading.ofEntries, Shape.entries, if_neg hname, skip_ofJson]
  rfl

theorem entries_of_known
    (hname : name ∈ shape.names)
    (hseen : name ∉ seen)
    (s : σ) :
    shape.entries seen (Reading.ofEntries ((name, j) :: es)) s = (do
      let s' ← shape.step name (.ofJson j) s
      shape.entries (name :: seen) (Reading.ofEntries es) s') := by
  rw [Reading.ofEntries, Shape.entries, if_pos hname, if_neg hseen]

/-! ## What is refused -/

/-- One of some names occurs twice or more often among entries. -/
def Repeats (names : List String) (es : List (String × Json)) : Prop :=
  ∃ name ∈ names, 2 ≤ (es.map (·.1)).count name

/-- Entries that are read have no name of the record twice. -/
theorem count_le_one_of_entries
    (h : shape.entries seen (Reading.ofEntries es) s = .ok t)
    (hname : name ∈ shape.names) :
    (es.map (·.1)).count name ≤ if name ∈ seen then 0 else 1 := by
  induction es generalizing seen s with
  | nil => simp
  | cons e es ih =>
      obtain ⟨first, j⟩ := e
      by_cases hknown : first ∈ shape.names
      · by_cases hseen : first ∈ seen
        · rw [Reading.ofEntries, Shape.entries, if_pos hknown, if_pos hseen] at h
          cases h
        · rw [entries_of_known hknown hseen] at h
          obtain ⟨s', -, hrest⟩ := bind_eq_ok.1 h
          have hcount := ih hrest
          rw [List.map_cons, List.count_cons]
          by_cases hsame : first = name
          · subst hsame
            simpa [hseen] using hcount
          · have hiff : name ∈ first :: seen ↔ name ∈ seen := by
              simp [Ne.symm hsame]
            simpa [hsame, hiff] using hcount
      · rw [entries_of_unknown hknown] at h
        have hne : first ≠ name := fun hsame => hknown (hsame ▸ hname)
        simpa [hne] using ih h

/-- Each entry of the record that is read is taken in at some point. -/
theorem entries_step
    (h : shape.entries seen (Reading.ofEntries es) s = .ok t)
    (hmem : (name, j) ∈ es)
    (hname : name ∈ shape.names) :
    ∃ s' t', shape.step name (.ofJson j) s' = .ok t' := by
  induction es generalizing seen s with
  | nil => cases hmem
  | cons e es ih =>
      obtain ⟨first, value⟩ := e
      by_cases hknown : first ∈ shape.names
      · by_cases hseen : first ∈ seen
        · rw [Reading.ofEntries, Shape.entries, if_pos hknown, if_pos hseen] at h
          cases h
        · rw [entries_of_known hknown hseen] at h
          obtain ⟨s', hstep, hrest⟩ := bind_eq_ok.1 h
          rcases List.mem_cons.1 hmem with heq | hmem
          · cases heq
            exact ⟨s, s', hstep⟩
          · exact ih hrest hmem
      · rw [entries_of_unknown hknown] at h
        rcases List.mem_cons.1 hmem with heq | hmem
        · cases heq
          exact absurd hname hknown
        · exact ih h hmem

/-- A document of a record with a name that is repeated is refused. -/
theorem decode_of_repeats
    {source : Source}
    (hrepeats : Repeats shape.names es) :
    shape.decode source s (.ofJson (.fields es)) ≠ .ok t := by
  intro h
  rw [Reading.ofJson, Shape.decode] at h
  obtain ⟨t', hentries, -⟩ := bind_eq_ok.1 h
  obtain ⟨name, hname, hcount⟩ := hrepeats
  have hone := count_le_one_of_entries hentries hname
  rw [if_neg List.not_mem_nil] at hone
  omega

/-- A document of a record with a value that is refused by itself is refused. -/
theorem decode_of_refused
    {source : Source}
    (hmem : (name, j) ∈ es)
    (hname : name ∈ shape.names)
    (hrefused : ∀ s' t', shape.step name (.ofJson j) s' ≠ .ok t') :
    shape.decode source s (.ofJson (.fields es)) ≠ .ok t := by
  intro h
  rw [Reading.ofJson, Shape.decode] at h
  obtain ⟨t', hentries, -⟩ := bind_eq_ok.1 h
  obtain ⟨s', t', hstep⟩ := entries_step hentries hmem hname
  exact hrefused s' t' hstep

theorem map_ne_ok
    {ε α β : Type}
    {x : Except ε α}
    (h : ∀ a, x ≠ .ok a)
    (f : α → β)
    (b : β) :
    x.map f ≠ .ok b := by
  cases x with
  | error e => exact nofun
  | ok a => exact absurd rfl (h a)

end Entries

/-! ## What entries do -/

/-- The entries of an object that has those of `kept` in any order, and among them any others with
names that the record does not have. -/
def Scattered (names : List String) (kept es : List (String × Json)) : Prop :=
  (es.filter fun e => e.1 ∈ names).Perm kept

/-- The entries of an object. -/
def members : Json → List (String × Json)
  | .fields es => es
  | _ => []

/-- An entry of a record, with what it does to every value under construction, and that to leave it
out does nothing. -/
structure Filling {σ : Type} (shape : Shape σ) where
  name : String
  value : Json
  put : (left : Bool) → σ → σ
  step : ∀ s, shape.step name (.ofJson value) s = .ok (put false s)
  put_left : ∀ s, put true s = s

namespace Filling

variable {σ : Type} {shape : Shape σ}

/-- The entry that sets a part to what its value is read as. -/
def of {α : Type} {d : Decoder α} {value : Json} {a : α} (name : String) (get : σ → α)
    (set : α → σ → σ) (hvalue : d (.ofJson value) = .ok a)
    (hstep : ∀ r s, shape.step name r s = (d r).map (set · s)) (hget : ∀ s, set (get s) s = s) :
    Filling shape where
  name := name
  value := value
  put left s := set (if left then get s else a) s
  step s := by
    rw [hstep, hvalue]
    rfl
  put_left s := hget s

/-- The entry as it stands in an object. -/
def entry (f : Filling shape) : String × Json := (f.name, f.value)

/-- It does not matter which of two entries comes first. -/
def Commutes (f g : Filling shape) : Prop :=
  ∀ s, f.put false (g.put false s) = g.put false (f.put false s)

instance : Std.Symm (@Commutes σ shape) := ⟨fun _ _ h s => (h s).symm⟩

/-- What a list of entries does, one after the other, with some of them left out. -/
def fill (left : String → Bool) (fs : List (Filling shape)) (s : σ) : σ :=
  fs.foldl (fun s f => f.put (left f.name) s) s

/-- Leaving entries out is the same as not having them. -/
theorem fill_filter
    (left : String → Bool)
    (fs : List (Filling shape))
    (s : σ) :
    fill (fun _ => false) (fs.filter fun f => !left f.name) s = fill left fs s := by
  induction fs generalizing s with
  | nil => rfl
  | cons f fs ih =>
      cases hleft : left f.name with
      | false =>
          rw [List.filter_cons_of_pos (by simp [hleft]), fill, List.foldl_cons, fill,
            List.foldl_cons, hleft]
          exact ih (f.put false s)
      | true =>
          rw [List.filter_cons_of_neg (by simp [hleft]), ih, fill, fill, List.foldl_cons, hleft,
            f.put_left]

theorem fill_perm
    {fs gs : List (Filling shape)}
    (hfs : fs.Pairwise Commutes)
    (hperm : fs.Perm gs)
    (s : σ) :
    fill (fun _ => false) fs s = fill (fun _ => false) gs s := by
  have hall := List.Pairwise.forall_of_forall (fun _ _ _ => rfl) hfs
  exact hperm.foldl_eq' (fun f hf g hg s => hall hg hf s) s

/-- Entries in any order, with others among them, do what they do in the order of a list. -/
theorem entries_of_scattered
    {fs : List (Filling shape)}
    {es : List (String × Json)}
    (hcommute : fs.Pairwise Commutes)
    (hnames : (fs.map (·.name)).Nodup)
    (h : Scattered shape.names (fs.map entry) es)
    {seen : List String}
    (hseen : ∀ f ∈ fs, f.name ∉ seen)
    (s : σ) :
    shape.entries seen (Reading.ofEntries es) s = .ok (fill (fun _ => false) fs s) := by
  induction es generalizing fs seen s with
  | nil =>
      have hnil : fs = [] := List.map_eq_nil_iff.1 (List.Perm.nil_eq h).symm
      rw [hnil]
      rfl
  | cons e es ih =>
      obtain ⟨name, j⟩ := e
      by_cases hknown : name ∈ shape.names
      · rw [Scattered, List.filter_cons_of_pos (by simpa using hknown)] at h
        obtain ⟨f, hf, hentry⟩ := List.mem_map.1 (h.subset List.mem_cons_self)
        obtain ⟨rfl, rfl⟩ := Prod.mk.inj hentry
        -- The entry goes first in the list, too.
        obtain ⟨front, back, rfl⟩ := List.append_of_mem hf
        have hfirst : (front ++ f :: back).Perm (f :: (front ++ back)) := List.perm_middle
        rw [fill_perm hcommute hfirst, entries_of_known hknown (hseen f hf), f.step]
        have hrest := hcommute.perm hfirst (Std.Symm.symm _ _)
        have hdistinct := (hfirst.map (·.name)).nodup_iff.1 hnames
        obtain ⟨hother, hdistinct⟩ := List.nodup_cons.1 hdistinct
        refine ih (List.pairwise_cons.1 hrest).2 hdistinct ?_ ?_ (f.put false s)
        · exact (h.trans (hfirst.map entry)).cons_inv
        · intro g hg hmem
          rcases List.mem_cons.1 hmem with hsame | hmem
          · exact hother (List.mem_map.2 ⟨g, hg, hsame⟩)
          · exact hseen g (hfirst.mem_iff.2 (List.mem_cons_of_mem f hg)) hmem
      · rw [entries_of_unknown hknown]
        rw [Scattered, List.filter_cons_of_neg (by simpa using hknown)] at h
        exact ih hcommute hnames h hseen s

/-- An object that has some of a list of entries, in any order and with others among them, is read
as what these do to the value at the start. -/
theorem decode_of_scattered
    {left : String → Bool}
    {fs : List (Filling shape)}
    {es : List (String × Json)}
    (hcommute : fs.Pairwise Commutes)
    (hnames : (fs.map (·.name)).Nodup)
    (h : Scattered shape.names ((fs.map entry).filter fun e => !left e.1) es)
    (source : Source)
    (s : σ) :
    shape.decode source s (.ofJson (.fields es)) = .ok (fill left fs s) := by
  rw [List.filter_map] at h
  have hentries := entries_of_scattered (hcommute.sublist List.filter_sublist)
    (hnames.sublist (List.filter_sublist.map _)) h (fun _ _ => List.not_mem_nil) s
  rw [Reading.ofJson, Shape.decode, hentries, ← fill_filter left fs s]
  rfl

end Filling
end Json
end LinkLedger
