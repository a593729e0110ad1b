import LinkLedger.Proofs.Json.RoundTrip
import LinkLedger.Record.Document

/-!
# Documents that decoders take for values

A decoder reads a document as a value.  What is written of a record is read field by field: each
entry changes the value under construction, so the entries together lead from the start to the
record.  A name may occur once, and an entry that is left out leaves its field as it was at the
start.

**Results.**
* `Reads.document`: a document that is read as a value is read so from its text.
* `Reads.list`, `Reads.table`: lists and tables are read item by item.
* `Fills.reads`: entries that fill a record are read as it.
-/

namespace LinkLedger
namespace Json

/-- Two decodings succeed together exactly if the second succeeds on what the first gives. -/
theorem bind_eq_ok
    {ε α β : Type}
    {x : Except ε α}
    {f : α → Except ε β}
    {b : β} :
    (x >>= f) = .ok b ↔ ∃ a, x = .ok a ∧ f a = .ok b := by
  cases x with
  | error e =>
      constructor
      · intro h
        cases h
      · rintro ⟨a, ha, -⟩
        cases ha
  | ok a =>
      constructor
      · intro h
        exact ⟨a, rfl, h⟩
      · rintro ⟨a', ha, h⟩
        cases ha
        exact h

/-! ## Numbers -/

theorem decodeNat_ofNat
    {n bound : Nat}
    (type : String)
    (hfits : n ≤ maxNatural)
    (h : n ≤ bound) :
    decodeNat type bound (.number (.ofNat n)) = .ok n := by
  rw [decodeNat, quantity?_ofNat hfits]
  exact if_pos h

/-- A written number is decoded as itself, or refused. -/
theorem eq_of_decodeNat_ofNat
    {n k bound : Nat}
    {type : String}
    (h : decodeNat type bound (.number (.ofNat n)) = .ok k) :
    k = n := by
  rw [decodeNat] at h
  split at h
  · cases h
  · next m hquantity =>
    split at h
    · cases h
      exact eq_of_quantity?_ofNat hquantity
    · cases h
  · cases h
  · cases h

/-- A written number or `null` is decoded as itself, or refused. -/
theorem eq_of_decodeOption_natOrNull
    {n? k? : Option Nat}
    {type : String}
    {bound : Nat}
    (h : decodeOption (decodeNat type bound) (.ofJson (natOrNull n?)) = .ok k?) :
    k? = n? := by
  cases n? with
  | none =>
      cases h
      rfl
  | some n =>
      change (decodeNat type bound (.number (.ofNat n))).map some = _ at h
      cases hread : decodeNat type bound (.number (.ofNat n)) with
      | error e =>
          rw [hread] at h
          cases h
      | ok k =>
          rw [hread, eq_of_decodeNat_ofNat hread] at h
          cases h
          rfl

/-! ## Documents and their values -/

/-- A document, with its numbers spelled as documents allow it, that a decoder takes for a value. -/
structure Reads {α : Type} (d : Decoder α) (j : Json) (a : α) : Prop where
  spelled : j.WellSpelled
  decodes : d (.ofJson j) = .ok a

namespace Reads

variable {α β : Type} {d : Decoder α} {j : Json} {a : α}

/-- A document that is read as a value is read so from its text. -/
theorem document
    (h : Reads d j a) :
    decodeDocument d j.render = .ok a := by
  rw [decodeDocument_render h.spelled, h.decodes]

theorem map
    (h : Reads d j a)
    (f : α → β) :
    Reads (fun r => (d r).map f) j (f a) :=
  ⟨h.spelled, by rw [h.decodes]; rfl⟩

theorem bind
    {f : α → Except DecodeError β}
    {b : β}
    (h : Reads d j a)
    (hf : f a = .ok b) :
    Reads (fun r => do f (← d r)) j b :=
  ⟨h.spelled, bind_eq_ok.2 ⟨a, h.decodes, hf⟩⟩

theorem text
    (s : String) :
    Reads decodeText (.text s) s :=
  ⟨trivial, rfl⟩

theorem bool
    (b : Bool) :
    Reads decodeBool (.bool b) b :=
  ⟨trivial, rfl⟩

theorem nat
    {n bound : Nat}
    (type : String)
    (hfits : n ≤ maxNatural)
    (h : n ≤ bound) :
    Reads (decodeNat type bound) (.nat n) n :=
  ⟨wellSpelled_ofNat n, decodeNat_ofNat type hfits h⟩

theorem null :
    Reads (decodeOption d) .null none :=
  ⟨trivial, rfl⟩

/-- What is not `null` is read as a value that is there. -/
theorem some
    (h : Reads d j a)
    (hnull : j ≠ .null) :
    Reads (decodeOption d) j (some a) := by
  refine ⟨h.spelled, ?_⟩
  have hvalue : decodeOption d (.ofJson j) = (d (.ofJson j)).map Option.some := by
    cases j with
    | null => exact absurd rfl hnull
    | bool b => rfl
    | number n => rfl
    | text s => rfl
    | list items => rfl
    | fields entries => rfl
  rw [hvalue, h.decodes]
  rfl

theorem natOrNull
    {n? : Option Nat}
    (type : String)
    (h : ∀ n ∈ n?, n ≤ maxNatural) :
    Reads (decodeOption (decodeNat type maxNatural)) (natOrNull n?) n? := by
  cases n? with
  | none => exact null
  | some n => exact (nat type (h n rfl) (h n rfl)).some nofun

theorem textOrNull
    (s? : Option String) :
    Reads (decodeOption decodeText) (textOrNull s?) s? := by
  cases s? with
  | none => exact null
  | some s => exact (text s).some nofun

/-- A list is read item by item. -/
theorem list
    {item : α → Json}
    {as : List α}
    (h : ∀ a ∈ as, Reads d (item a) a) :
    Reads (decodeList d) (.list (as.map item)) as := by
  have hitems : ItemsWellSpelled (as.map item) ∧
      decodeItems d (Reading.ofItems (as.map item)) = .ok as := by
    induction as with
    | nil => exact ⟨trivial, rfl⟩
    | cons a as ih =>
        obtain ⟨hspelled, hdecodes⟩ := ih fun b hb => h b (List.mem_cons_of_mem a hb)
        have ha := h a List.mem_cons_self
        refine ⟨⟨ha.spelled, hspelled⟩, ?_⟩
        rw [List.map_cons, Reading.ofItems, decodeItems, ha.decodes, hdecodes]
        rfl
  refine ⟨hitems.1, ?_⟩
  rw [Reading.ofJson, decodeList, hitems.2]
  rfl

/-- A table is read entry by entry, with its names in their order. -/
theorem table
    {item : α → Json}
    {t : Table α}
    (h : ∀ e ∈ t.entries, Reads d (item e.2) e.2) :
    Reads (decodeTable d) (t.toJson item) t.entries := by
  rw [Table.toJson]
  generalize t.entries = entries at h
  have hentries : EntriesWellSpelled (entries.map fun e => (e.1, item e.2)) ∧
      decodeNamed d (Reading.ofEntries (entries.map fun e => (e.1, item e.2))) = .ok entries := by
    induction entries with
    | nil => exact ⟨trivial, rfl⟩
    | cons e entries ih =>
        obtain ⟨hspelled, hdecodes⟩ := ih fun f hf => h f (List.mem_cons_of_mem e hf)
        have he := h e List.mem_cons_self
        refine ⟨⟨he.spelled, hspelled⟩, ?_⟩
        rw [List.map_cons, Reading.ofEntries, decodeNamed, he.decodes, hdecodes]
        rfl
  refine ⟨hentries.1, ?_⟩
  rw [Reading.ofJson, decodeTable, hentries.2]
  rfl

end Reads

/-! ## Entries -/

theorem entriesWellSpelled_append
    {front back : List (String × Json)} :
    EntriesWellSpelled (front ++ back) ↔
      EntriesWellSpelled front ∧ EntriesWellSpelled back := by
  induction front with
  | nil => simp [EntriesWellSpelled]
  | cons e front ih =>
      rw [List.cons_append, EntriesWellSpelled, EntriesWellSpelled, ih, and_assoc]

theorem wellSpelled_optionalEntry
    {α : Type}
    {name : String}
    {toJson : α → Json}
    {a? : Option α}
    (h : ∀ a ∈ a?, (toJson a).WellSpelled) :
    EntriesWellSpelled (optionalEntry name toJson a?) := by
  cases a? with
  | none => trivial
  | some a => exact ⟨h a rfl, trivial⟩

/-! ## Records -/

/-- Entries that lead from one value under construction to another, each by the decoder of its
field.  They come in the order of the names, some of which may be left out. -/
inductive Fills {σ : Type} (shape : Shape σ) :
    List String → List (String × Json) → σ → σ → Prop
  | done
      (names : List String) (s : σ) :
      Fills shape names [] s s
  | field
      {α : Type} {d : Decoder α} {name : String} {j : Json} {a : α} {set : α → σ}
      {names : List String} {rest : List (String × Json)} {s t : σ}
      (hstep : ∀ r, shape.step name r s = (d r).map set)
      (hvalue : Reads d j a)
      (hrest : Fills shape names rest (set a) t) :
      Fills shape (name :: names) ((name, j) :: rest) s t
  | absent
      {name : String} {names : List String} {rest : List (String × Json)} {s t : σ}
      (hrest : Fills shape names rest s t) :
      Fills shape (name :: names) rest s t

namespace Fills

variable {σ : Type} {shape : Shape σ} {names : List String} {s t : σ}

/-- An entry that may be left out: the value under construction starts without one. -/
theorem optional
    {α : Type}
    {d : Decoder α}
    {name : String}
    {toJson : α → Json}
    {a? : Option α}
    {set : Option α → σ}
    {rest : List (String × Json)}
    (hstep : ∀ r, shape.step name r s = (decodeOption d r).map set)
    (hstart : set none = s)
    (hvalue : ∀ a ∈ a?, Reads d (toJson a) a ∧ toJson a ≠ .null)
    (hrest : Fills shape names rest (set a?) t) :
    Fills shape (name :: names) (optionalEntry name toJson a? ++ rest) s t := by
  cases a? with
  | none =>
      rw [hstart] at hrest
      exact .absent hrest
  | some a =>
      obtain ⟨hreads, hnull⟩ := hvalue a rfl
      exact .field hstep (hreads.some hnull) hrest

theorem spelled
    {entries : List (String × Json)}
    (h : Fills shape names entries s t) :
    EntriesWellSpelled entries := by
  induction h with
  | done names s => trivial
  | field hstep hvalue hrest ih => exact ⟨hvalue.spelled, ih⟩
  | absent hrest ih => exact ih

theorem entries_eq
    {entries : List (String × Json)}
    (h : Fills shape names entries s t)
    {seen : List String}
    (hnames : names ⊆ shape.names)
    (hnodup : names.Nodup)
    (hseen : ∀ name ∈ names, name ∉ seen) :
    shape.entries seen (Reading.ofEntries entries) s = .ok t := by
  -- The names seen are those in front, so none of the names still to come is among them.
  induction h generalizing seen with
  | done names s => rfl
  | @field α d name j a set names rest s t hstep hvalue hrest ih =>
      obtain ⟨hfirst, hothers⟩ := List.nodup_cons.1 hnodup
      obtain ⟨hname, hnames⟩ := List.cons_subset.1 hnames
      have hfresh : ∀ other ∈ names, other ∉ name :: seen := by
        intro other hother hmem
        rcases List.mem_cons.1 hmem with rfl | hmem
        · exact hfirst hother
        · exact hseen other (List.mem_cons_of_mem name hother) hmem
      rw [Reading.ofEntries, Shape.entries, if_pos hname,
        if_neg (hseen name List.mem_cons_self), hstep, hvalue.decodes]
      exact ih hnames hothers hfresh
  | @absent name names rest s t hrest ih =>
      exact ih (List.cons_subset.1 hnames).2 (List.nodup_cons.1 hnodup).2
        fun other hother => hseen other (List.mem_cons_of_mem name hother)

/-- Entries that fill a record are read as it, if its fields have different names. -/
theorem reads
    {entries : List (String × Json)}
    (h : Fills shape shape.names entries s t)
    (hnodup : shape.names.Nodup)
    (source : Source) :
    Reads (shape.decode source s) (.fields entries) t := by
  refine ⟨h.spelled, ?_⟩
  rw [Reading.ofJson, Shape.decode, h.entries_eq (List.Subset.refl _) hnodup (by simp)]
  rfl

end Fills
end Json

/-! ## Tables -/

namespace Table

variable {α : Type}

/-- An entry behind all others is put at the end. -/
theorem insertEntry_append
    {name : String}
    {value : α}
    {entries : List (String × α)}
    (h : ∀ e ∈ entries, e.1 < name) :
    insertEntry name value entries = entries ++ [(name, value)] := by
  induction entries with
  | nil => rfl
  | cons e entries ih =>
      have hlt : e.1 < name := h e List.mem_cons_self
      have hbehind := ih fun f hf => h f (List.mem_cons_of_mem e hf)
      have hnot : ¬ name < e.1 := fun hgt => Std.lt_irrefl (Std.lt_trans hlt hgt)
      have hne : name ≠ e.1 := fun heq => hnot (heq ▸ hlt)
      rw [insertEntry, if_neg hnot, if_neg hne, hbehind, List.cons_append]

/-- A table is what its entries describe. -/
theorem ofList_entries
    (t : Table α) :
    ofList t.entries = t := by
  have hfold : ∀ (entries : List (String × α)) (u : Table α),
      Ascending (u.entries ++ entries) →
      (entries.foldl (fun u e => u.insert e.1 e.2) u).entries = u.entries ++ entries := by
    intro entries
    induction entries with
    | nil =>
        intro u _
        rw [List.foldl_nil, List.append_nil]
    | cons e entries ih =>
        intro u h
        have hlast : (u.insert e.1 e.2).entries = u.entries ++ [e] :=
          insertEntry_append fun f hf =>
            (List.pairwise_append.1 h).2.2 f hf e List.mem_cons_self
        have hwhole : u.entries ++ e :: entries = (u.insert e.1 e.2).entries ++ entries := by
          rw [hlast, List.append_assoc, List.singleton_append]
        rw [hwhole] at h ⊢
        exact ih _ h
  exact Table.ext (hfold t.entries empty t.ascending)

end Table
end LinkLedger
