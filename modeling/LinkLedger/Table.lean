/-!
# Tables with texts as names

A table gives a value to finitely many names and lists them in ascending order, so two tables with
the same entries are equal.

**Results.**
* `Table.find?_insert_self`, `Table.find?_insert_of_ne`: what a look-up finds after an insertion.
* `Table.find?_eq_some_iff`: a look-up finds the entries.
* `Table.mem_names_of_find?`, `Table.mem_names_iff`, `Table.mem_names_ofList`: which names a table
  lists.
* `Table.nodup_names`: none of them twice.
-/

namespace LinkLedger

/-- Entries in strictly ascending order of their names. -/
def Ascending {α : Type} (entries : List (String × α)) : Prop :=
  entries.Pairwise fun a b => a.1 < b.1

/-- Puts an entry in its place; an entry of the same name gives way. -/
def insertEntry {α : Type} (name : String) (value : α) :
    List (String × α) → List (String × α)
  | [] => [(name, value)]
  | (n, v) :: rest =>
      if name < n then (name, value) :: (n, v) :: rest
      else if name = n then (name, value) :: rest
      else (n, v) :: insertEntry name value rest

theorem mem_insertEntry {α : Type} {name : String} {value : α} {entries : List (String × α)}
    {e : String × α} (h : e ∈ insertEntry name value entries) :
    e = (name, value) ∨ e ∈ entries := by
  induction entries with
  | nil => simpa [insertEntry] using h
  | cons f rest ih =>
      rw [insertEntry] at h
      split at h
      · simpa using h
      · split at h
        · rcases List.mem_cons.1 h with h | h
          · exact Or.inl h
          · exact Or.inr (by simp [h])
        · rcases List.mem_cons.1 h with h | h
          · exact Or.inr (by simp [h])
          · rcases ih h with h | h
            · exact Or.inl h
            · exact Or.inr (by simp [h])

theorem lt_of_not_lt_of_ne {a b : String} (h : ¬ a < b) (hne : a ≠ b) : b < a := by
  exact Std.lt_of_le_of_ne (Std.not_lt.1 h) (Ne.symm hne)

theorem ascending_insertEntry {α : Type} (name : String) (value : α)
    {entries : List (String × α)} (h : Ascending entries) :
    Ascending (insertEntry name value entries) := by
  induction entries with
  | nil => simp [insertEntry, Ascending]
  | cons f rest ih =>
      obtain ⟨hf, hrest⟩ := List.pairwise_cons.1 h
      rw [insertEntry]
      split
      · next hlt =>
        refine List.pairwise_cons.2 ⟨?_, h⟩
        intro e he
        rcases List.mem_cons.1 he with rfl | he
        · exact hlt
        · exact Std.lt_trans hlt (hf e he)
      · next hnlt =>
        split
        · next heq => exact List.pairwise_cons.2 ⟨fun e he => heq ▸ hf e he, hrest⟩
        · next hne =>
          refine List.pairwise_cons.2 ⟨?_, ih hrest⟩
          intro e he
          rcases mem_insertEntry he with rfl | he
          · exact lt_of_not_lt_of_ne hnlt hne
          · exact hf e he

/-- The value of a name among entries. -/
def findEntry {α : Type} (name : String) : List (String × α) → Option α
  | [] => none
  | (n, v) :: rest => if name = n then some v else findEntry name rest

/-- A table: its entries in ascending order of their names. -/
structure Table (α : Type) where
  entries : List (String × α)
  ascending : Ascending entries

namespace Table

variable {α : Type}

/-- The table without entries. -/
def empty : Table α := ⟨[], List.Pairwise.nil⟩

instance : Inhabited (Table α) := ⟨empty⟩

/-- Gives a name a value, in place of the one it had. -/
def insert (t : Table α) (name : String) (value : α) : Table α :=
  ⟨insertEntry name value t.entries, ascending_insertEntry name value t.ascending⟩

/-- The value of a name. -/
def find? (t : Table α) (name : String) : Option α :=
  findEntry name t.entries

/-- The names in ascending order. -/
def names (t : Table α) : List String :=
  t.entries.map (·.1)

/-- The table that entries describe, a later one of a name in place of an earlier one. -/
def ofList (entries : List (String × α)) : Table α :=
  entries.foldl (fun t e => t.insert e.1 e.2) empty

@[ext] theorem ext {t u : Table α} (h : t.entries = u.entries) : t = u := by
  cases t
  cases u
  simp_all

theorem findEntry_insertEntry_self (name : String) (value : α) (entries : List (String × α)) :
    findEntry name (insertEntry name value entries) = some value := by
  induction entries with
  | nil => simp [insertEntry, findEntry]
  | cons f rest ih =>
      rw [insertEntry]
      split
      · simp [findEntry]
      · split
        · simp [findEntry]
        · next hne => simp [findEntry, hne, ih]

theorem findEntry_insertEntry_of_ne {name other : String} (h : other ≠ name) (value : α)
    (entries : List (String × α)) :
    findEntry other (insertEntry name value entries) = findEntry other entries := by
  induction entries with
  | nil => simp [insertEntry, findEntry, h]
  | cons f rest ih =>
      rw [insertEntry]
      split
      · simp [findEntry, h]
      · split
        · next heq => simp [findEntry, h, ← heq]
        · simp [findEntry, ih]

@[simp] theorem find?_insert_self (t : Table α) (name : String) (value : α) :
    (t.insert name value).find? name = some value :=
  findEntry_insertEntry_self name value t.entries

theorem find?_insert_of_ne (t : Table α) {name other : String} (h : other ≠ name) (value : α) :
    (t.insert name value).find? other = t.find? other :=
  findEntry_insertEntry_of_ne h value t.entries

@[simp] theorem find?_empty (name : String) : (empty : Table α).find? name = none := rfl

theorem mem_of_findEntry {name : String} {value : α} {entries : List (String × α)}
    (h : findEntry name entries = some value) : (name, value) ∈ entries := by
  induction entries with
  | nil => cases h
  | cons e rest ih =>
      rw [findEntry] at h
      split at h
      · next heq =>
        cases h
        simp [heq]
      · exact List.mem_cons_of_mem _ (ih h)

/-- A name that has a value has an entry. -/
theorem mem_entries_of_find? {t : Table α} {name : String} {value : α}
    (h : t.find? name = some value) : (name, value) ∈ t.entries :=
  mem_of_findEntry h

theorem findEntry_of_mem {name : String} {value : α} {entries : List (String × α)}
    (hascending : Ascending entries) (h : (name, value) ∈ entries) :
    findEntry name entries = some value := by
  induction entries with
  | nil => cases h
  | cons e rest ih =>
      obtain ⟨hfirst, hrest⟩ := List.pairwise_cons.1 hascending
      rw [findEntry]
      rcases List.mem_cons.1 h with rfl | h
      · rw [if_pos rfl]
      · have hne : name ≠ e.1 := fun heq => Std.lt_irrefl (heq ▸ hfirst _ h)
        rw [if_neg hne, ih hrest h]

/-- A look-up finds the entries of a table. -/
theorem find?_eq_some_iff {t : Table α} {name : String} {value : α} :
    t.find? name = some value ↔ (name, value) ∈ t.entries :=
  ⟨mem_of_findEntry, findEntry_of_mem t.ascending⟩

/-- A name that has a value is listed. -/
theorem mem_names_of_find? {t : Table α} {name : String} {value : α}
    (h : t.find? name = some value) : name ∈ t.names :=
  List.mem_map.2 ⟨_, mem_entries_of_find? h, rfl⟩

/-- The names that are listed are those that have a value. -/
theorem mem_names_iff {t : Table α} {name : String} :
    name ∈ t.names ↔ ∃ value, t.find? name = some value := by
  constructor
  · intro h
    obtain ⟨⟨name, value⟩, he, rfl⟩ := List.mem_map.1 h
    exact ⟨value, find?_eq_some_iff.2 he⟩
  · rintro ⟨value, h⟩
    exact mem_names_of_find? h

/-- No name is listed twice. -/
theorem nodup_names (t : Table α) : t.names.Nodup := by
  refine List.pairwise_map.2 (t.ascending.imp ?_)
  intro a b hlt heq
  exact Std.lt_irrefl (heq ▸ hlt)

theorem mem_names_insertEntry {name other : String} {value : α}
    {entries : List (String × α)} :
    other ∈ (insertEntry name value entries).map (·.1) ↔
      other = name ∨ other ∈ entries.map (·.1) := by
  induction entries with
  | nil => simp [insertEntry]
  | cons e rest ih =>
      rw [insertEntry]
      split
      · simp
      · split
        · next heq => simp [heq]
        · simp only [List.map_cons, List.mem_cons, ih]
          constructor
          · rintro (h | h | h)
            · exact Or.inr (Or.inl h)
            · exact Or.inl h
            · exact Or.inr (Or.inr h)
          · rintro (h | h | h)
            · exact Or.inr (Or.inl h)
            · exact Or.inl h
            · exact Or.inr (Or.inr h)

/-- A table lists the names of the entries it was made of. -/
theorem mem_names_ofList {name : String} {entries : List (String × α)} :
    name ∈ (ofList entries).names ↔ name ∈ entries.map (·.1) := by
  have hfold : ∀ t : Table α,
      name ∈ (entries.foldl (fun t e => t.insert e.1 e.2) t).names ↔
        name ∈ t.names ∨ name ∈ entries.map (·.1) := by
    induction entries with
    | nil => simp
    | cons e rest ih =>
        intro t
        rw [List.foldl_cons, ih, List.map_cons, List.mem_cons, names, insert,
          mem_names_insertEntry, names, or_assoc, or_left_comm]
  rw [ofList, hfold]
  simp [names, empty]

end Table

end LinkLedger
