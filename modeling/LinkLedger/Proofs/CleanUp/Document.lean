import LinkLedger.CleanUp.Document
import LinkLedger.Proofs.Json.Decoding

/-!
# Progress that has been saved

Progress is read from its text as it was saved, or not at all: numbers that do not fit into 64 bits
are refused.

**Results.**
* `Progress.ofText_toText`: progress whose numbers fit is read as it was saved.
* `Progress.eq_of_ofText_toText`: no other progress is ever read from its text.
-/

namespace LinkLedger

open Json

namespace Progress

/-- The numbers of progress fit into 64 bits. -/
structure Fits (p : Progress) : Prop where
  cursor : ∀ id, p.cursor = some id → id ≤ maxNatural
  pages : p.pages ≤ maxNatural
  deleted : p.deleted ≤ maxNatural

theorem wellSpelled_toJson
    (p : Progress) :
    p.toJson.WellSpelled := by
  have hcursor : (natOrNull p.cursor).WellSpelled := by
    cases p.cursor with
    | none => trivial
    | some id => exact wellSpelled_ofNat id
  exact ⟨hcursor, wellSpelled_ofNat p.pages, wellSpelled_ofNat p.deleted, trivial, trivial⟩

/-- What is read from the text of progress: its numbers, one after the other. -/
theorem ofText_toText_eq
    (p : Progress) :
    ofText p.toText = (do
      let cursor ← decodeOption (decodeNat "u64" maxNatural) (.ofJson (natOrNull p.cursor))
      let pages ← decodeNat "usize" maxNatural (.number (.ofNat p.pages))
      let deleted ← decodeNat "usize" maxNatural (.number (.ofNat p.deleted))
      .ok ⟨cursor, pages, deleted, p.finished⟩) := by
  rw [ofText, toText, decodeDocument_render p.wellSpelled_toJson]
  have hjson : Reading.ofJson p.toJson = .fields
      [(.text "cursor", .ofJson (natOrNull p.cursor)), (.text "pages", .number (.ofNat p.pages)),
        (.text "deleted", .number (.ofNat p.deleted)), (.text "finished", .bool p.finished)]
      .closed := rfl
  rw [decode, hjson, Shape.decode]
  cases hcursor : decodeOption (decodeNat "u64" maxNatural) (.ofJson (natOrNull p.cursor)) with
  | error e => simp [Shape.entries, shape, hcursor, Except.map, bind, Except.bind]
  | ok cursor =>
      cases hpages : decodeNat "usize" maxNatural (.number (.ofNat p.pages)) with
      | error e => simp [Shape.entries, shape, hcursor, hpages, Except.map, bind, Except.bind]
      | ok pages =>
          cases hdeleted : decodeNat "usize" maxNatural (.number (.ofNat p.deleted)) with
          | error e =>
              simp [Shape.entries, shape, hcursor, hpages, hdeleted, Except.map, bind, Except.bind]
          | ok deleted =>
              simp [Shape.entries, shape, hcursor, hpages, hdeleted, decodeBool, required,
                Stop.check, Except.map, bind, Except.bind]

theorem ofText_toText
    {p : Progress}
    (h : p.Fits) :
    ofText p.toText = .ok p := by
  rw [ofText_toText_eq, (Reads.natOrNull "u64" h.cursor).decodes,
    decodeNat_ofNat "usize" h.pages h.pages, decodeNat_ofNat "usize" h.deleted h.deleted]
  rfl

theorem eq_of_ofText_toText
    {p q : Progress}
    (h : ofText p.toText = .ok q) :
    q = p := by
  rw [ofText_toText_eq] at h
  obtain ⟨cursor, hcursor, h⟩ := Json.bind_eq_ok.1 h
  obtain ⟨pages, hpages, h⟩ := Json.bind_eq_ok.1 h
  obtain ⟨deleted, hdeleted, h⟩ := Json.bind_eq_ok.1 h
  rw [← Except.ok.inj h, eq_of_decodeOption_natOrNull hcursor, eq_of_decodeNat_ofNat hpages,
    eq_of_decodeNat_ofNat hdeleted]

end Progress
end LinkLedger
