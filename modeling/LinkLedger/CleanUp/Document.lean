import LinkLedger.CleanUp.Removal
import LinkLedger.Json.Writer
import LinkLedger.Record.Document

/-!
# The progress of a removal as a document
-/

namespace LinkLedger

open Json

namespace Progress

/-- Progress under construction. -/
structure Draft where
  cursor : Option Nat
  pages : Option Nat
  deleted : Option Nat
  finished : Option Bool

/-- The fields of a progress document. -/
def shape : Shape Draft where
  title := "struct BatchProgress"
  names := ["cursor", "pages", "deleted", "finished"]
  step name r d :=
    match name with
    | "cursor" => (decodeOption (decodeNat "u64" maxNatural) r).map fun n => { d with cursor := n }
    | "pages" => (decodeNat "usize" maxNatural r).map fun n => { d with pages := some n }
    | "deleted" => (decodeNat "usize" maxNatural r).map fun n => { d with deleted := some n }
    | "finished" => (decodeBool r).map fun b => { d with finished := some b }
    | _ => .ok d
  partialList := false

/-- Reads progress. -/
def decode (source : Source) : Decoder Progress := fun r => do
  let d ← shape.decode source ⟨none, none, none, none⟩ r
  let pages ← required "pages" d.pages
  let deleted ← required "deleted" d.deleted
  let finished ← required "finished" d.finished
  .ok ⟨d.cursor, pages, deleted, finished⟩

/-- Progress as a document. -/
def toJson (p : Progress) : Json :=
  .fields
    [("cursor", natOrNull p.cursor), ("pages", .nat p.pages), ("deleted", .nat p.deleted),
      ("finished", .bool p.finished)]

/-- The text that progress is saved as. -/
def toText (p : Progress) : String := p.toJson.render

/-- The progress that a text describes. -/
def ofText (text : String) : Except DecodeError Progress :=
  decodeDocument (decode .text) text

end Progress
end LinkLedger
