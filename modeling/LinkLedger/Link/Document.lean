import LinkLedger.Json.Decode
import LinkLedger.Link.Kind

/-!
# Kinds of link in documents
-/

namespace LinkLedger

open Json

/-- The kinds by their names. -/
def LinkKind.byName : List (String × LinkKind) :=
  [LinkKind.internal, .external, .blacklisted, .unsupported].map fun k => (k.name, k)

/-- A kind as a document. -/
def LinkKind.toJson (k : LinkKind) : Json := .text k.name

/-- Reads a kind. -/
def LinkKind.decode (source : Source) : Decoder LinkKind := decodeChoice byName source

/-- The filters by their names. -/
def KindFilter.byName : List (String × KindFilter) :=
  [KindFilter.all, .external, .internal].map fun f => (f.name, f)

/-- A filter as a document. -/
def KindFilter.toJson (f : KindFilter) : Json := .text f.name

/-- Reads a filter. -/
def KindFilter.decode (source : Source) : Decoder KindFilter := decodeChoice byName source

end LinkLedger
