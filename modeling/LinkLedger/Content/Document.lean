import LinkLedger.Content.Basic
import LinkLedger.Json.Decode

/-!
# Content as a document
-/

namespace LinkLedger

open Json

/-- An owner name under construction. -/
structure Owner.Draft where
  type : Option String
  id : Option String

/-- The fields of a document of an owner name. -/
def Owner.shape : Shape Owner.Draft where
  title := "struct ParentRef"
  names := ["entity_type_id", "entity_id"]
  step name r d :=
    match name with
    | "entity_type_id" => (decodeText r).map fun s => { d with type := some s }
    | "entity_id" => (decodeText r).map fun s => { d with id := some s }
    | _ => .ok d
  partialList := false

/-- Reads an owner name. -/
def Owner.decode (source : Source) : Decoder Owner := fun r => do
  let d ← Owner.shape.decode source ⟨none, none⟩ r
  let type ← required "entity_type_id" d.type
  let id ← required "entity_id" d.id
  .ok ⟨type, id⟩

/-- An owner name as a document. -/
def Owner.toJson (o : Owner) : Json :=
  .fields [("entity_type_id", .text o.type), ("entity_id", .text o.id)]

/-- A field configuration under construction. -/
structure FieldConfig.Draft where
  scan : Option Bool
  extractor : Option String

/-- The fields of a document of a field configuration. -/
def FieldConfig.shape : Shape FieldConfig.Draft where
  title := "struct FieldConfig"
  names := ["scan", "extractor"]
  step name r d :=
    match name with
    | "scan" => (decodeBool r).map fun b => { d with scan := some b }
    | "extractor" => (decodeText r).map fun s => { d with extractor := some s }
    | _ => .ok d
  partialList := false

/-- Reads a field configuration. -/
def FieldConfig.decode (source : Source) : Decoder FieldConfig := fun r => do
  let d ← FieldConfig.shape.decode source ⟨none, none⟩ r
  let scan ← required "scan" d.scan
  let extractor ← required "extractor" d.extractor
  .ok ⟨scan, extractor⟩

/-- A field configuration as a document. -/
def FieldConfig.toJson (c : FieldConfig) : Json :=
  .fields [("scan", .bool c.scan), ("extractor", .text c.extractor)]

/-- Content under construction. -/
structure Content.Draft where
  owner : Option Owner
  deleted : Option Bool
  basePath : Option String
  fields : Option (Table (Table (List String)))
  configs : Option (Table FieldConfig)

/-- The fields of a content document. -/
def Content.shape (source : Source) : Shape Content.Draft where
  title := "struct ContentRecord"
  names := ["parent", "deleted", "base_path", "fields", "field_configs"]
  step name r d :=
    match name with
    | "parent" => (Owner.decode source r).map fun o => { d with owner := some o }
    | "deleted" => (decodeBool r).map fun b => { d with deleted := some b }
    | "base_path" => (decodeOption decodeText r).map fun s => { d with basePath := s }
    | "fields" =>
        (decodeTable (fun r => (decodeTable (decodeList decodeText) r).map Table.ofList) r).map
          fun t => { d with fields := some (Table.ofList t) }
    | "field_configs" =>
        (decodeTable (FieldConfig.decode source) r).map
          fun t => { d with configs := some (Table.ofList t) }
    | _ => .ok d
  partialList := false

/-- Reads content. -/
def Content.decode (source : Source) : Decoder Content := fun r => do
  let d ← (Content.shape source).decode source ⟨none, none, none, none, none⟩ r
  let owner ← required "parent" d.owner
  let deleted ← required "deleted" d.deleted
  let fields ← required "fields" d.fields
  let configs ← required "field_configs" d.configs
  .ok ⟨owner, deleted, d.basePath, fields, configs⟩

/-- A table as a document. -/
def Table.toJson {α : Type} (item : α → Json) (t : Table α) : Json :=
  .fields (t.entries.map fun e => (e.1, item e.2))

/-- Content as a document. -/
def Content.toJson (c : Content) : Json :=
  .fields
    [("parent", c.owner.toJson), ("deleted", .bool c.deleted),
      ("base_path", .textOrNull c.basePath),
      ("fields", c.fields.toJson fun t => t.toJson fun values => .list (values.map .text)),
      ("field_configs", c.configs.toJson FieldConfig.toJson)]

end LinkLedger
