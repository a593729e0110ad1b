import LinkLedger.Table

/-!
# Content that links are found in

Content has an owner name, values of fields by language, and a configuration of its fields.  The
services see content only through a `ContentView`: what it answers to their questions.  Content that
is held as data, `Content`, is one way to answer them.
-/

namespace LinkLedger

/-- The name of a piece of content: its type and its identifier within the type. -/
structure Owner where
  type : String
  id : String
  deriving DecidableEq, Repr, Inhabited

/-- The text of an owner name. -/
def Owner.display (o : Owner) : String :=
  o.type ++ "/" ++ o.id

/-- How a field is treated: whether it is searched for links, and by which extractor. -/
structure FieldConfig where
  scan : Bool
  extractor : String
  deriving DecidableEq, Repr, Inhabited

/-- A field that is searched by an extractor. -/
def FieldConfig.scanned (extractor : String) : FieldConfig := ⟨true, extractor⟩

/-- A field that is not searched. -/
def FieldConfig.ignored : FieldConfig := ⟨false, ""⟩

/-- Content as the services see it: its answers to their questions. -/
structure ContentView where
  owner : Owner
  isLive : Bool
  fieldNames : List String
  values : String → String → List String
  config? : String → Option FieldConfig
  languages : List String
  basePath : Option String

/-- Whether a field is searched for links. -/
def ContentView.isScanned (c : ContentView) (name : String) : Bool :=
  match c.config? name with
  | some config => config.scan
  | none => false

/-- A piece of content. -/
structure Content where
  owner : Owner
  deleted : Bool
  basePath : Option String
  fields : Table (Table (List String))
  configs : Table FieldConfig

namespace Content

/-- Content without fields. -/
def ofOwner (owner : Owner) : Content :=
  ⟨owner, false, none, .empty, .empty⟩

/-- Content with an address of its own. -/
def withBasePath (c : Content) (path : String) : Content :=
  { c with basePath := some path }

/-- Content with the values of a field in one language. -/
def withField (c : Content) (name language : String) (values : List String) : Content :=
  { c with
    fields := c.fields.insert name (((c.fields.find? name).getD .empty).insert language values) }

/-- Content with the configuration of a field. -/
def withConfig (c : Content) (name : String) (config : FieldConfig) : Content :=
  { c with configs := c.configs.insert name config }

/-- Whether the content has not been deleted. -/
def isLive (c : Content) : Bool := !c.deleted

/-- The names of the fields: those with values, then those that only have a configuration. -/
def fieldNames (c : Content) : List String :=
  c.fields.names ++ c.configs.names.filter fun name => !c.fields.names.contains name

/-- The values of a field in one language. -/
def values (c : Content) (name language : String) : List String :=
  (((c.fields.find? name).bind fun byLanguage => byLanguage.find? language)).getD []

/-- The configuration of a field. -/
def config? (c : Content) (name : String) : Option FieldConfig :=
  c.configs.find? name

/-- The languages that some field has an entry for, in ascending order. -/
def languages (c : Content) : List String :=
  (Table.ofList ((c.fields.entries.flatMap fun f => f.2.names).map fun l => (l, ()))).names

/-- What the content answers to the services. -/
def view (c : Content) : ContentView :=
  ⟨c.owner, c.isLive, c.fieldNames, c.values, c.config?, c.languages, c.basePath⟩

instance : Coe Content ContentView := ⟨view⟩

end Content
end LinkLedger
