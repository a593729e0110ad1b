import LinkLedger.Content.Basic
import LinkLedger.Extract.Registry
import LinkLedger.Link.Classifier
import LinkLedger.Record.Basic

/-!
# The links of content

The service finds the links of content: the fields that are searched give references, and those that
are tracked are kept in their absolute form, each once.
-/

namespace LinkLedger

/-- What the links of content depend on. -/
structure Service where
  settings : Settings
  registry : Extract.Registry

/-- The tracked links among references, in their absolute form, each once. -/
def Classifier.links (c : Classifier) (references : List String) (base : String) : List String :=
  unique (((references.map fun raw => c.classify raw base).filter (·.kept)).map (·.url))

namespace Service

/-- What the service judges references by. -/
def classifier (s : Service) : Classifier := .ofSettings s.settings

/-- The references among texts given by their octets; what is no text is left out. -/
def readable (octets : List (List UInt8)) : List String :=
  octets.filterMap fun raw =>
    match Text.decodeOctets raw with
    | .ok text => some (String.ofList text)
    | .error _ => none

/-- The tracked links among references that are given by their octets.  They are resolved against
the site if no base is given. -/
def getLinks (s : Service) (octets : List (List UInt8)) (base : Option String) : List String :=
  s.classifier.links (readable octets) (base.getD s.classifier.site)

/-- The address that the references of content are resolved against. -/
def baseOf (s : Service) (c : ContentView) : String := c.basePath.getD s.classifier.site

/-- The references in a field in one language, if the field is searched. -/
def references? (s : Service) (c : ContentView) (field language : String) : Option (List String) :=
  match c.config? field with
  | some config =>
      if config.scan then
        some (s.registry.extract config.extractor (c.values field language) s.settings.categories)
      else none
  | none => none

/-- The tracked links of a field in one language. -/
def fieldLinks (s : Service) (c : ContentView) (field language : String) : List String :=
  match s.references? c field language with
  | some references => s.classifier.links references (s.baseOf c)
  | none => []

/-- The records of the links of content, field by field and language by language. -/
def contentRecords (s : Service) (c : ContentView) : List LinkRecord :=
  (c.fieldNames.filter c.isScanned).flatMap fun field =>
    c.languages.flatMap fun language =>
      (s.fieldLinks c field language).map fun url => .ofOccurrence url c.owner field language

/-- Whether a link is in the content that a record says it is in.  Excluded patterns do not
matter. -/
def occurs (s : Service) (c : ContentView) (r : LinkRecord) : Bool :=
  match s.references? c r.field r.language with
  | none => false
  | some references =>
      let lenient := s.classifier.lenient
      let wanted := lenient.classify r.url (s.baseOf c)
      wanted.kept && (lenient.links references (s.baseOf c)).contains wanted.url

end Service
end LinkLedger
