import LinkLedger.Extract.Text
import LinkLedger.Table

/-!
# Extractors by name

A field names its extractor.  A name that stands for none yields no links.
-/

namespace LinkLedger
namespace Extract

/-- What finds links in the value of a field. -/
abbrev Extractor := Categories → String → List String

/-- The extractor of link fields. -/
def linkField : Extractor := fun _ value => link value

/-- Extractors by their names. -/
abbrev Registry := Table Extractor

namespace Registry

/-- The registry without extractors. -/
def none : Registry := Table.empty

/-- The name of the extractor for HTML. -/
def htmlName : String := "html_link_extractor"

/-- The name of the extractor for link fields. -/
def linkName : String := "link_link_extractor"

/-- The name of the extractor for Markdown. -/
def markdownName : String := "markdown_link_extractor"

/-- The registry of all extractors. -/
def standard : Registry :=
  Table.ofList [(htmlName, html), (linkName, linkField), (markdownName, markdown)]

/-- Whether a name stands for an extractor. -/
def knows (r : Registry) (name : String) : Bool := (r.find? name).isSome

/-- The links that the extractor of a name finds in values, each once. -/
def extract (r : Registry) (name : String) (values : List String) (on : Categories) :
    List String :=
  match r.find? name with
  | some extractor => unique (values.flatMap fun value => extractor on value)
  | Option.none => []

end Registry
end Extract
end LinkLedger
