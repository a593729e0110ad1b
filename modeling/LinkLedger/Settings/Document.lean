import LinkLedger.Link.Document
import LinkLedger.Settings.Basic

/-!
# Settings as a document

Every entry of a settings document may be missing; what is missing keeps its standard value.
-/

namespace LinkLedger

open Json

namespace Categories

/-- The categories with one of them set, by its name in documents. -/
def set (name : String) (on : Bool) (c : Categories) : Categories :=
  match name with
  | "from_a" => { c with anchors := on }
  | "from_audio" => { c with audio := on }
  | "from_embed" => { c with embeds := on }
  | "from_iframe" => { c with frames := on }
  | "from_img" => { c with images := on }
  | "from_object" => { c with objects := on }
  | "from_video" => { c with videos := on }
  | _ => c

/-- The fields of a document of categories. -/
def shape : Shape Categories where
  title := "struct ExtractSettings"
  names :=
    ["from_a", "from_audio", "from_embed", "from_iframe", "from_img", "from_object", "from_video"]
  step name r c := (decodeBool r).map fun on => c.set name on
  partialList := true

/-- Reads categories over the standard ones. -/
def decode (source : Source) : Decoder Categories := shape.decode source .standard

/-- Categories as a document. -/
def toJson (c : Categories) : Json :=
  .fields
    [("from_a", .bool c.anchors), ("from_audio", .bool c.audio), ("from_embed", .bool c.embeds),
      ("from_iframe", .bool c.frames), ("from_img", .bool c.images),
      ("from_object", .bool c.objects), ("from_video", .bool c.videos)]

end Categories

namespace CheckSettings

/-- The fields of a document of check settings. -/
def shape : Shape CheckSettings where
  title := "struct CheckSettings"
  names := ["disable_link_check_for_urls", "concurrency", "timeout_secs"]
  step name r c :=
    match name with
    | "disable_link_check_for_urls" => (decodeText r).map fun s => { c with excluded := s }
    | "concurrency" => (decodeNat "usize" maxNatural r).map fun n => { c with concurrency := n }
    | "timeout_secs" => (decodeNat "u64" maxNatural r).map fun n => { c with timeout := n }
    | _ => .ok c
  partialList := true

/-- Reads check settings over the standard ones. -/
def decode (source : Source) : Decoder CheckSettings := shape.decode source .standard

/-- Check settings as a document. -/
def toJson (c : CheckSettings) : Json :=
  .fields
    [("disable_link_check_for_urls", .text c.excluded), ("concurrency", .nat c.concurrency),
      ("timeout_secs", .nat c.timeout)]

end CheckSettings

namespace Settings

/-- The fields of a settings document. -/
def shape (source : Source) : Shape Settings where
  title := "struct Settings"
  names :=
    ["extract", "check", "check_links_types", "default_url_scheme", "base_path", "batch_size"]
  step name r s :=
    match name with
    | "extract" => (Categories.decode source r).map fun c => { s with categories := c }
    | "check" => (CheckSettings.decode source r).map fun c => { s with check := c }
    | "check_links_types" => (KindFilter.decode source r).map fun f => { s with kinds := f }
    | "default_url_scheme" => (decodeText r).map fun t => { s with scheme := t }
    | "base_path" => (decodeText r).map fun t => { s with sitePath := t }
    | "batch_size" => (decodeNat "usize" maxNatural r).map fun n => { s with pageSize := n }
    | _ => .ok s
  partialList := true

/-- Reads settings over the standard ones. -/
def decode (source : Source) : Decoder Settings := (shape source).decode source .standard

/-- Settings as a document. -/
def toJson (s : Settings) : Json :=
  .fields
    [("extract", s.categories.toJson), ("check", s.check.toJson),
      ("check_links_types", s.kinds.toJson), ("default_url_scheme", .text s.scheme),
      ("base_path", .text s.sitePath), ("batch_size", .nat s.pageSize)]

/-- The settings that a text describes. -/
def ofText (text : String) : Except DecodeError Settings :=
  decodeDocument (decode .text) text

end Settings

end LinkLedger
