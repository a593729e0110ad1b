import LinkLedger.Failure
import LinkLedger.Link.Resolve
import LinkLedger.Settings.Basic
import LinkLedger.Url.Parse

/-!
# Telling links apart

A reference is resolved and found to be internal, external, excluded or unsupported.  What a
classifier says depends on the site, the excluded patterns and the kinds that are tracked, and on
nothing else.
-/

namespace LinkLedger

open Text

/-- The length of the longest link that can be tracked. -/
def maxLinkLength : Nat := 2048

/-- What references are judged by. -/
structure Classifier where
  site : String
  excluded : List String
  kinds : KindFilter

/-- The judgement on a reference: its absolute form, its kind, and whether it is tracked. -/
structure Judgement where
  url : String
  kind : LinkKind
  kept : Bool
  deriving DecidableEq, Repr

namespace Classifier

/-- The classifier of some settings. -/
def ofSettings (s : Settings) : Classifier :=
  ⟨s.siteUrl, s.excludedPatterns, s.kinds⟩

/-- The classifier that excludes nothing. -/
def lenient (c : Classifier) : Classifier := { c with excluded := [] }

/-- Whether a link contains an excluded pattern. -/
def excludes (c : Classifier) (url : String) : Bool :=
  c.excluded.any fun pattern => contains url pattern

/-- Where a text belongs if it is a URL. -/
def originOf? (text : List Char) : Option Url.Origin :=
  match Url.parse text with
  | .ok u => u.origin?
  | .error _ => none

/-- Where the site belongs. -/
def siteOrigin? (c : Classifier) : Option Url.Origin := originOf? c.site.toList

/-- The scheme of the site; all of its address if that has none. -/
def siteScheme (c : Classifier) : List Char :=
  match splitFirst? "://".toList c.site.toList with
  | some (scheme, _) => scheme
  | none => c.site.toList

/-- Where a link belongs if it is one of the web; it may leave its scheme to the site, and have
spaces. -/
def webOrigin? (c : Classifier) (url : List Char) : Option Url.Origin :=
  let full := if "//".toList.isPrefixOf url then c.siteScheme ++ ':' :: url else url
  match Url.parse (replaceChar ' ' "%20".toList full) with
  | .ok u => if Url.isWeb u.scheme then u.origin? else none
  | .error _ => none

/-- The kind of an absolute link. -/
def kindOf (c : Classifier) (url : String) : LinkKind :=
  if maxLinkLength < url.length then .unsupported
  else
    match c.webOrigin? url.toList with
    | none => .unsupported
    | some origin =>
        if c.excludes url then .blacklisted
        else if c.siteOrigin? = some origin then .internal
        else .external

/-- The judgement on a link of a kind. -/
def judge (c : Classifier) (url : String) (kind : LinkKind) : Judgement :=
  ⟨url, kind, c.kinds.permits kind⟩

/-- Judges a reference in content at the address `base`. -/
def classify (c : Classifier) (raw base : String) : Judgement :=
  if isBlankText raw.toList then c.judge "" .unsupported
  else
    let url := Link.resolveText raw base c.site
    c.judge url (c.kindOf url)

/-- Judges a reference that is given by its octets. -/
def classifyOctets (c : Classifier) (raw : List UInt8) (base : String) :
    Except Failure Judgement :=
  match decodeOctets raw with
  | .ok text => .ok (c.classify (String.ofList text) base)
  | .error fault => .error (.ofUtf8 fault)

end Classifier
end LinkLedger
