import LinkLedger.Text.Blank
import LinkLedger.Text.Search

/-!
# Absolute forms of references

A reference as an author wrote it is brought to its absolute form against the address of the content
it occurs in.  Nothing is encoded: what the author wrote stays as it is.  The site may lie in a
directory of its host, and a leading slash means the root of the site.
-/

namespace LinkLedger
namespace Link

open Text

/-- The marks of references to parts of the site. -/
def siteTokens : List String := ["internal:", "base:", "entity:", "route:"]

/-- What follows the mark of a reference to a part of the site. -/
def sitePayload? (raw : List Char) : Option (List Char) :=
  siteTokens.findSome? fun token => token.toList.isPrefixOf? raw

/-- Whether a character may stand in a scheme, behind its first letter. -/
def isSchemeChar (c : Char) : Bool :=
  c.isAlphanum || c = '+' || c = '.' || c = '-'

/-- Whether a text starts with a scheme and a colon. -/
def hasScheme (raw : List Char) : Bool :=
  match raw with
  | c :: cs => c.isAlpha && (cs.dropWhile isSchemeChar).head? == some ':'
  | [] => false

/-- The address of a host with its scheme, and the path behind it. -/
def splitHost? (base : List Char) : Option (List Char × List Char) :=
  (splitFirst? "://".toList base).map fun (scheme, rest) =>
    (scheme ++ "://".toList ++ before (· == '/') rest, since (· == '/') rest)

/-- The root that a base lies below, and the path from there.  The root is the site if the base lies
in it, and the host of the base otherwise; a base without a host is a path on the site. -/
def splitBase (base site : List Char) : List Char × List Char :=
  let otherwise := (splitHost? base).getD (site, base)
  match site.isPrefixOf? base with
  | some [] => (site, [])
  | some ('/' :: path) => (site, '/' :: path)
  | _ => otherwise

/-- Goes through the segments of a path; `done` are the segments in front of them, last one
first. -/
def walk (done : List (List Char)) : List (List Char) → List (List Char)
  | [] => done
  | s :: rest =>
      let ending (done : List (List Char)) : List (List Char) :=
        if rest.isEmpty then [] :: done else done
      if s = ['.', '.'] then walk (ending (done.drop 1)) rest
      else if s = ['.'] then walk (ending done) rest
      else walk (s :: done) rest

/-- The segments of a path, leading slashes apart. -/
def segments (path : List Char) : List (List Char) :=
  (path.dropWhile (· == '/')).splitOn '/'

/-- The segments of the directory that a path lies in. -/
def directory (path : List Char) : List (List Char) :=
  (segments path).dropLast

/-- Whether a character ends the path of a reference. -/
def endsPath (c : Char) : Bool := c = '?' || c = '#'

/-- Merges the path of a reference with the path of its base. -/
def mergePath (base path : List Char) : List Char :=
  let above := if path.head? = some '/' then [] else directory base
  ['/'].intercalate (walk above.reverse (segments path)).reverse

/-- The absolute form of a reference with a path. -/
def resolvePath (raw base site : List Char) : List Char :=
  let (root, path) := splitBase base site
  root ++ '/' :: mergePath path (before endsPath raw) ++ since endsPath raw

/-- The absolute form of a reference against the address `base` on the site `site`. -/
def resolve (raw base site : List Char) : List Char :=
  let raw := trim raw
  match sitePayload? raw with
  | some payload => site ++ '/' :: payload.dropWhile (· == '/')
  | none =>
      if "//".toList.isPrefixOf raw || hasScheme raw then raw
      else
        let page := before (· == '#') (trim base)
        let place := before (· == '?') page
        match raw with
        | [] => page
        | '#' :: _ => page ++ raw
        | '?' :: _ => place ++ raw
        | _ => resolvePath raw place site

/-- `resolve` on strings. -/
def resolveText (raw base site : String) : String :=
  String.ofList (resolve raw.toList base.toList site.toList)

end Link
end LinkLedger
