import LinkLedger.Text.Blank
import LinkLedger.Text.Search
import LinkLedger.Url.Basic

/-!
# Reading URLs

A text is cut into scheme, authority, path, query and fragment.  The authority alone decides whether
a URL of a common scheme can be read.
-/

namespace LinkLedger
namespace Url

/-! ## The text -/

/-- Whether a character is dropped from both ends of a URL. -/
def isEdge (c : Char) : Bool := c.toNat ≤ 32

/-- Whether a character is dropped everywhere in a URL. -/
def isLineBreakOrTab (c : Char) : Bool := c = '\t' || c = '\n' || c = '\r'

/-- A text without what URLs ignore. -/
def cleaned (cs : List Char) : List Char :=
  (Text.trimEndBy isEdge (cs.dropWhile isEdge)).filter fun c => !isLineBreakOrTab c

/-- Whether a character may be part of a scheme. -/
def isSchemeChar (c : Char) : Bool := c.isAlphanum || c = '+' || c = '-' || c = '.'

/-- The scheme that a text starts with, in small letters, and the text behind its colon. -/
def splitScheme? (cs : List Char) : Option (List Char × List Char) :=
  if (cs.head?.any Char.isAlpha) = true then
    match cs.dropWhile isSchemeChar with
    | ':' :: rest => some ((cs.takeWhile isSchemeChar).map Char.toLower, rest)
    | _ => none
  else none

/-! ## The authority -/

/-- Whether a character ends the authority. -/
def endsAuthority (common : Bool) (c : Char) : Bool :=
  c = '/' || c = '?' || c = '#' || (common && c = '\\')

/-- The text in front of the last at sign, if there is one, and the text behind it. -/
def splitUser (cs : List Char) : Option (List Char) × List Char :=
  let behind := (cs.reverse.takeWhile (· != '@')).reverse
  if behind.length = cs.length then (none, cs)
  else (some (cs.take (cs.length - behind.length - 1)), behind)

/-- The text in front of the first colon outside of brackets. -/
def hostText (inside : Bool) : List Char → List Char
  | [] => []
  | c :: cs =>
      if c = ':' ∧ inside = false then []
      else c :: hostText (if c = '[' then true else if c = ']' then false else inside) cs

/-- Reads a port behind its colon; gives the rest of the text, which only a backslash can start. -/
def readPort (scheme cs : List Char) : Except ParseFault (Option Nat × List Char) :=
  let digits := cs.takeWhile Char.isDigit
  let rest := cs.drop digits.length
  let n := digits.foldl (fun n c => n * 10 + (c.toNat - 48)) 0
  if 65535 < n then .error .badPort
  else
    match rest with
    | [] => .ok (port digits n, [])
    | '\\' :: _ => .ok (port digits n, rest)
    | _ => .error .badPort
where
  /-- The port, unless the scheme implies it. -/
  port (digits : List Char) (n : Nat) : Option Nat :=
    if digits.isEmpty ∨ defaultPort? scheme = some n then none else some n

/-- Reads an authority; `more` tells whether text follows it.  Gives what is left of it. -/
def readAuthority (scheme cs : List Char) (more : Bool) :
    Except ParseFault (Authority × List Char) :=
  let (user, place) := splitUser cs
  let text := hostText false place
  let behind := place.drop text.length
  if user = some [] ∧ place.isEmpty ∧ more = true then .error .emptyHost
  else if text.isEmpty ∧ (isCommon scheme = true ∨ behind ≠ []) then .error .emptyHost
  else do
    let host ←
      if isCommon scheme then (Host.read text).map some
      else if text.isEmpty then .ok none
      else (Host.readOpaque text).map some
    let (port, rest) ←
      match behind with
      | ':' :: digits => readPort scheme digits
      | _ => .ok (none, [])
    let names := user.getD []
    let name := names.takeWhile (· != ':')
    let authority : Authority :=
      ⟨percentEncode inUser name, percentEncode inUser (names.drop (name.length + 1)), host, port⟩
    if host.isNone && authority.hasUser then .error .emptyHost else .ok (authority, rest)

/-! ## The path -/

/-- The ways to write a dot. -/
def dropDot? (cs : List Char) : Option (List Char) :=
  match cs with
  | '.' :: rest => some rest
  | '%' :: '2' :: 'e' :: rest => some rest
  | '%' :: '2' :: 'E' :: rest => some rest
  | _ => none

/-- Whether a segment means the current one. -/
def isDot (cs : List Char) : Bool := dropDot? cs = some []

/-- Whether a segment means the one above. -/
def isDoubleDot (cs : List Char) : Bool := (dropDot? cs).bind dropDot? = some []

/-- Whether a segment names a drive. -/
def isDrive (cs : List Char) : Bool :=
  match cs with
  | [c, d] => c.isAlpha && (d = ':' || d = '|')
  | _ => false

/-- Goes through segments; `done` are those that stay, last one first. -/
def walkSegments (file : Bool) (done : List (List Char)) : List (List Char) → List (List Char)
  | [] => done
  | s :: rest =>
      if isDoubleDot s then
        let above :=
          match done with
          | [only] => if file && isDrive only then [only] else []
          | _ => done.drop 1
        walkSegments file (if rest.isEmpty then [] :: above else above) rest
      else if isDot s then walkSegments file (if rest.isEmpty then [] :: done else done) rest
      else
        let s :=
          match done, s with
          | [], [c, _] => if file && isDrive s then [c, ':'] else s
          | _, _ => s
        walkSegments file (s :: done) rest

/-- Cuts a path at its slashes, and at backslashes where they mean the same. -/
def segmentsOf (back : Bool) (cs : List Char) : List (List Char) :=
  (if back then cs.map fun c => if c = '\\' then '/' else c else cs).splitOn '/'

/-- The path that starts with some segments and goes on with a text. -/
def joinPath (scheme : List Char) (above : List (List Char)) (cs : List Char) : List Char :=
  let file := isFile scheme
  let back := isCommon scheme || file
  let segments := (segmentsOf back cs).map (percentEncode inPath)
  let all := (walkSegments file above.reverse segments).reverse
  let kept := if file then all.dropWhile List.isEmpty else all
  '/' :: ['/'].intercalate kept

/-- Whether a character ends a path. -/
def endsPath (c : Char) : Bool := c = '?' || c = '#'

/-- The path behind an authority. -/
def pathBehindHost (scheme cs : List Char) : List Char :=
  match cs with
  | [] => if isCommon scheme || isFile scheme then ['/'] else []
  | c :: rest =>
      if c = '/' ∨ ((isCommon scheme || isFile scheme) = true ∧ c = '\\') then
        joinPath scheme [] rest
      else joinPath scheme [] cs

/-! ## Whole URLs -/

/-- The query that a text starts with. -/
def queryOf (special : Bool) (cs : List Char) : List Char :=
  percentEncode (if special then inCommonQuery else inQuery) (Text.before (· == '#') cs)

/-- The fragment that a text ends with, if there is one. -/
def fragmentOf? (cs : List Char) : Option (List Char) :=
  match Text.since (· == '#') cs with
  | _ :: rest => some (percentEncode inFragment rest)
  | [] => none

/-- Adds query and fragment to a URL. -/
def withTail (u : Url) (cs : List Char) : Url :=
  match cs with
  | '?' :: rest =>
      { u with
        query := some (queryOf (isCommon u.scheme || isFile u.scheme) rest)
        fragment := fragmentOf? rest }
  | _ => { u with query := none, fragment := fragmentOf? cs }

/-- Reads the text behind the two slashes of an authority. -/
def readBehindSlashes (scheme cs : List Char) : Except ParseFault Url := do
  let text := Text.before (endsAuthority (isCommon scheme)) cs
  let rest := cs.drop text.length
  let (authority, left) ← readAuthority scheme text (!rest.isEmpty)
  let behind := left ++ rest
  let path := Text.before endsPath behind
  .ok (withTail ⟨scheme, some authority, pathBehindHost scheme path, none, none⟩
    (behind.drop path.length))

/-- The host of a local file. -/
def fileHost (cs : List Char) : Except ParseFault (Option Host) :=
  if cs.isEmpty then .ok none
  else (Host.read cs).map fun h => if h = .name "localhost".toList then none else some h

/-- Reads the URL of a local file behind the colon of its scheme. -/
def readFile (scheme cs : List Char) : Except ParseFault Url := do
  let slash (c : Char) : Bool := c = '/' || c = '\\'
  let make (host : Option Host) (behind : List Char) : Url :=
    let path := Text.before endsPath behind
    withTail ⟨scheme, some ⟨[], [], host, none⟩, pathBehindHost scheme path, none, none⟩
      (behind.drop path.length)
  match cs with
  | a :: b :: rest =>
      if slash a && slash b then
        let text := Text.before (endsAuthority true) rest
        if isDrive text then .ok (make none rest)
        else do
          let host ← fileHost text
          .ok (make host (rest.drop text.length))
      else .ok (make none cs)
  | _ => .ok (make none cs)

/-- Reads a URL behind the colon of a scheme that is not one of the common ones. -/
def readOther (scheme cs : List Char) : Except ParseFault Url :=
  match cs with
  | '/' :: '/' :: rest => readBehindSlashes scheme rest
  | _ =>
      let path := Text.before endsPath cs
      let written :=
        match path with
        | '/' :: rest => joinPath scheme [] rest
        | _ => percentEncode isControl path
      .ok (withTail ⟨scheme, none, written, none, none⟩ (cs.drop path.length))

/-- Reads the text behind a scheme. -/
def readBehindScheme (scheme cs : List Char) : Except ParseFault Url :=
  if isCommon scheme then
    readBehindSlashes scheme (cs.dropWhile fun c => c = '/' || c = '\\')
  else if isFile scheme then readFile scheme cs
  else readOther scheme cs

/-- Reads a URL. -/
def parse (cs : List Char) : Except ParseFault Url :=
  match splitScheme? (cleaned cs) with
  | some (scheme, rest) => readBehindScheme scheme rest
  | none => .error .relativeWithoutBase

/-! ## References -/

/-- The segments of a path above its last one. -/
def directory (path : List Char) : List (List Char) :=
  ((path.drop 1).splitOn '/').dropLast

/-- Reads a reference without a scheme of its own, relative to a URL of a common scheme. -/
def readRelative (base : Url) (cs : List Char) : Except ParseFault Url :=
  let slash (c : Char) : Bool := c = '/' || c = '\\'
  match cs with
  | [] => .ok { base with fragment := none }
  | '?' :: _ => .ok (withTail base cs)
  | '#' :: rest => .ok { base with fragment := some (percentEncode inFragment rest) }
  | c :: rest =>
      if slash c then
        if (rest.head?.any slash) = true then
          readBehindSlashes base.scheme
            (if "//".toList.isPrefixOf cs then cs.drop 2 else cs.dropWhile slash)
        else
          let path := Text.before endsPath rest
          .ok (withTail { base with path := joinPath base.scheme [] path }
            (rest.drop path.length))
      else
        let path := Text.before endsPath cs
        .ok (withTail { base with path := joinPath base.scheme (directory base.path) path }
          (cs.drop path.length))

/-- Reads a URL that may be given relative to one of a common scheme. -/
def join (base : Url) (cs : List Char) : Except ParseFault Url :=
  let cs := cleaned cs
  match splitScheme? cs with
  | some (scheme, rest) =>
      if scheme = base.scheme ∧ (rest.takeWhile fun c => c = '/' || c = '\\').length < 2 then
        readRelative base rest
      else readBehindScheme scheme rest
  | none => if base.hasOpaquePath then .error .relativeWithOpaqueBase else readRelative base cs

/-! ## Origins -/

/-- Where a URL of a common scheme belongs. -/
structure Origin where
  scheme : List Char
  host : Host
  port : Nat
  deriving DecidableEq, Repr

/-- The origin of a URL of a common scheme. -/
def ownOrigin? (u : Url) : Option Origin := do
  let implied ← defaultPort? u.scheme
  let a ← u.authority
  let host ← a.host
  some ⟨u.scheme, host, a.port.getD implied⟩

/-- The origin of a URL, if it has one that others can share; a URL of the scheme `blob` has that of
the URL in its path.  `fuel` bounds their nesting. -/
def originWithin? : Nat → Url → Option Origin
  | 0, _ => none
  | fuel + 1, u =>
      if u.scheme = "blob".toList then
        match parse u.path with
        | .ok inner => inner.originWithin? fuel
        | .error _ => none
      else u.ownOrigin?

/-- The origin of a URL, if it has one that others can share. -/
def origin? (u : Url) : Option Origin := u.originWithin? (u.path.length + 1)

end Url
end LinkLedger
