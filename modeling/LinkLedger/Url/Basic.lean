import LinkLedger.Url.Host

/-!
# URLs

A URL in its normal form: every part is encoded, and a port that the scheme implies is left out.
-/

namespace LinkLedger

/-- Who and where: user and password, empty if not given, the host, and the port. -/
structure Url.Authority where
  user : List Char
  password : List Char
  host : Option Url.Host
  port : Option Nat
  deriving DecidableEq, Repr

/-- A URL. -/
structure Url where
  scheme : List Char
  authority : Option Url.Authority
  path : List Char
  query : Option (List Char)
  fragment : Option (List Char)
  deriving DecidableEq, Repr

namespace Url

/-! ## Schemes -/

/-- The common schemes with their ports. -/
def commonSchemes : List (List Char × Nat) :=
  [("http".toList, 80), ("https".toList, 443), ("ws".toList, 80), ("wss".toList, 443),
    ("ftp".toList, 21)]

/-- The port that a scheme implies. -/
def defaultPort? (scheme : List Char) : Option Nat := commonSchemes.lookup scheme

/-- Whether a scheme is one of the common ones, whose URLs always have a host. -/
def isCommon (scheme : List Char) : Bool := (defaultPort? scheme).isSome

/-- Whether a scheme is that of local files. -/
def isFile (scheme : List Char) : Bool := scheme = "file".toList

/-- Whether a scheme is that of the web. -/
def isWeb (scheme : List Char) : Bool := scheme = "http".toList || scheme = "https".toList

namespace Authority

/-- Whether a user or a password is given. -/
def hasUser (a : Authority) : Bool := !a.user.isEmpty || !a.password.isEmpty

/-- User and password as they are written. -/
def writeUser (a : Authority) : List Char :=
  if a.hasUser then
    a.user ++ (if a.password.isEmpty then [] else ':' :: a.password) ++ ['@']
  else []

/-- Host and port as they are written. -/
def writeHost (a : Authority) : List Char :=
  ((a.host.map Host.write).getD []) ++
    match a.port with
    | some n => ':' :: Decimal.digitsOf n
    | none => []

end Authority

/-- Whether the path is a text of its own that nothing can be resolved against. -/
def hasOpaquePath (u : Url) : Bool := u.authority.isNone && u.path.head? != some '/'

/-- What stands in front of the path. -/
def writeFront (u : Url) : List Char :=
  u.scheme ++ ':' ::
    match u.authority with
    | some a => "//".toList ++ a.writeUser ++ a.writeHost
    | none => if "//".toList.isPrefixOf u.path then "/.".toList else []

/-- A part behind a mark, if there is one. -/
def writePart (mark : Char) : Option (List Char) → List Char
  | some part => mark :: part
  | none => []

/-- A URL as it is written. -/
def write (u : Url) : List Char :=
  u.writeFront ++ u.path ++ writePart '?' u.query ++ writePart '#' u.fragment

/-- A URL as it is written. -/
def display (u : Url) : String := String.ofList u.write

end Url
end LinkLedger
