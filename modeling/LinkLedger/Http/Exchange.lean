import LinkLedger.Url.Parse

/-!
# Requests and answers

A client asks for a URL and follows the redirects of the answers.  What answers a request is not a
matter of the client: it is given as a function of the request line.
-/

namespace LinkLedger
namespace Http

open Url (ParseFault)

/-- How a URL is asked for: its header only, or all of it. -/
inductive Method where
  | head
  | get
  deriving DecidableEq, Repr

/-- The name of a method on the request line. -/
def Method.name : Method → String
  | .head => "HEAD"
  | .get => "GET"

/-- What becomes of a request: a response with its status and the address it points to, the
connection closed without one, silence for ever, or no connection at all. -/
inductive Answer where
  | response (status : Nat) (location : Option String)
  | closed
  | silent
  | refused
  deriving DecidableEq, Repr

/-- What answers the requests, by their lines. -/
abbrev Transport := String → Answer

/-- The transport that no request reaches anything over. -/
def unreachable : Transport := fun _ => .refused

/-- The transport that answers by the first rule for a request, and with 404 if there is none. -/
def scripted (rules : List (String × Answer)) : Transport := fun line =>
  (rules.lookup line).getD (.response 404 none)

/-- Why a request has no answer. -/
inductive SendFault where
  | unreadable (fault : ParseFault)
  | scheme (url : Url)
  | closed (url : Url)
  | badStatus (url : Url)
  | refused (url : Url)
  | tooManyRedirects
  deriving DecidableEq, Repr

/-- The wording of a fault. -/
def SendFault.message : SendFault → String
  | .unreadable fault => "builder error: " ++ fault.message
  | .scheme u => "builder error for url (" ++ u.display ++ "): URL scheme is not allowed"
  | .closed u => sending u "connection closed before message completed"
  | .badStatus u => sending u "invalid HTTP status-code parsed"
  | .refused u => sending u "error trying to connect"
  | .tooManyRedirects => "error following redirect: too many redirects"
where
  /-- The wording of a fault of a request. -/
  sending (u : Url) (reason : String) : String :=
    "error sending request for url (" ++ u.display ++ "): " ++ reason

/-- How a chain of requests ends: with a response from a URL, with a fault, or never. -/
inductive Ending where
  | response (url : Url) (status : Nat) (location : Option String)
  | failed (fault : SendFault)
  | silent
  deriving DecidableEq, Repr

/-- The statuses whose redirects are followed. -/
def isFollowed (status : Nat) : Bool := [301, 302, 303, 307, 308].contains status

/-- A URL without fragment and user, as requests name it. -/
def bare (u : Url) : Url :=
  { u with
    authority := u.authority.map fun a => { a with user := [], password := [] }
    fragment := none }

/-- Whether the requests for a URL go through an encrypted connection. -/
def isEncrypted (u : Url) : Bool := u.scheme = "https".toList

/-- The host and the port that a URL is asked from. -/
def endpoint (u : Url) : List Char :=
  match u.authority with
  | some a =>
      (a.host.map Url.Host.write).getD [] ++
        ':' :: Decimal.digitsOf (a.port.getD ((Url.defaultPort? u.scheme).getD 0))
  | none => []

/-- The line of the request for a URL; for an encrypted connection it only asks for that. -/
def requestLine (method : Method) (u : Url) : String :=
  if isEncrypted u then "CONNECT " ++ String.ofList (endpoint u)
  else method.name ++ " " ++ (bare u).display

/-- Whether a URL can be asked for. -/
def canAsk (u : Url) : Bool :=
  Url.isWeb u.scheme && (u.authority.bind (·.host)).isSome

/-- Where a response leads on to. -/
def target? (u : Url) (status : Nat) (location : Option String) : Option Url :=
  if isFollowed status then
    match location with
    | some text =>
        match Url.join u text.toList with
        | .ok next => some next
        | .error _ => none
    | none => none
  else none

/-- What one request for a URL comes to. -/
def ask (transport : Transport) (method : Method) (u : Url) : Ending :=
  match transport (requestLine method u) with
  | .silent => .silent
  | .refused => .failed (.refused u)
  | .closed => .failed (if isEncrypted u then .refused u else .closed u)
  | .response status location =>
      if isEncrypted u then .failed (.refused u)
      else if status < 100 then .failed (.badStatus u)
      else .response u status location

/-- Asks for a URL and, up to `more` times, for what the response leads on to.  Gives the lines of
the requests and the end. -/
def follow (transport : Transport) (method : Method) : (more : Nat) → Url → List String × Ending
  | 0, u =>
      if canAsk u then
        let ending := ask transport method u
        match ending with
        | .response _ status location =>
            ([requestLine method u],
              if (target? u status location).isSome then .failed .tooManyRedirects else ending)
        | _ => ([requestLine method u], ending)
      else ([], .failed (.scheme u))
  | more + 1, u =>
      if canAsk u then
        let ending := ask transport method u
        match ending with
        | .response _ status location =>
            match target? u status location with
            | some next =>
                let (lines, last) := follow transport method more next
                (requestLine method u :: lines, last)
            | none => ([requestLine method u], ending)
        | _ => ([requestLine method u], ending)
      else ([], .failed (.scheme u))

/-- What a client does with redirects: it follows them up to a number of requests, or not at
all. -/
inductive Policy where
  | limited (requests : Nat)
  | never
  deriving DecidableEq, Repr

/-- The limit that link checks set to redirects.  The client counts the requests, so it follows one
redirect fewer. -/
def maxRedirects : Nat := 5

/-- The policy of link checks. -/
def Policy.standard : Policy := .limited maxRedirects

/-- Asks for a URL; user and password do not stay in it if they can be told apart from it. -/
def send (transport : Transport) (policy : Policy) (method : Method) (u : Url) :
    List String × Ending :=
  let u := withoutUser u
  match policy with
  | .limited requests => follow transport method (requests - 1) u
  | .never =>
      if canAsk u then ([requestLine method u], ask transport method u)
      else ([], .failed (.scheme u))
where
  /-- Whether a user or a password is a text once its octets are read. -/
  isText (part : List Char) : Bool := (Text.decodeOctets (Url.percentDecode part)).isOk
  /-- A URL without user and password, if the user is a text and, where there is no user, the
  password is one. -/
  withoutUser (u : Url) : Url :=
    match u.authority with
    | some a =>
        if isText a.user && (!a.user.isEmpty || isText a.password) then
          { u with authority := some { a with user := [], password := [] } }
        else u
    | none => u

end Http
end LinkLedger
