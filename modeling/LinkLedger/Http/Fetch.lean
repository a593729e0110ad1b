import LinkLedger.Check.Result
import LinkLedger.Http.Exchange
import LinkLedger.Text.Search

/-!
# Fetching links

A link is asked for by its header first, and in full if the header is not to be had.  The end of the
requests says what becomes of the link.
-/

namespace LinkLedger
namespace Http

/-- The statuses that say that a header is not to be had alone. -/
def wantsWhole (status : Nat) : Bool := status = 405 || status = 501

/-- Asks for the header of a URL, and for all of it if the header is not to be had. -/
def headThenGet (transport : Transport) (policy : Policy) (u : Url) : List String × Ending :=
  let (lines, ending) := send transport policy .head u
  match ending with
  | .response _ status _ =>
      if wantsWhole status then
        let (more, last) := send transport policy .get u
        (lines ++ more, last)
      else (lines, ending)
  | _ => (lines, ending)

/-- Whether a response came from another URL than the one that the link stands for. -/
def landedElsewhere (link : String) (last : Url) : Bool :=
  match Url.parse (Text.replaceChar ' ' "%20".toList link.toList) with
  | .ok u => u.write != last.write
  | .error _ => link.toList != last.write

/-- Whether a location can be shown as it is. -/
def isShown (location : String) : Bool :=
  location.toList.all fun c => c = '\t' || (32 ≤ c.toNat && c.toNat < 127)

/-- The target that a response is reported with. -/
def shownTarget (location : Option String) : String :=
  match location with
  | some text => if isShown text then text else "unknown"
  | none => "unknown"

/-- What a response says of a link. -/
def ofResponse (link : String) (last : Url) (status : Nat) (location : Option String) :
    LinkStatus × String :=
  let plain := s!"HTTP {status}"
  if 200 ≤ status ∧ status < 300 then
    if landedElsewhere link last then
      (.redirect last.display, plain ++ " after redirect to " ++ last.display)
    else (.ok, plain)
  else if 300 ≤ status ∧ status < 400 then
    (.redirect (shownTarget location), plain ++ " -> " ++ shownTarget location)
  else if status = 404 ∨ status = 410 then (.broken, plain)
  else (.error, plain)

/-- What a fault says of a link.  Faults with host names and certificates are told by words in the
text of the fault. -/
def ofFault (fault : SendFault) : LinkStatus × String :=
  match fault with
  | .tooManyRedirects => (.tooManyRedirects, "Too many redirects")
  | .refused _ =>
      if Text.contains fault.message "dns" then (.dnsError, "Could not resolve hostname")
      else (.error, "Connection failed")
  | _ =>
      if Text.contains fault.message "certificate" || Text.contains fault.message "ssl" then
        (.sslError, "SSL certificate error")
      else (.error, fault.message)

/-- The result of a link whose requests took too long. -/
def timedOut (link : String) : CheckResult := ⟨link, .timeout, none, some "Request timed out"⟩

/-- The result of a link whose requests have come to an end. -/
def resultOf (link : String) (ending : Ending) : CheckResult :=
  match ending with
  | .response last status location =>
      let (found, text) := ofResponse link last status location
      ⟨link, found, some status, some text⟩
  | .failed fault =>
      let (found, text) := ofFault fault
      ⟨link, found, none, some text⟩
  | .silent => timedOut link

/-- Whether a request waits for its answer; a connection is refused at once. -/
def takesTime (transport : Transport) (line : String) : Bool := transport line != .refused

/-- Fetches a link within some milliseconds, which suffice for all answers that come at all unless
there are none; gives the result and the lines of the requests. -/
def fetch (transport : Transport) (policy : Policy) (link : String) (timeout : Nat) :
    CheckResult × List String :=
  match Url.parse link.toList with
  | .error fault => (resultOf link (.failed (.unreadable fault)), [])
  | .ok u =>
      let (lines, ending) := headThenGet transport policy u
      if timeout = 0 ∧ lines.any (takesTime transport) = true then (timedOut link, [])
      else (resultOf link ending, lines)

end Http
end LinkLedger
