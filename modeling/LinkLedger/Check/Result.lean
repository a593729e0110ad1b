import LinkLedger.Record.Document

/-!
# Results of checks

What a check of one link found, and its document: the entries of the status stand beside the others.
-/

namespace LinkLedger

open Json

/-- What a check of a link found: the status, the code of the last answer, if one came, and a
text. -/
structure CheckResult where
  url : String
  status : LinkStatus
  code : Option Nat
  message : Option String
  deriving DecidableEq, Repr

namespace CheckResult

/-- Whether the link leads somewhere. -/
def isOk (r : CheckResult) : Bool := r.status.isOk

/-- A result as a document. -/
def toJson (r : CheckResult) : Json :=
  .fields
    (("url", .text r.url) :: r.status.toEntries ++ optionalEntry "code" Json.nat r.code ++
      optionalEntry "message" Json.text r.message)

/-- A result under construction; `others` are the entries beside the known ones, last one first. -/
structure Draft where
  url : Option String
  code : Option (Option Nat)
  message : Option (Option String)
  others : List (Label × Reading)

/-- The largest code. -/
def maxCode : Nat := 0xFFFF

/-- Takes in one entry of an object. -/
def takeEntry (name : String) (r : Reading) (d : Draft) : Except DecodeError Draft :=
  let once {α : Type} (seen : Option α) (next : Except DecodeError Draft) :
      Except DecodeError Draft :=
    if seen.isSome then .error (.shape (.duplicateField name)) else next
  match name with
  | "url" => once d.url ((decodeText r).map fun s => { d with url := some s })
  | "code" =>
      once d.code
        ((decodeOption (decodeNat "u16" maxCode) r).map fun n => { d with code := some n })
  | "message" =>
      once d.message ((decodeOption decodeText r).map fun s => { d with message := some s })
  | _ => do
      takeWholeValue (nestingLimit - 1) r
      .ok { d with others := (.text name, r) :: d.others }

/-- Takes in the entries of an object. -/
def takeEntries : List (Label × Reading) → Draft → Except DecodeError Draft
  | [], d => .ok d
  | (.text name, r) :: rest, d => do takeEntries rest (← takeEntry name r d)
  | _ :: _, _ => .error (.text .malformed)

/-- Reads a result. -/
def decode : Decoder CheckResult
  | .fields entries stop => do
      let d ← takeEntries entries ⟨none, none, none, []⟩
      stop.check
      let url ← required "url" d.url
      let (status, others) ←
        LinkStatus.splitEntries .document nestingLimit none d.others.reverse .closed
      let status ← status.complete others
      .ok ⟨url, status, d.code.getD none, d.message.getD none⟩
  | r => mismatch "struct LinkCheckResult" r

end CheckResult
end LinkLedger
