import LinkLedger.Content.Document
import LinkLedger.Record.Basic

/-!
# Link records as documents

The status of a link is an object whose entry `status` names it; the target of a redirect stands
beside it.
-/

namespace LinkLedger

open Json

namespace LinkStatus

/-- The names of the statuses in documents; `redirect` is listed with an empty target. -/
def byName : List (String × LinkStatus) :=
  [("ok", .ok), ("redirect", .redirect ""), ("broken", .broken), ("timeout", .timeout),
    ("ssl_error", .sslError), ("too_many_redirects", .tooManyRedirects),
    ("dns_error", .dnsError), ("error", .error)]

/-- The name of a status in documents. -/
def name : LinkStatus → String
  | .ok => "ok"
  | .redirect _ => "redirect"
  | .broken => "broken"
  | .timeout => "timeout"
  | .sslError => "ssl_error"
  | .tooManyRedirects => "too_many_redirects"
  | .dnsError => "dns_error"
  | .error => "error"

/-- The entries of a status in an object. -/
def toEntries : LinkStatus → List (String × Json)
  | .redirect target => [("status", .text "redirect"), ("target", .text target)]
  | s => [("status", .text s.name)]

/-- A status as a document. -/
def toJson (s : LinkStatus) : Json := .fields s.toEntries

/-- Reads the name of a status; a document read before may also give its number. -/
def decodeName : Source → Decoder LinkStatus
  | _, .text s => choose byName s
  | .document, .number n =>
      match n.quantity? with
      | some (.natural k) =>
          match byName[k]? with
          | some (_, s) => .ok s
          | none =>
              .error (.shape (.wrongValue (.number (.natural k)) "variant index 0 <= i < 8"))
      | _ => mismatch "variant identifier" (.number n)
  | _, r => mismatch "variant identifier" r

/-- The target among the entries beside the name of a status. -/
def targetOf : Option String → List (Label × Reading) → Except DecodeError String
  | some t, [] => .ok t
  | none, [] => .error (.shape (.missingField "target"))
  | seen, (label, r) :: rest =>
      if label = .text "target" then
        if seen.isSome then .error (.shape (.duplicateField "target"))
        else do
          let t ← decodeText r
          targetOf (some t) rest
      else targetOf seen rest

/-- Completes a status by the entries beside its name. -/
def complete (s : LinkStatus) (entries : List (Label × Reading)) :
    Except DecodeError LinkStatus :=
  match s with
  | .redirect _ => (targetOf none entries).map .redirect
  | s => .ok s

/-- Reads the entries of an object for the name of the status; the others are kept, whole, in their
order.  `depth` bounds their nesting. -/
def splitEntries (source : Source) (depth : Nat) :
    Option LinkStatus → List (Label × Reading) → Stop →
      Except DecodeError (LinkStatus × List (Label × Reading))
  | some s, [], stop => do
      stop.check
      .ok (s, [])
  | none, [], stop => do
      stop.check
      .error (.shape (.missingField "status"))
  | seen, (.text name, r) :: rest, stop =>
      if name = "status" then
        if seen.isSome then .error (.shape (.duplicateField "status"))
        else do
          let s ← decodeName source r
          splitEntries source depth (some s) rest stop
      else do
        takeWholeValue depth r
        let (s, others) ← splitEntries source depth seen rest stop
        .ok (s, (.text name, r) :: others)
  | _, _ :: _, _ => .error (.text .malformed)

/-- The number of items that a list may have, in words. -/
def itemCount (n : Nat) : String :=
  s!"{n} element" ++ (if n = 1 then "" else "s") ++ " in sequence"

/-- Reads a status given as a list: its name, then the target of a redirect. -/
def decodeItems (depth : Nat) (items : List Reading) (stop : Stop) :
    Except DecodeError LinkStatus :=
  match items with
  | [] => do
      stop.check
      .error (.shape (.missingField "status"))
  | r :: rest => do
      let s ← decodeName .text r
      takeItems depth rest
      stop.check
      match s, rest with
      | .redirect _, [] =>
          .error (.shape (.wrongLength 0 "struct variant LinkStatus::Redirect with 1 element"))
      | .redirect _, t :: more => do
          let target ← decodeText t
          if more.isEmpty then .ok (.redirect target)
          else .error (.shape (.wrongLength (more.length + 1) (itemCount 1)))
      | s, [] => .ok s
      | _, more => .error (.shape (.wrongLength more.length (itemCount 0)))

/-- Reads a status at a depth below the allowed nesting. -/
def decode (depth : Nat) : Decoder LinkStatus
  | .fields entries stop => do
      let (s, others) ← splitEntries .text depth none entries stop
      s.complete others
  | .list items stop => decodeItems depth items stop
  | r => mismatch "internally tagged enum LinkStatus" r

end LinkStatus

/-- One more than the number of lists and objects that may be nested in a document. -/
def nestingLimit : Nat := 128

/-- A record under construction. -/
structure LinkRecord.Draft where
  id : Option Nat
  url : Option String
  owner : Option Owner
  field : Option String
  language : Option String
  status : Option LinkStatus
  failCount : Option Nat
  lastChecked : Option Timestamp

/-- Reads a point in time. -/
def Timestamp.decode : Decoder Timestamp
  | .text s =>
      match Timestamp.read s.toList with
      | .ok t => .ok t
      | .error fault => .error (.shape (.refused fault.message))
  | r => mismatch "an RFC 3339 formatted date and time string" r

/-- The largest count of failed checks. -/
def maxFailCount : Nat := 0xFFFFFFFF

/-- The fields of a record document. -/
def LinkRecord.shape (source : Source) : Shape LinkRecord.Draft where
  title := "struct LinkRecord"
  names :=
    ["id", "url", "parent", "entity_field", "entity_langcode", "status", "fail_count",
      "last_checked"]
  step name r d :=
    match name with
    | "id" => (decodeOption (decodeNat "u64" maxNatural) r).map fun n => { d with id := n }
    | "url" => (decodeText r).map fun s => { d with url := some s }
    | "parent" => (Owner.decode source r).map fun o => { d with owner := some o }
    | "entity_field" => (decodeText r).map fun s => { d with field := some s }
    | "entity_langcode" => (decodeText r).map fun s => { d with language := some s }
    | "status" =>
        (decodeOption (LinkStatus.decode (nestingLimit - 2)) r).map
          fun s => { d with status := s }
    | "fail_count" =>
        (decodeNat "u32" maxFailCount r).map fun n => { d with failCount := some n }
    | "last_checked" =>
        (decodeOption Timestamp.decode r).map fun t => { d with lastChecked := t }
    | _ => .ok d
  partialList := false

/-- Reads a record. -/
def LinkRecord.decode (source : Source) : Decoder LinkRecord := fun r => do
  let d ← (LinkRecord.shape source).decode source
    ⟨none, none, none, none, none, none, none, none⟩ r
  let url ← required "url" d.url
  let owner ← required "parent" d.owner
  let field ← required "entity_field" d.field
  let language ← required "entity_langcode" d.language
  let failCount ← required "fail_count" d.failCount
  .ok ⟨d.id, url, owner, field, language, d.status, failCount, d.lastChecked⟩

/-- A number, or `null`. -/
def natOrNull : Option Nat → Json
  | none => .null
  | some n => .nat n

/-- An entry of an object that is left out when there is no value. -/
def optionalEntry {α : Type} (name : String) (toJson : α → Json) :
    Option α → List (String × Json)
  | none => []
  | some a => [(name, toJson a)]

/-- A record as a document. -/
def LinkRecord.toJson (r : LinkRecord) : Json :=
  .fields
    ([("id", natOrNull r.id), ("url", .text r.url), ("parent", r.owner.toJson),
        ("entity_field", .text r.field), ("entity_langcode", .text r.language)] ++
      optionalEntry "status" LinkStatus.toJson r.status ++
      [("fail_count", .nat r.failCount)] ++
      optionalEntry "last_checked" (fun t => .text (String.ofList t.write)) r.lastChecked)

end LinkLedger
