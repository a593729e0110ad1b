import LinkLedger.Json.Quantity
import LinkLedger.Json.Reader
import LinkLedger.Text.Visible

/-!
# From a reading to a value

A decoder walks a reading in the order of the text and yields a value or the first thing that is
wrong: a value of the wrong shape, or a fault of the text.  Records are decoded by a `Shape`, which
names their fields and says how one field changes the value under construction; they may be given
as an object, in any order of the fields and with other entries between them, or as a list of the
fields in their order.
-/

namespace LinkLedger
namespace Json

/-! ## What can be wrong -/

/-- What stands where something else was expected. -/
inductive Found where
  | null
  | bool (b : Bool)
  | number (q : Quantity)
  | text (s : String)
  | sequence
  | map

/-- The wording of what was found. -/
def Found.describe : Found → String
  | .null => "null"
  | .bool true => "boolean \x60true\x60"
  | .bool false => "boolean \x60false\x60"
  | .number (.float x) => "floating point \x60" ++ String.ofList (Decimal.writeFloat x) ++ "\x60"
  | .number q => "integer \x60" ++ String.ofList q.write ++ "\x60"
  | .text s => "string " ++ String.ofList (Text.showQuoted s.toList)
  | .sequence => "sequence"
  | .map => "map"

/-- Ways in which a well-formed document is not of the wanted shape. -/
inductive ShapeFault where
  | wrongType (found : Found) (expected : String)
  | wrongValue (found : Found) (expected : String)
  | wrongLength (length : Nat) (expected : String)
  | missingField (name : String)
  | duplicateField (name : String)
  | unknownVariant (name : String) (known : List String)
  | refused (reason : String)

/-- A name between grave accents. -/
def named (name : String) : String :=
  "\x60" ++ name ++ "\x60"

/-- The wording of a choice between names. -/
def oneOf : List String → String
  | [] => "nothing"
  | [a] => named a
  | [a, b] => named a ++ " or " ++ named b
  | names => "one of " ++ ", ".intercalate (names.map named)

/-- The wording of a fault of shape. -/
def ShapeFault.message : ShapeFault → String
  | .wrongType found expected => s!"invalid type: {found.describe}, expected {expected}"
  | .wrongValue found expected => s!"invalid value: {found.describe}, expected {expected}"
  | .wrongLength length expected => s!"invalid length {length}, expected {expected}"
  | .missingField name => "missing field " ++ named name
  | .duplicateField name => "duplicate field " ++ named name
  | .unknownVariant name known => "unknown variant " ++ named name ++ ", expected " ++ oneOf known
  | .refused reason => reason

/-- Why a text gives no value: its shape, or the text itself. -/
inductive DecodeError where
  | shape (fault : ShapeFault)
  | text (fault : Fault)

/-- A decoder makes a value of a reading. -/
abbrev Decoder (α : Type) := Reading → Except DecodeError α

/-- Where a document comes from: a text that is being read, or a document read before. -/
inductive Source where
  | text
  | document
  deriving DecidableEq, Repr

/-! ## Skipping and classifying -/

/-- Refuses at the end of a list or object that is wanted and ends at a fault. -/
def Stop.check : Stop → Except DecodeError Unit
  | .closed => .ok ()
  | .broken wanted _ => .error (.text wanted)
  | .brokenAfterComma wanted _ => .error (.text wanted)

/-- Refuses at the end of a list or object that is skipped and ends at a fault. -/
def Stop.checkSkipped : Stop → Except DecodeError Unit
  | .closed => .ok ()
  | .broken _ skipped => .error (.text skipped)
  | .brokenAfterComma _ skipped => .error (.text skipped)

/-- Refuses behind the last wanted item of a list unless the list is closed there. -/
def Stop.checkFull : Stop → Except DecodeError Unit
  | .closed => .ok ()
  | .broken wanted _ => .error (.text wanted)
  | .brokenAfterComma _ _ => .error (.text .malformed)

mutual

/-- Skips a value of no interest; only faults of the text count. -/
def skip : Decoder Unit
  | .list items stop => do skipItems items; stop.checkSkipped
  | .fields entries stop => do skipEntries entries; stop.checkSkipped
  | .broken _ skipped => .error (.text skipped)
  | .brokenWord _ skipped => .error (.text skipped)
  | _ => .ok ()

/-- Skips the items of a list. -/
def skipItems : List Reading → Except DecodeError Unit
  | [] => .ok ()
  | r :: rs => do skip r; skipItems rs

/-- Skips the entries of an object. -/
def skipEntries : List (Label × Reading) → Except DecodeError Unit
  | [] => .ok ()
  | (.absent, _) :: _ => .error (.text .malformed)
  | (_, r) :: rest => do skip r; skipEntries rest

end

mutual

/-- Takes a value in as a whole before its parts are looked at.  `depth` is one more than the
number of lists and objects that may still be nested in each other. -/
def takeWholeValue : Nat → Decoder Unit
  | _, .number n => if n.quantity?.isSome then .ok () else .error (.text .malformed)
  | _, .unpaired => .error (.text .malformed)
  | depth + 2, .list items stop => do takeItems (depth + 1) items; stop.check
  | depth + 2, .fields entries stop => do takeEntries (depth + 1) entries; stop.check
  | _, .list _ _ => .error (.text .malformed)
  | _, .fields _ _ => .error (.text .malformed)
  | _, .broken wanted _ => .error (.text wanted)
  | _, .brokenWord wanted _ => .error (.text wanted)
  | _, _ => .ok ()

/-- Takes in the items of a list. -/
def takeItems (depth : Nat) : List Reading → Except DecodeError Unit
  | [] => .ok ()
  | r :: rs => do takeWholeValue depth r; takeItems depth rs

/-- Takes in the entries of an object. -/
def takeEntries (depth : Nat) : List (Label × Reading) → Except DecodeError Unit
  | [] => .ok ()
  | (.text _, r) :: rest => do takeWholeValue depth r; takeEntries depth rest
  | _ :: _ => .error (.text .malformed)

end

/-- What a reading is, for a message about its type. -/
def found : Decoder Found
  | .null => .ok .null
  | .bool b => .ok (.bool b)
  | .number n =>
      match n.quantity? with
      | some q => .ok (.number q)
      | none => .error (.text .malformed)
  | .text s => .ok (.text s)
  | .unpaired => .error (.text .malformed)
  | .list _ _ => .ok .sequence
  | .fields _ _ => .ok .map
  | .broken wanted _ => .error (.text wanted)
  | .brokenWord wanted _ => .error (.text wanted)

/-- Refuses a reading for its type. -/
def mismatch {α : Type} (expected : String) : Decoder α := fun r => do
  let f ← found r
  .error (.shape (.wrongType f expected))

/-! ## Scalars, options, lists and tables -/

/-- A text. -/
def decodeText : Decoder String
  | .text s => .ok s
  | r => mismatch "a string" r

/-- A truth value. -/
def decodeBool : Decoder Bool
  | .bool b => .ok b
  | r => mismatch "a boolean" r

/-- A natural number up to `bound`; `type` names the range in messages. -/
def decodeNat (type : String) (bound : Nat) : Decoder Nat
  | .number n =>
      match n.quantity? with
      | none => .error (.text .malformed)
      | some (.natural k) =>
          if k ≤ bound then .ok k
          else .error (.shape (.wrongValue (.number (.natural k)) type))
      | some (.negative k) => .error (.shape (.wrongValue (.number (.negative k)) type))
      | some (.float x) => .error (.shape (.wrongType (.number (.float x)) type))
  | r => mismatch type r

/-- A value or `null`. -/
def decodeOption {α : Type} (d : Decoder α) : Decoder (Option α)
  | .null => .ok none
  | r => (d r).map some

/-- The items of a list, one after the other. -/
def decodeItems {α : Type} (d : Decoder α) : List Reading → Except DecodeError (List α)
  | [] => .ok []
  | r :: rs => do
      let a ← d r
      let as ← decodeItems d rs
      .ok (a :: as)

/-- A list. -/
def decodeList {α : Type} (d : Decoder α) : Decoder (List α)
  | .list items stop => do
      let as ← decodeItems d items
      stop.check
      .ok as
  | r => mismatch "a sequence" r

/-- The entries of an object with texts as names, one after the other. -/
def decodeNamed {α : Type} (d : Decoder α) :
    List (Label × Reading) → Except DecodeError (List (String × α))
  | [] => .ok []
  | (.text name, r) :: rest => do
      let a ← d r
      let as ← decodeNamed d rest
      .ok ((name, a) :: as)
  | _ :: _ => .error (.text .malformed)

/-- An object as a list of names and values, in its order. -/
def decodeTable {α : Type} (d : Decoder α) : Decoder (List (String × α))
  | .fields entries stop => do
      let as ← decodeNamed d entries
      stop.check
      .ok as
  | r => mismatch "a map" r

/-! ## Records -/

/-- A record type as documents give it: its title in messages, its field names in order, how the
reading of a field changes the value under construction, and whether a list may leave out the last
fields. -/
structure Shape (σ : Type) where
  title : String
  names : List String
  step : String → Reading → σ → Except DecodeError σ
  partialList : Bool

/-- The entries of an object, in their order.  A name of the record may occur once; other names are
skipped with their values. -/
def Shape.entries {σ : Type} (shape : Shape σ) :
    List String → List (Label × Reading) → σ → Except DecodeError σ
  | _, [], s => .ok s
  | seen, (.text name, r) :: rest, s =>
      if name ∈ shape.names then
        if name ∈ seen then .error (.shape (.duplicateField name))
        else do
          let s' ← shape.step name r s
          shape.entries (name :: seen) rest s'
      else do
        skip r
        shape.entries seen rest s
  | _, _ :: _, _ => .error (.text .malformed)

/-- The number of fields of a record in words. -/
def Shape.expectedLength {σ : Type} (shape : Shape σ) : String :=
  let n := shape.names.length
  s!"{shape.title} with {n} element" ++ if n = 1 then "" else "s"

/-- The items of a list as the fields of a record; `count` of them have been read, of `total`. -/
def Shape.items {σ : Type} (shape : Shape σ) (source : Source) (total : Nat) (stop : Stop) :
    Nat → List String → List Reading → σ → Except DecodeError σ
  | _, [], [], s => do
      stop.checkFull
      .ok s
  | _, [], _ :: _, _ =>
      match source with
      | .text => .error (.text .malformed)
      | .document => .error (.shape (.wrongLength total "fewer elements in array"))
  | count, _ :: _, [], s => do
      stop.check
      if shape.partialList then .ok s
      else .error (.shape (.wrongLength count shape.expectedLength))
  | count, name :: names, r :: rs, s => do
      let s' ← shape.step name r s
      shape.items source total stop (count + 1) names rs s'

/-- A record, starting from the value `s`. -/
def Shape.decode {σ : Type} (shape : Shape σ) (source : Source) (s : σ) : Decoder σ
  | .fields entries stop => do
      let s' ← shape.entries [] entries s
      stop.check
      .ok s'
  | .list items stop => shape.items source items.length stop 0 shape.names items s
  | r => mismatch shape.title r

/-- The value of a field that must be there. -/
def required {α : Type} (name : String) : Option α → Except DecodeError α
  | some a => .ok a
  | none => .error (.shape (.missingField name))

/-! ## Choices -/

/-- The choice that a name stands for. -/
def choose {α : Type} (known : List (String × α)) (name : String) : Except DecodeError α :=
  match known.lookup name with
  | some a => .ok a
  | none => .error (.shape (.unknownVariant name (known.map (·.1))))

/-- The empty content of a choice that is given as an object. -/
def decodeUnit : Decoder Unit
  | .null => .ok ()
  | r => mismatch "unit" r

/-- A choice between names, given as a text or as an object with the name as only entry and `null`
as its value. -/
def decodeChoice {α : Type} (known : List (String × α)) : Source → Decoder α
  | _, .text s => choose known s
  | .text, .fields [] stop => do
      stop.check
      .error (.text .malformed)
  | .text, .fields ((.text name, r) :: rest) stop => do
      let a ← choose known name
      decodeUnit r
      if rest.isEmpty then
        stop.checkFull
        .ok a
      else .error (.text .malformed)
  | .text, .fields ((.absent, r) :: _) _ => mismatch "variant identifier" r
  | .text, .broken wanted _ => .error (.text wanted)
  | .text, _ => .error (.text .malformed)
  | .document, .fields [(.text name, r)] _ => do
      let a ← choose known name
      decodeUnit r
      .ok a
  | .document, .fields _ _ => .error (.shape (.wrongValue .map "map with a single key"))
  | .document, r => mismatch "string or map" r

/-! ## Whole texts -/

/-- Decodes a text that consists of one document. -/
def decodeDocument {α : Type} (d : Decoder α) (text : String) : Except DecodeError α := do
  let read := scan text.toList
  let a ← d read.value
  if read.trailing then .error (.text .malformed) else .ok a

end Json
end LinkLedger
