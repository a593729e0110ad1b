import LinkLedger.Failure
import LinkLedger.Settings.Document

/-!
# Settings in a file
-/

namespace LinkLedger

/-- Why a file gives no text. -/
inductive FileFault where
  | missing
  | notText
  deriving DecidableEq, Repr

/-- The wording of a fault. -/
def FileFault.message : FileFault → String
  | .missing => "No such file or directory (os error 2)"
  | .notText => "stream did not contain valid UTF-8"

namespace Settings

/-- The settings that a text describes, with the failure of the services if it does not. -/
def ofDocument (text : String) : Except Failure Settings :=
  match ofText text with
  | .ok s => .ok s
  | .error e => .error (.settings (.document e))

/-- The settings in a file, which is given by its octets if it is there. -/
def ofFile (file : Option (List UInt8)) : Except Failure Settings :=
  match file with
  | none => .error (.file FileFault.missing.message)
  | some octets =>
      match Text.decodeOctets octets with
      | .ok text => ofDocument (String.ofList text)
      | .error _ => .error (.file FileFault.notText.message)

end Settings
end LinkLedger
