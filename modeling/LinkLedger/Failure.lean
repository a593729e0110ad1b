import LinkLedger.Json.Decode
import LinkLedger.Text.Utf8

/-!
# Failures of the services

A failure says which part of the system refused.  After failures of the index and of the content
source the same call may be made again.
-/

namespace LinkLedger

/-- Why no settings could be read from a document. -/
inductive SettingsFault where
  | document (error : Json.DecodeError)
  | other (text : String)

/-- Why an operation did not succeed. -/
inductive Failure where
  | invalidUrl (text : String)
  | storage (text : String)
  | contentSource (text : String)
  | settings (fault : SettingsFault)
  | file (text : String)
  | cancelled

namespace Failure

/-- The failure of octets that are no text. -/
def ofUtf8 (fault : Text.Utf8Fault) : Failure :=
  .invalidUrl ("not valid UTF-8: " ++ fault.message)

/-- The wording of a failure, `none` for a settings document that is no well-formed text. -/
def message? : Failure → Option String
  | .invalidUrl text => some ("invalid URL input: " ++ text)
  | .storage text => some ("link index operation failed: " ++ text)
  | .contentSource text => some ("content source failed: " ++ text)
  | .settings (.document (.shape fault)) => some ("invalid settings: " ++ fault.message)
  | .settings (.document (.text _)) => none
  | .settings (.other text) => some ("invalid settings: " ++ text)
  | .file text => some ("could not read settings file: " ++ text)
  | .cancelled => some "operation cancelled"

/-- Whether the same call may be made again. -/
def isRetryable : Failure → Bool
  | .storage _ => true
  | .contentSource _ => true
  | _ => false

end Failure
end LinkLedger
