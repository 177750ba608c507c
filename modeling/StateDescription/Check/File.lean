import StateDescription.Check
import StateDescription.Files.Access
import StateDescription.Files.Path

/-!
Checking a file: its bytes are read and decoded, and the text is checked.
-/

namespace StateDescription

inductive CheckError
  | missing (path : String)
  | unreadable (error : FileError)
  | undecodable (error : TextError)
  | failed (summary : Diagnostic)

def CheckError.message : CheckError → String
  | missing path => "Source file not found: " ++ path
  | unreadable error => error.message
  | undecodable error => error.message
  | failed summary => summary.text

def checkBytes (options : CheckOptions) (file : String) (bytes : ByteArray) :
    Except CheckError CheckResult :=
  match textOfBytes options.encoding bytes with
  | .error error => .error (.undecodable error)
  | .ok source =>
    match checkStrictly options file source with
    | .error summary => .error (.failed summary)
    | .ok result => .ok result

/-- The file is opened under its normalised path; the result names it as it was given. No name
of an encoding holds a null character, so with one the file is not even opened. -/
def checkFile {m : Type → Type} [Monad m] [FileAccess m] (options : CheckOptions)
    (path : String) : m (Except CheckError CheckResult) := do
  match ← FileAccess.status (Path.normalised path) with
  | .error error => return .error (.unreadable error)
  | .ok .missing => return .error (.missing path)
  | .ok _ =>
    if options.encoding.toList.contains '\x00' then return .error (.undecodable .nullInEncodingName)
    else
      match ← FileAccess.read (Path.normalised path) with
      | .error error => return .error (.unreadable error)
      | .ok bytes => return checkBytes options path bytes

end StateDescription
