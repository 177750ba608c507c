import StateDescription.Text.Decimal
import StateDescription.Text.Quoted

/-!
Access to files: what a program may ask of the place it runs in.
-/

namespace StateDescription

inductive FileStatus
  | missing
  | file
  | directory
  deriving DecidableEq

/-- Why a file could not be read or written, with the number that the system gives the
reason. -/
structure FileError where
  code : Nat
  reason : String
  path : String
  deriving DecidableEq

def FileError.message (error : FileError) : String :=
  "[Errno " ++ String.ofList (Decimal.digits error.code) ++ "] " ++ error.reason ++ ": " ++
    quoted error.path

/-- A place with files. A path that leads nowhere has the status of a missing file; other paths
that cannot be followed are errors. Writing replaces a file or makes a new one. -/
class FileAccess (m : Type → Type) where
  status : String → m (Except FileError FileStatus)
  read : String → m (Except FileError ByteArray)
  write : String → ByteArray → m (Except FileError Unit)

end StateDescription
