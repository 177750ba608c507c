import StateDescription.Command

/-!
The command line program: the command with the files of the system it runs on.
-/

namespace StateDescription

/-- The system's number for an error, and its words for it. -/
def systemReason : IO.Error → Nat × String
  | .noFileOrDirectory _ code reason => (code.toNat, reason)
  | .permissionDenied _ code reason => (code.toNat, reason)
  | .inappropriateType _ code reason => (code.toNat, reason)
  | .invalidArgument _ code reason => (code.toNat, reason)
  | .alreadyExists _ code reason => (code.toNat, reason)
  | .resourceExhausted _ code reason => (code.toNat, reason)
  | .resourceBusy code reason => (code.toNat, reason)
  | .unsatisfiedConstraints code reason => (code.toNat, reason)
  | .hardwareFault code reason => (code.toNat, reason)
  | .otherError code reason => (code.toNat, reason)
  | error => (5, toString error)

def fileError (path : String) (error : IO.Error) : FileError :=
  ⟨(systemReason error).1, (systemReason error).2, path⟩

/-- No file is at the end of the path, or the path goes through one. -/
def statusOfError (path : String) (error : IO.Error) : Except FileError FileStatus :=
  if [2, 20].contains (systemReason error).1 then .ok .missing else .error (fileError path error)

instance : FileAccess IO where
  status path := do
    if path.isEmpty then return .ok .missing
    try
      let found ← (System.mkFilePath [path]).metadata
      return .ok (if found.type == .dir then .directory else .file)
    catch error => return statusOfError path error
  read path := do
    try return .ok (← IO.FS.readBinFile path)
    catch error => return .error (fileError path error)
  write path content := do
    try
      IO.FS.writeBinFile path content
      return .ok ()
    catch error => return .error (fileError path error)

end StateDescription

def main (arguments : List String) : IO UInt32 := do
  let outcome : StateDescription.Outcome ← StateDescription.runCommand arguments
  (← IO.getStdout).putStr outcome.stdout
  (← IO.getStderr).putStr outcome.stderr
  return outcome.exitCode.number.toUInt32
