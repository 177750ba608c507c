import StateDescription.Check.File
import StateDescription.Command.Usage

/-!
Failures of the command, what it says about them and the exit codes.
-/

namespace StateDescription

inductive ExitCode
  | success
  | diagnosed
  | invalid
  | internalError
  deriving DecidableEq

def ExitCode.number : ExitCode → Nat
  | success => 0
  | diagnosed => 1
  | invalid => 2
  | internalError => 3

/-- What a run of the command leaves behind, apart from files. -/
structure Outcome where
  exitCode : ExitCode
  stdout : String
  stderr : String

/-- Why a run broke off: a diagnostic, another refusal, a file that cannot be used, or an
error that nobody expected. -/
inductive Failure
  | diagnosed (diagnostic : Diagnostic)
  | refused (message : String)
  | unusableFile (message : String)
  | unexpected (message : String)

namespace Failure

def exitCode : Failure → ExitCode
  | diagnosed _ => .diagnosed
  | refused _ => .diagnosed
  | unusableFile _ => .invalid
  | unexpected _ => .internalError

/-- A diagnostic speaks for itself. A verbose command shows the stack of an unexpected error,
which is empty. -/
def text (verbose : Bool) : Failure → String
  | diagnosed diagnostic => outputLine diagnostic.text
  | refused message => outputLine ("Error: " ++ message)
  | unusableFile message => outputLine ("Error: " ++ message)
  | unexpected message =>
    outputLine ("Internal error: " ++ message) ++ if verbose then "NoneType: None\n" else ""

def outcome (verbose : Bool) (failure : Failure) : Outcome :=
  ⟨failure.exitCode, "", failure.text verbose⟩

end Failure

def CheckError.failure : CheckError → Failure
  | failed summary => .diagnosed summary
  | missing path => .unusableFile (missing path).message
  | unreadable error => .unusableFile error.message
  | undecodable (.undecodable error) => .unusableFile error.message
  | undecodable error => .unexpected error.message

end StateDescription
