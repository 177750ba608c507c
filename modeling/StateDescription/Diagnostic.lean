import StateDescription.Diagnostic.Problem

/-!
Diagnostics: problems at their places, and the report on a list of them.
-/

namespace StateDescription

structure Diagnostic where
  problem : Problem
  location : Option Location
  deriving DecidableEq

namespace Diagnostic

def message (diagnostic : Diagnostic) : String :=
  diagnostic.problem.message

def kind (diagnostic : Diagnostic) : Problem.Kind :=
  diagnostic.problem.kind

def isLexical (diagnostic : Diagnostic) : Bool :=
  diagnostic.problem.isLexical

/-- The message behind its location; a summary of a whole source shows no location. -/
def text (diagnostic : Diagnostic) : String :=
  match diagnostic.problem, diagnostic.location with
  | .compilation report, _ => report
  | problem, some location => location.lead ++ problem.message
  | problem, none => problem.message

/-- Two diagnostics are alike when kind, message and location agree. -/
def alike (first second : Diagnostic) : Bool :=
  first.kind = second.kind && first.message = second.message &&
    first.location = second.location

@[simp] theorem alike_refl (diagnostic : Diagnostic) : diagnostic.alike diagnostic := by
  simp [alike]

/-- `1 error`, and any other number of `errors`. -/
def countText (count : Nat) : String :=
  String.ofList (Decimal.digits count) ++ if count = 1 then " error" else " errors"

/-- Every diagnostic on a line of its own, and their number on the last line. -/
def report (diagnostics : List Diagnostic) : String :=
  String.intercalate "\n" (diagnostics.map text ++ [countText diagnostics.length])

/-- One diagnostic that sums up a list of them, if there are any. -/
def summary? (diagnostics : List Diagnostic) : Option Diagnostic :=
  if diagnostics.isEmpty then none else some ⟨.compilation (report diagnostics), none⟩

end Diagnostic

end StateDescription
