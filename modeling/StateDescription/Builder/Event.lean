import StateDescription.Builder.Frame
import StateDescription.Item
import StateDescription.SymbolTable.Roles

/-!
The trace of a build: what happened, in order, and the line that tells it.
-/

namespace StateDescription

/-- An event. Depths count the open constructs around the one that opens or closes, the whole
source included. -/
inductive Event
  | opened (context : Context) (depth : Nat)
  | closed (context : Context) (depth : Nat)
  | declared (name : String) (roles : Roles) (location : Location)
  | diagnosed (diagnostic : Diagnostic)
  | faultDropped (fault : Fault)
  | literalDropped (text : String)
  | nameDropped (name : String)
  | built (objects values diagnostics : Nat)
  deriving DecidableEq

namespace Event

def depthText (depth : Nat) : String :=
  " (depth " ++ String.ofList (Decimal.digits depth) ++ ")"

def text : Event → String
  | opened context depth => "Open " ++ context.name ++ depthText depth
  | closed context depth => "Close " ++ context.name ++ depthText depth
  | declared name roles location =>
    "Declared " ++ quoted name ++ " (ObjectKind." ++ roles.name ++ ") at " ++ location.text
  | diagnosed diagnostic => "Diagnostic: " ++ diagnostic.text
  | faultDropped fault => "Dropped lexical error: " ++ fault.toDiagnostic.text
  | literalDropped text => "Literal " ++ quoted text ++ " in a group with no object"
  | nameDropped name => "Statement end dropped " ++ quoted name
  | built objects values diagnostics =>
    "Built " ++ String.ofList (Decimal.digits objects) ++ " objects, " ++
      String.ofList (Decimal.digits values) ++ " values, " ++
      String.ofList (Decimal.digits diagnostics) ++ " diagnostics"

end Event

end StateDescription
