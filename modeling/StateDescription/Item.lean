import StateDescription.Diagnostic
import StateDescription.Token

/-!
Items, what scanning yields: tokens, and lexical faults in the places of spoiled tokens.
-/

namespace StateDescription

structure Fault where
  problem : LexicalProblem
  location : Option Location
  deriving DecidableEq

def Fault.toDiagnostic (fault : Fault) : Diagnostic :=
  ⟨.lexical fault.problem, fault.location⟩

inductive Item
  | token (token : Token)
  | fault (fault : Fault)
  deriving DecidableEq

namespace Item

def isComment : Item → Bool
  | token t => t.type = .comment
  | fault _ => false

def location? : Item → Option Location
  | token t => some t.location
  | fault f => f.location

def dump : Item → String
  | token t => t.dump
  | fault f => f.toDiagnostic.text

def summary : Item → String
  | token t => t.summary
  | fault f => f.problem.kind.name ++ "(" ++ quoted f.toDiagnostic.text ++ ")"

end Item

end StateDescription
