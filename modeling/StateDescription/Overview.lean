import StateDescription.Check.File

/-!
An overview of one file: its first items, its objects with their values and transitions, and
its diagnostics.
-/

namespace StateDescription.Overview

/-- Comments are counted and not shown. -/
def options : CheckOptions where
  keepsItems := true
  keepsComments := false

def shownItems : Nat := 8

def line (text : String) : String :=
  text ++ "\n"

def itemLine (item : Item) : String :=
  let label :=
    match item with
    | .token _ => "token"
    | .fault _ => "error"
  line ("  " ++ label ++ ": " ++ item.summary)

def rolesText (roles : Roles) : String :=
  if roles = .through then "THROUGH" else String.intercalate ", " roles.names

def valueLine (text : String) : String :=
  line ("  value: " ++ quoted text)

def transitionLine (transition : Transition) : String :=
  line ("  " ++ transition.origin ++ " -> " ++ transition.target ++ " (" ++
    transition.mode.name ++ ")")

/-- The texts of the values of an object, none if one of them is not in the table. -/
def valueTexts (table : SymbolTable) (object : Object) : List String :=
  match table.textsOf object.name with
  | .ok texts => texts
  | .error _ => []

def locationText : Option Location → String
  | some location => location.text
  | none => "None"

def objectText (table : SymbolTable) (object : Object) : String :=
  line ("\n" ++ object.name ++ " [" ++ rolesText object.roles ++ "] declared at " ++
    locationText object.location) ++
    String.join ((valueTexts table object).map valueLine) ++
    String.join (object.transitions.map transitionLine)

def diagnosticsText (table : SymbolTable) : String :=
  if table.hasDiagnostics then line "" ++ line table.report else line "\nNo diagnostics."

def text (result : CheckResult) : String :=
  line ("Scanned " ++ String.ofList (Decimal.digits result.itemCount) ++ " tokens from " ++
    Path.fileName result.file) ++
    String.join ((result.items.take shownItems).map itemLine) ++
    String.join (result.table.objects.map (objectText result.table)) ++
    diagnosticsText result.table

/-- The text of the overview, and whether the file is free of diagnostics. -/
def ofFile {m : Type → Type} [Monad m] [FileAccess m] (path : String) :
    m (Except CheckError (String × Bool)) := do
  match ← checkFile options (Path.normalised path) with
  | .error error => return .error error
  | .ok result => return .ok (text result, result.succeeded)

end StateDescription.Overview
