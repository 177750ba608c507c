import StateDescription.Diagnostic
import StateDescription.SymbolTable.Roles
import StateDescription.Text.Quoted

/-!
Symbol tables: the objects that a source declares, in the order of their first declarations,
the literal values that they share, and the diagnostics found on the way.
-/

namespace StateDescription

/-- When a transition writes its effect: after it is traversed, before, or not at all. -/
inductive WriteMode
  | after
  | before
  | never
  deriving DecidableEq

def WriteMode.name : WriteMode → String
  | after => "WRITE_AFTER"
  | before => "WRITE_BEFORE"
  | never => "NO_WRITE"

/-- A transition, located at its origin. What stands in no source has no location. -/
structure Transition where
  location : Option Location
  origin : String
  target : String
  mode : WriteMode
  deriving DecidableEq

structure Value where
  text : String
  location : Option Location
  deriving DecidableEq

/-- A declared object. Its values are indices into the values of the table. -/
structure Object where
  name : String
  location : Option Location
  roles : Roles
  values : List Int
  transitions : List Transition
  deriving DecidableEq

namespace Object

def transition? (object : Object) (origin : String) : Option Transition :=
  object.transitions.find? (·.origin = origin)

def addRoles (roles : Roles) (object : Object) : Object :=
  { object with roles := object.roles ∪ roles }

def addValue (index : Int) (object : Object) : Object :=
  { object with values := object.values ++ [index] }

def addTransition (transition : Transition) (object : Object) : Object :=
  { object with transitions := object.transitions ++ [transition] }

end Object

structure SymbolTable where
  objects : List Object
  values : List Value
  diagnostics : List Diagnostic

namespace SymbolTable

def empty : SymbolTable :=
  ⟨[], [], []⟩

def find? (table : SymbolTable) (name : String) : Option Object :=
  table.objects.find? (·.name = name)

def contains (table : SymbolTable) (name : String) : Bool :=
  (table.find? name).isSome

def declare (object : Object) (table : SymbolTable) : SymbolTable :=
  { table with objects := table.objects ++ [object] }

/-- Changes the object of that name, wherever it stands. -/
def modify (name : String) (change : Object → Object) (table : SymbolTable) : SymbolTable :=
  { table with
    objects := table.objects.map fun object =>
      if object.name = name then change object else object }

/-- Puts an object in the place of the one of its name, or behind all others. -/
def put (object : Object) (table : SymbolTable) : SymbolTable :=
  if table.contains object.name then table.modify object.name fun _ => object
  else table.declare object

def addValue (text : String) (location : Option Location) (table : SymbolTable) : SymbolTable :=
  { table with values := table.values ++ [⟨text, location⟩] }

/-- Adds a value and gives its index to the object of that name. -/
def addValueOf (name text : String) (location : Option Location) (table : SymbolTable) : SymbolTable :=
  (table.addValue text location).modify name (Object.addValue table.values.length)

def addDiagnostics (diagnostics : List Diagnostic) (table : SymbolTable) : SymbolTable :=
  { table with diagnostics := table.diagnostics ++ diagnostics }

def addDiagnostic (diagnostic : Diagnostic) (table : SymbolTable) : SymbolTable :=
  table.addDiagnostics [diagnostic]

/-- The value with that index. An index below zero counts from the end. -/
def value? (table : SymbolTable) : Int → Option Value
  | .ofNat n => table.values[n]?
  | .negSucc n => table.values.reverse[n]?

inductive LookupError
  | unknownName (name : String)
  | indexOutOfRange (index : Int)
  deriving DecidableEq

/-- An index beyond 64 bits is told apart from the other ones that are out of range. -/
def LookupError.message : LookupError → String
  | unknownName name => quoted name
  | indexOutOfRange index =>
    if -0x8000000000000000 ≤ index ∧ index < 0x8000000000000000 then "list index out of range"
    else "cannot fit 'int' into an index-sized integer"

def get (table : SymbolTable) (name : String) : Except LookupError Object :=
  match table.find? name with
  | some object => .ok object
  | none => .error (.unknownName name)

def textOf (table : SymbolTable) (index : Int) : Except LookupError String :=
  match table.value? index with
  | some value => .ok value.text
  | none => .error (.indexOutOfRange index)

def textsOf (table : SymbolTable) (name : String) : Except LookupError (List String) := do
  let object ← table.get name
  object.values.mapM table.textOf

def transition? (table : SymbolTable) (name origin : String) :
    Except LookupError (Option Transition) := do
  let object ← table.get name
  return object.transition? origin

def withRole (table : SymbolTable) (role : Role) : List Object :=
  table.objects.filter (role ∈ ·.roles)

def hasDiagnostics (table : SymbolTable) : Bool :=
  !table.diagnostics.isEmpty

def report (table : SymbolTable) : String :=
  Diagnostic.report table.diagnostics

/-- Two tables are alike when they hold the same objects, in whatever order, the same values, and
diagnostics that are alike one by one. -/
def alike (first second : SymbolTable) : Bool :=
  first.objects.isPerm second.objects && first.values = second.values &&
    first.diagnostics.length = second.diagnostics.length &&
    (first.diagnostics.zip second.diagnostics).all fun pair => pair.1.alike pair.2

end SymbolTable

end StateDescription
