import StateDescription.SymbolTable

/-!
Look-ups by name in a symbol table, and how the operations on tables change them. No operation
takes a name away or moves it.
-/

namespace StateDescription

namespace Object

/-- A change that leaves the name of every object as it is. -/
def KeepsName (change : Object → Object) : Prop :=
  ∀ object, (change object).name = object.name

theorem keepsName_addRoles (roles : Roles) : KeepsName (addRoles roles) :=
  fun _ => rfl

theorem keepsName_addValue (index : Int) : KeepsName (addValue index) :=
  fun _ => rfl

theorem keepsName_addTransition (transition : Transition) :
    KeepsName (addTransition transition) :=
  fun _ => rfl

end Object

namespace SymbolTable

/-- The names of the objects, in the order of their first declarations. -/
def names (table : SymbolTable) : List String :=
  table.objects.map Object.name

theorem find?_eq_none_iff {table : SymbolTable} {name : String} :
    table.find? name = none ↔ name ∉ table.names := by
  simp [find?, names, List.find?_eq_none]

theorem contains_iff {table : SymbolTable} {name : String} :
    table.contains name = true ↔ name ∈ table.names := by
  rw [contains, Option.isSome_iff_ne_none, ne_eq, find?_eq_none_iff, Classical.not_not]

theorem mem_names_of_find?_eq_some {table : SymbolTable} {name : String} {object : Object}
    (found : table.find? name = some object) : name ∈ table.names := by
  rw [← contains_iff, contains, found]
  rfl

theorem exists_find?_of_mem_names {table : SymbolTable} {name : String}
    (member : name ∈ table.names) : ∃ object, table.find? name = some object :=
  Option.isSome_iff_exists.1 (contains_iff.2 member)

@[simp] theorem names_empty : empty.names = [] := rfl

@[simp] theorem names_declare (object : Object) (table : SymbolTable) :
    (table.declare object).names = table.names ++ [object.name] := by
  simp [names, declare]

@[simp] theorem names_addDiagnostics (diagnostics : List Diagnostic) (table : SymbolTable) :
    (table.addDiagnostics diagnostics).names = table.names := rfl

@[simp] theorem diagnostics_addDiagnostics (diagnostics : List Diagnostic)
    (table : SymbolTable) :
    (table.addDiagnostics diagnostics).diagnostics = table.diagnostics ++ diagnostics := rfl

@[simp] theorem diagnostics_declare (object : Object) (table : SymbolTable) :
    (table.declare object).diagnostics = table.diagnostics := rfl

@[simp] theorem diagnostics_modify (name : String) (change : Object → Object)
    (table : SymbolTable) : (table.modify name change).diagnostics = table.diagnostics := rfl

@[simp] theorem diagnostics_addValueOf (name text : String) (location : Option Location)
    (table : SymbolTable) :
    (table.addValueOf name text location).diagnostics = table.diagnostics := rfl

theorem names_modify {change : Object → Object} (keeps : Object.KeepsName change)
    (name : String) (table : SymbolTable) :
    (table.modify name change).names = table.names := by
  rw [names, modify, List.map_map]
  apply List.map_congr_left
  intro object _
  change (if object.name = name then change object else object).name = object.name
  split
  · exact keeps object
  · rfl

@[simp] theorem names_addValueOf (name text : String) (location : Option Location)
    (table : SymbolTable) : (table.addValueOf name text location).names = table.names :=
  names_modify (Object.keepsName_addValue _) name (table.addValue text location)

end SymbolTable

end StateDescription
