import StateDescription.Item
import StateDescription.Json
import StateDescription.SymbolTable

/-!
Symbol tables and items as JSON. Roles and write modes are given by their names.
-/

namespace StateDescription

def Location.toJson (location : Location) : Json :=
  .object [("file", .string location.file), ("line", .integer location.line),
    ("column", .integer location.column)]

/-- A missing location is null. -/
def Location.toJson? : Option Location → Json
  | some location => location.toJson
  | none => .null

def Transition.toJson (transition : Transition) : Json :=
  .object [("origin", .string transition.origin), ("target", .string transition.target),
    ("write_mode", .string transition.mode.name),
    ("location", Location.toJson? transition.location)]

def Object.toJson (object : Object) : Json :=
  .object [("id", .string object.name), ("kind", .array (object.roles.names.map .string)),
    ("values", .array (object.values.map .integer)),
    ("transitions", .array (object.transitions.map Transition.toJson)),
    ("location", Location.toJson? object.location)]

def Value.toJson (value : Value) : Json :=
  .object [("text", .string value.text), ("location", Location.toJson? value.location)]

def Diagnostic.toJson (diagnostic : Diagnostic) : Json :=
  .object [("kind", .string diagnostic.kind.name), ("message", .string diagnostic.message),
    ("location", Location.toJson? diagnostic.location)]

def SymbolTable.toJson (table : SymbolTable) : Json :=
  .object [("objects", .array (table.objects.map Object.toJson)),
    ("values", .array (table.values.map Value.toJson)),
    ("errors", .array (table.diagnostics.map Diagnostic.toJson))]

def Token.toJson (token : Token) : Json :=
  .object [("type", .string token.type.name), ("value", .string token.value),
    ("location", token.location.toJson)]

def Item.toJson : Item → Json
  | token t => t.toJson
  | fault f => f.toDiagnostic.toJson

def SymbolTable.jsonText (layout : Json.Layout) (table : SymbolTable) : String :=
  table.toJson.text layout

def Item.jsonText (layout : Json.Layout) (items : List Item) : String :=
  (Json.array (items.map Item.toJson)).text layout

end StateDescription
