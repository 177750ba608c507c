import StateDescription.Text.Decimal

/-!
Places in source text: a position within a text, and a location, which adds the name of the
file.
-/

namespace StateDescription

/-- A place in a file. Line and column may be any integers. -/
structure Location where
  file : String
  line : Int
  column : Int
  deriving DecidableEq

namespace Location

/-- The file, then line and column with three digits or more. -/
def text (location : Location) : String :=
  location.file ++ ":" ++ String.ofList (Decimal.padded 3 location.line) ++ ":" ++
    String.ofList (Decimal.padded 3 location.column)

def lead (location : Location) : String :=
  location.text ++ " -->\t"

end Location

/-- Line and column of a character, both counted from one. -/
structure Position where
  line : Nat
  column : Nat
  deriving DecidableEq

namespace Position

def start : Position :=
  ⟨1, 1⟩

/-- The position behind a character: only a line feed starts a new line. -/
def next (position : Position) (c : Char) : Position :=
  if c = '\n' then ⟨position.line + 1, 1⟩ else ⟨position.line, position.column + 1⟩

def after (position : Position) (cs : List Char) : Position :=
  cs.foldl next position

@[simp] theorem after_nil (position : Position) : position.after [] = position := rfl

@[simp] theorem after_cons (position : Position) (c : Char) (cs : List Char) :
    position.after (c :: cs) = (position.next c).after cs := rfl

@[simp] theorem after_append (position : Position) (cs ds : List Char) :
    position.after (cs ++ ds) = (position.after cs).after ds :=
  List.foldl_append

def within (file : String) (position : Position) : Location :=
  ⟨file, position.line, position.column⟩

end Position

end StateDescription
