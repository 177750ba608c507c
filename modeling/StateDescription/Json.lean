import StateDescription.Text.Decimal
import StateDescription.Text.Hexadecimal

/-!
JSON values and their text. The text is plain ASCII and keeps the order of members; it runs
on one line, or gives every element a line of its own, indented by its depth.
-/

namespace StateDescription

inductive Json
  | null
  | integer (n : Int)
  | string (text : String)
  | array (elements : List Json)
  | object (members : List (String × Json))

namespace Json

/-- One UTF-16 unit by its number. -/
def unit (n : Nat) : List Char :=
  '\\' :: 'u' :: Hexadecimal.fixed 4 n

def numbered (c : Char) : List Char :=
  if c.toNat < 0x10000 then unit c.toNat
  else
    unit (0xd800 + (c.toNat - 0x10000) / 0x400) ++ unit (0xdc00 + (c.toNat - 0x10000) % 0x400)

def spelled (c : Char) : List Char :=
  if c = '"' ∨ c = '\\' then ['\\', c]
  else if c = '\n' then ['\\', 'n']
  else if c = '\r' then ['\\', 'r']
  else if c = '\t' then ['\\', 't']
  else if c = '\x08' then ['\\', 'b']
  else if c = '\x0c' then ['\\', 'f']
  else if ' ' ≤ c ∧ c ≤ '~' then [c]
  else numbered c

def stringText (text : String) : List Char :=
  '"' :: text.toList.flatMap spelled ++ ['"']

inductive Layout
  | oneLine
  | indented (width : Nat)

namespace Layout

/-- An indent below zero indents as zero does. -/
def ofIndent : Option Int → Layout
  | none => oneLine
  | some indent => indented indent.toNat

/-- The break before an element of that depth. -/
def lineBreak (depth : Nat) : Layout → List Char
  | oneLine => []
  | indented width => '\n' :: List.replicate (width * depth) ' '

def separator (depth : Nat) : Layout → List Char
  | oneLine => [',', ' ']
  | indented width => ',' :: (indented width).lineBreak depth

/-- Elements between two brackets; nothing stands between the brackets of no elements. -/
def enclosed (layout : Layout) (depth : Nat) (opening closing : Char)
    (elements : List (List Char)) : List Char :=
  if elements.isEmpty then [opening, closing]
  else
    opening :: layout.lineBreak (depth + 1) ++
      (layout.separator (depth + 1)).intercalate elements ++
      layout.lineBreak depth ++ [closing]

end Layout

mutual

def chars (layout : Layout) (depth : Nat) : Json → List Char
  | null => ['n', 'u', 'l', 'l']
  | integer n => Decimal.signed n
  | string text => stringText text
  | array elements => layout.enclosed depth '[' ']' (elementChars layout (depth + 1) elements)
  | object members => layout.enclosed depth '{' '}' (memberChars layout (depth + 1) members)

def elementChars (layout : Layout) (depth : Nat) : List Json → List (List Char)
  | [] => []
  | element :: later => chars layout depth element :: elementChars layout depth later

def memberChars (layout : Layout) (depth : Nat) : List (String × Json) → List (List Char)
  | [] => []
  | (name, value) :: later =>
    (stringText name ++ ':' :: ' ' :: chars layout depth value) ::
      memberChars layout depth later

end

def text (layout : Layout) (json : Json) : String :=
  String.ofList (json.chars layout 0)

end Json

end StateDescription
