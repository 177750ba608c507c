import StateDescription.Text.Hexadecimal
import StateDescription.Text.Printable

/-!
Quoted text: a text between two quotes in which the quote, the backslash and every
unprintable character are spelled out, so that the quoted text fits on one line.
-/

namespace StateDescription

namespace Quoted

/-- An apostrophe, unless the text holds apostrophes and no double quote. -/
def delimiter (cs : List Char) : Char :=
  if cs.contains '\'' && !cs.contains '"' then '"' else '\''

/-- A character by its number, in two, four or eight hexadecimal digits. -/
def numbered (c : Char) : List Char :=
  if c.toNat < 0x100 then '\\' :: 'x' :: Hexadecimal.fixed 2 c.toNat
  else if c.toNat < 0x10000 then '\\' :: 'u' :: Hexadecimal.fixed 4 c.toNat
  else '\\' :: 'U' :: Hexadecimal.fixed 8 c.toNat

def spelled (quote c : Char) : List Char :=
  if c = quote ∨ c = '\\' then ['\\', c]
  else if c = '\n' then ['\\', 'n']
  else if c = '\r' then ['\\', 'r']
  else if c = '\t' then ['\\', 't']
  else if isPrintable c then [c]
  else numbered c

def encode (cs : List Char) : List Char :=
  delimiter cs :: cs.flatMap (spelled (delimiter cs)) ++ [delimiter cs]

end Quoted

def quoted (text : String) : String :=
  String.ofList (Quoted.encode text.toList)

end StateDescription
