import StateDescription.Text.Decimal
import StateDescription.Text.Hexadecimal
import StateDescription.Text.Utf8

/-!
Text encodings: their names, and strict decoding of bytes. Decoding fails on the first byte
sequence that the encoding gives no character.
-/

namespace StateDescription

inductive Encoding
  | utf8
  | utf8Signed
  | ascii
  | latin1
  deriving DecidableEq

namespace Encoding

def all : List Encoding :=
  [utf8, utf8Signed, ascii, latin1]

def properName : Encoding → String
  | utf8 => "utf_8"
  | utf8Signed => "utf_8_sig"
  | ascii => "ascii"
  | latin1 => "latin_1"

def aliases : Encoding → List String
  | utf8 => ["utf8", "utf", "u8", "cp65001", "utf8_ucs2", "utf8_ucs4"]
  | utf8Signed => []
  | ascii =>
    ["us_ascii", "us", "646", "cp367", "csascii", "ibm367", "iso646_us", "iso_646.irv_1991",
      "iso_ir_6", "ansi_x3.4_1968", "ansi_x3_4_1968", "ansi_x3.4_1986"]
  | latin1 =>
    ["latin1", "latin", "l1", "8859", "cp819", "csisolatin1", "ibm819", "iso8859", "iso8859_1",
      "iso_8859_1", "iso_8859_1_1987", "iso_ir_100"]

/-- The characters that a name is made of. All others only separate. -/
def isNameChar (c : Char) : Bool :=
  c.isAlphanum || c = '.'

/-- A name in lower case, with one underscore for every run of separating characters, none at
either end. -/
def foldedName (name : String) : String :=
  let runs := (name.toList.map Char.toLower).splitBy fun a b => isNameChar a == isNameChar b
  String.intercalate "_" ((runs.filter (·.all isNameChar)).map String.ofList)

def undotted (name : String) : String :=
  String.ofList (name.toList.map fun c => if c = '.' then '_' else c)

def ofAlias? (name : String) : Option Encoding :=
  all.find? (·.aliases.contains name)

/-- A folded name is an alias, an alias with dots for underscores, or a proper name. -/
def ofFoldedName? (name : String) : Option Encoding :=
  (ofAlias? name).or ((ofAlias? (undotted name)).or (all.find? (·.properName = name)))

/-- The encoding of the system, which goes by this very name, is UTF-8. -/
def ofName? (name : String) : Option Encoding :=
  if name = "locale" then some utf8 else ofFoldedName? (foldedName name)

inductive DecodeError
  | brokenUtf8 (broken : Utf8.Broken)
  | beyondAscii (position : Nat) (byte : UInt8)

namespace DecodeError

def byteText (b : UInt8) : String :=
  "0x" ++ String.ofList (Hexadecimal.fixed 2 b.toNat)

def positionText (n : Nat) : String :=
  String.ofList (Decimal.digits n)

/-- A broken sequence of one byte is named by the byte, a longer one by its positions. -/
def message : DecodeError → String
  | brokenUtf8 ⟨position, b :: b' :: bytes, fault⟩ =>
    "'utf-8' codec can't decode bytes in position " ++ positionText position ++ "-" ++
      positionText (position + (b :: b' :: bytes).length - 1) ++ ": " ++ fault.reason
  | brokenUtf8 ⟨position, bytes, fault⟩ =>
    "'utf-8' codec can't decode byte " ++ String.join (bytes.map byteText) ++ " in position " ++
      positionText position ++ ": " ++ fault.reason
  | beyondAscii position b =>
    "'ascii' codec can't decode byte " ++ byteText b ++ " in position " ++
      positionText position ++ ": ordinal not in range(128)"

end DecodeError

def decodeUtf8 (bytes : ByteArray) : Except DecodeError String :=
  match String.fromUTF8? bytes with
  | some text => .ok text
  | none => .error (.brokenUtf8 (Utf8.firstBroken 0 bytes.data.toList))

/-- The byte order mark that signs UTF-8 text. -/
def signature : List UInt8 :=
  [0xef, 0xbb, 0xbf]

/-- Signed text is read without its mark, and positions count from behind it; text that stops
inside the mark is empty. -/
def decodeSigned (bytes : ByteArray) : Except DecodeError String :=
  if signature.isPrefixOf bytes.data.toList then
    decodeUtf8 (bytes.extract signature.length bytes.size)
  else if bytes.data.toList.isPrefixOf signature then .ok ""
  else decodeUtf8 bytes

/-- One character a byte, with the same number. -/
def bytewise (bytes : ByteArray) : String :=
  String.ofList (bytes.data.toList.map fun b => Char.ofNat b.toNat)

def decodeAscii (bytes : ByteArray) : Except DecodeError String :=
  match bytes.data.toList.findIdx? (0x80 ≤ ·) with
  | none => .ok (bytewise bytes)
  | some position => .error (.beyondAscii position (bytes.data.toList.getD position 0))

def decode : Encoding → ByteArray → Except DecodeError String
  | utf8 => decodeUtf8
  | utf8Signed => decodeSigned
  | ascii => decodeAscii
  | latin1 => fun bytes => .ok (bytewise bytes)

end Encoding

end StateDescription
