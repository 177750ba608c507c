import StateDescription.Location
import StateDescription.Text.Quoted

/-!
Tokens of the state description language.
-/

namespace StateDescription

inductive TokenType
  | comment
  | openGroup
  | closeGroup
  | openBlock
  | closeBlock
  | identifier
  | literal
  | equals
  | star
  | colon
  | caret
  | atSign
  | dot
  | pipe
  | percent
  | semicolon
  deriving DecidableEq

namespace TokenType

def all : List TokenType :=
  [comment, openGroup, closeGroup, openBlock, closeBlock, identifier, literal, equals, star,
    colon, caret, atSign, dot, pipe, percent, semicolon]

theorem mem_all (type : TokenType) : type ∈ all := by
  cases type <;> decide

def name : TokenType → String
  | comment => "COMMENT"
  | openGroup => "OPEN_GROUP"
  | closeGroup => "CLOSE_GROUP"
  | openBlock => "OPEN_BLOCK"
  | closeBlock => "CLOSE_BLOCK"
  | identifier => "IDENTIFIER"
  | literal => "LITERAL"
  | equals => "EQUALS"
  | star => "STAR"
  | colon => "COLON"
  | caret => "CARET"
  | atSign => "AT"
  | dot => "DOT"
  | pipe => "PIPE"
  | percent => "PERCENT"
  | semicolon => "SEMICOLON"

/-- The type of a token that one character makes up. -/
def ofPunctuation? : Char → Option TokenType
  | '(' => some openGroup
  | ')' => some closeGroup
  | '{' => some openBlock
  | '}' => some closeBlock
  | '=' => some equals
  | '*' => some star
  | ':' => some colon
  | '^' => some caret
  | '@' => some atSign
  | '.' => some dot
  | '|' => some pipe
  | '%' => some percent
  | ';' => some semicolon
  | _ => none

/-- The label under which a dump shows the quoted value; other tokens are shown bare. -/
def label? : TokenType → Option String
  | comment => some "COMMENT"
  | identifier => some "ID"
  | literal => some "LITT"
  | _ => none

end TokenType

/-- A token with its payload: the text of a comment with its `#`, a name, the decoded text of
a literal, or the punctuation character. -/
structure Token where
  type : TokenType
  value : String
  location : Location
  deriving DecidableEq

namespace Token

def dump (token : Token) : String :=
  match token.type.label? with
  | some label => token.location.lead ++ label ++ "[" ++ quoted token.value ++ "]"
  | none => token.location.lead ++ " " ++ token.value

def summary (token : Token) : String :=
  "Token(" ++ token.type.name ++ ", " ++ quoted token.value ++ ", " ++
    String.ofList (Decimal.signed token.location.line) ++ ":" ++
    String.ofList (Decimal.signed token.location.column) ++ ")"

end Token

end StateDescription
