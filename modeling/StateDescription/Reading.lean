import StateDescription.Item
import StateDescription.Reading.Literal
import StateDescription.Text.Alphanumeric

/-!
Reading the lexeme at the head of a text. A reading keeps the characters that the lexeme
spans and the characters that follow, and together they are the text that was read.
-/

namespace StateDescription

/-- A token or a problem, without a place. -/
inductive Lexeme
  | token (type : TokenType) (value : String)
  | problem (problem : LexicalProblem)
  deriving DecidableEq

def Lexeme.at (location : Location) : Lexeme → Item
  | token type value => .token ⟨type, value, location⟩
  | problem p => .fault ⟨p, some location⟩

structure Reading where
  lexeme : Lexeme
  span : List Char
  rest : List Char

namespace Reading

def staysOnLine (c : Char) : Bool :=
  c != '\n'

/-- A comment ends before the line feed, which it spans nevertheless. -/
def comment (cs : List Char) : Reading :=
  let text := '#' :: cs.takeWhile staysOnLine
  let lexeme := .token .comment (String.ofList text)
  match cs.dropWhile staysOnLine with
  | [] => ⟨lexeme, text, []⟩
  | lineFeed :: rest => ⟨lexeme, text ++ [lineFeed], rest⟩

def identifier (c : Char) (cs : List Char) : Reading :=
  let name := c :: cs.takeWhile isAlphanumeric
  ⟨.token .identifier (String.ofList name), name, cs.dropWhile isAlphanumeric⟩

/-- A literal that is never closed takes up the whole text. -/
def literal (quote : Char) (cs : List Char) : Reading :=
  match Literal.close? quote cs with
  | some ⟨.text text, span, rest⟩ =>
    ⟨.token .literal (String.ofList text), quote :: span, rest⟩
  | some ⟨.unknownEscape c, span, rest⟩ =>
    ⟨.problem (.unknownEscape (String.singleton c)), quote :: span, rest⟩
  | none => ⟨.problem (.unfinishedLiteral (String.singleton quote)), quote :: cs, []⟩

def single (c : Char) (cs : List Char) : Reading :=
  match TokenType.ofPunctuation? c with
  | some type => ⟨.token type (String.singleton c), [c], cs⟩
  | none => ⟨.problem (.unknownToken (String.singleton c)), [c], cs⟩

/-- Reads at the first character of a text. -/
def ofText (c : Char) (cs : List Char) : Reading :=
  if c = '#' then comment cs
  else if isAlphanumeric c then identifier c cs
  else if Literal.isQuote c then literal c cs
  else single c cs

theorem span_append_rest_comment (cs : List Char) :
    (comment cs).span ++ (comment cs).rest = '#' :: cs := by
  have whole : cs.takeWhile staysOnLine ++ cs.dropWhile staysOnLine = cs :=
    List.takeWhile_append_dropWhile
  unfold comment
  split
  · rename_i ended
    rw [ended, List.append_nil] at whole
    simp [whole]
  · rename_i lineFeed rest ended
    rw [ended] at whole
    simp [whole]

theorem span_append_rest_literal (quote : Char) (cs : List Char) :
    (literal quote cs).span ++ (literal quote cs).rest = quote :: cs := by
  unfold literal
  split
  · rename_i closed
    simpa using Literal.span_append_rest_of_close? closed
  · rename_i closed
    simpa using Literal.span_append_rest_of_close? closed
  · simp

/-- Nothing is lost and nothing invented. -/
theorem span_append_rest (c : Char) (cs : List Char) :
    (ofText c cs).span ++ (ofText c cs).rest = c :: cs := by
  unfold ofText
  split
  · rename_i hash
    rw [hash]
    exact span_append_rest_comment cs
  · split
    · simp [identifier]
    · split
      · exact span_append_rest_literal c cs
      · unfold single
        split <;> rfl

theorem span_ne_nil (c : Char) (cs : List Char) : (ofText c cs).span ≠ [] := by
  unfold ofText comment identifier literal single
  repeat' split
  all_goals simp

theorem length_rest_lt (c : Char) (cs : List Char) :
    (ofText c cs).rest.length < (c :: cs).length := by
  have whole := congrArg List.length (span_append_rest c cs)
  have some_span := List.length_pos_iff.2 (span_ne_nil c cs)
  simp only [List.length_append] at whole
  omega

end Reading

end StateDescription
