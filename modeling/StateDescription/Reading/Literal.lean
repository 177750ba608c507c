/-!
Quoted literals. A backslash and the character after it form one escape, so an escaped quote
ends no literal; an escape without a meaning spoils the literal and does not end it either.
-/

namespace StateDescription.Literal

def isQuote (c : Char) : Bool :=
  c == '\'' || c == '"'

def escaped? : Char → Option Char
  | 'n' => some '\n'
  | 't' => some '\t'
  | 'r' => some '\r'
  | '\\' => some '\\'
  | '"' => some '"'
  | '\'' => some '\''
  | _ => none

/-- What stands between two quotes: a text, or the first escape that has no meaning. -/
inductive Body
  | text (cs : List Char)
  | unknownEscape (c : Char)
  deriving DecidableEq

namespace Body

def plain (c : Char) : Body → Body
  | text cs => text (c :: cs)
  | unknownEscape bad => unknownEscape bad

def escape (c : Char) (body : Body) : Body :=
  match escaped? c with
  | some meant => body.plain meant
  | none => unknownEscape c

end Body

/-- A literal behind its opening quote: its body, its characters with the closing quote, and
what follows. -/
structure Closed where
  body : Body
  span : List Char
  rest : List Char

/-- Reads up to the closing quote, if there is one. -/
def close? (quote : Char) : List Char → Option Closed
  | [] => none
  | c :: cs =>
    if c = quote then some ⟨.text [], [c], cs⟩
    else if c = '\\' then
      match cs with
      | [] => none
      | e :: cs =>
        (close? quote cs).map fun closed =>
          ⟨closed.body.escape e, c :: e :: closed.span, closed.rest⟩
    else
      (close? quote cs).map fun closed =>
        ⟨closed.body.plain c, c :: closed.span, closed.rest⟩

theorem span_append_rest_of_close? {quote : Char} {cs : List Char} {closed : Closed}
    (h : close? quote cs = some closed) : closed.span ++ closed.rest = cs := by
  fun_induction close? quote cs generalizing closed with
  | case1 => cases h
  | case2 => cases h; rfl
  | case3 => cases h
  | case4 e cs _ ih =>
      obtain ⟨inner, found, rfl⟩ := Option.map_eq_some_iff.1 h
      simp [ih found]
  | case5 c cs _ _ ih =>
      obtain ⟨inner, found, rfl⟩ := Option.map_eq_some_iff.1 h
      simp [ih found]

end StateDescription.Literal
