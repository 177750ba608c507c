import StateDescription.Proofs.Outcomes

/-!
Well-formed programs. A program is a series of declarations, and each declares an object with a
group of literals or with a block of statements and further declarations. Tokens keep their
texts and places, so a program spells one list of items, up to comments.
-/

namespace StateDescription

def Modifier.item (modifier : Modifier) : Item :=
  .token modifier.toToken

namespace Grammar

/-- A token apart from its type. -/
structure Word where
  text : String
  location : Location

def Word.item (type : TokenType) (word : Word) : Item :=
  .token ⟨type, word.text, word.location⟩

/-- A declared name and its modifiers. No role is given twice. -/
structure Head where
  before : List Modifier
  name : Word
  after : List Modifier
  once : ((before ++ after).map Modifier.role).Nodup

namespace Head

def modifiers (head : Head) : List Modifier :=
  head.before ++ head.after

def items (head : Head) : List Item :=
  head.before.map Modifier.item ++
    head.name.item .identifier :: head.after.map Modifier.item

end Head

/-- A name, or `@`. -/
inductive Reference
  | name (word : Word)
  | broadcast (sign : Word)

namespace Reference

def text : Reference → String
  | name word => word.text
  | broadcast _ => "@"

def location : Reference → Location
  | name word => word.location
  | broadcast sign => sign.location

def item : Reference → Item
  | name word => word.item .identifier
  | broadcast sign => sign.item .atSign

end Reference

/-- Where a transition leads: somewhere, or with `.` nowhere. -/
inductive Target
  | place (reference : Reference)
  | stay (dot : Word)

namespace Target

def text : Target → String
  | place reference => reference.text
  | stay _ => "."

def item : Target → Item
  | place reference => reference.item
  | stay dot => dot.item .dot

end Target

/-- The `%` or `^` of a statement. -/
inductive Mark
  | before (sign : Word)
  | never (sign : Word)

namespace Mark

def mode : Mark → WriteMode
  | before _ => .before
  | never _ => .never

def item : Mark → Item
  | before sign => sign.item .percent
  | never sign => sign.item .caret

end Mark

structure Statement where
  origin : Reference
  equals : Word
  mark : Option Mark
  target : Target
  semicolon : Word

namespace Statement

/-- The write mode that the mark selects. -/
def mode (statement : Statement) : WriteMode :=
  match statement.mark with
  | none => .after
  | some mark => mark.mode

def transition (statement : Statement) : Transition where
  location := some statement.origin.location
  origin := statement.origin.text
  target := statement.target.text
  mode := statement.mode

def items (statement : Statement) : List Item :=
  statement.origin.item :: statement.equals.item .equals ::
    (statement.mark.toList.map Mark.item ++
      [statement.target.item, statement.semicolon.item .semicolon])

end Statement

mutual

inductive Declaration
  | group (head : Head) (opening : Word) (literals : List Word) (closing : Word)
  | block (head : Head) (opening : Word) (body : Body) (closing : Word)

inductive Body
  | empty
  | statement (statement : Statement) (rest : Body)
  | declaration (declaration : Declaration) (rest : Body)

end

mutual

def Declaration.items : Declaration → List Item
  | .group head opening literals closing =>
    head.items ++ opening.item .openGroup ::
      (literals.map (Word.item .literal) ++ [closing.item .closeGroup])
  | .block head opening body closing =>
    head.items ++ opening.item .openBlock :: (body.items ++ [closing.item .closeBlock])

def Body.items : Body → List Item
  | .empty => []
  | .statement statement rest => statement.items ++ rest.items
  | .declaration declaration rest => declaration.items ++ rest.items

end

/-- The items spell the declarations, with comments anywhere between. -/
def Spells (items : List Item) (program : List Declaration) : Prop :=
  items.filter (fun item => !item.isComment) = program.flatMap Declaration.items

end Grammar

end StateDescription
