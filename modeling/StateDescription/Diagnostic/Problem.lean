import StateDescription.Location

/-!
What can be wrong with a state description: problems of its characters, problems of its
structure, and the wording of each.
-/

namespace StateDescription

/-- A problem of the characters of a source. -/
inductive LexicalProblem
  | unfinishedLiteral (delimiter : String)
  | unknownEscape (char : String)
  | unknownToken (char : String)
  | other (message : String)
  deriving DecidableEq

namespace LexicalProblem

def message : LexicalProblem → String
  | unfinishedLiteral delimiter => "Unfinished literal: missing closing '" ++ delimiter ++ "'"
  | unknownEscape char => "Unknown escape sequence: '\\" ++ char ++ "'"
  | unknownToken char => "Unknown token: '" ++ char ++ "'"
  | other message => message

end LexicalProblem

/-- A problem of the structure of a source. -/
inductive SemanticProblem
  | duplicateTransition (origin target : String) (previous : Option Location)
  | undefinedIdentifier (identifier : String)
  | unclosed (identifier : String)
  | unattachedModifier (token : String)
  | duplicateAttribute (token : String)
  | duplicateWriteMode (token : String)
  | unbalancedGroup (token : String)
  | unbalancedBlock (token : String)
  | literalOutsideGroup (text : String)
  | expectedIdentifier (token : String)
  | reservedTokenUnused (token : String)
  | unexpectedEndOfStatement (token : String)
  | other (message : String)
  deriving DecidableEq

namespace SemanticProblem

/-- A transition that repeats an origin cites the place of the earlier one. -/
def message : SemanticProblem → String
  | duplicateTransition origin target previous =>
    "Duplicate transition: '" ++ origin ++ " => " ++ target ++ " (" ++
      (previous.map Location.lead).getD "" ++ "already defined here)'"
  | undefinedIdentifier identifier => "Undefined identifier: '" ++ identifier ++ "'"
  | unclosed identifier => "Unclosed object: '" ++ identifier ++ "'"
  | unattachedModifier token => "Unattached object specifier: '" ++ token ++ "'"
  | duplicateAttribute token => "Duplicate object specifier: '" ++ token ++ "'"
  | duplicateWriteMode token => "Duplicate write mode: '" ++ token ++ "'"
  | unbalancedGroup token => "Unbalanced group: '" ++ token ++ "'"
  | unbalancedBlock token => "Unbalanced block: '" ++ token ++ "'"
  | literalOutsideGroup text => "Literal outside of a value group: '" ++ text ++ "'"
  | expectedIdentifier token => "Expected identifier before '" ++ token ++ "'"
  | reservedTokenUnused token => "Reserved token has no meaning: '" ++ token ++ "'"
  | unexpectedEndOfStatement token => "Unexpected end of statement: '" ++ token ++ "'"
  | other message => message

end SemanticProblem

/-- Any problem. A `compilation` sums up the diagnostics of a whole source. -/
inductive Problem
  | lexical (problem : LexicalProblem)
  | semantic (problem : SemanticProblem)
  | general (message : String)
  | compilation (report : String)
  deriving DecidableEq

namespace Problem

def message : Problem → String
  | lexical problem => problem.message
  | semantic problem => problem.message
  | general message => message
  | compilation report => report

def isLexical : Problem → Bool
  | lexical _ => true
  | _ => false

/-- The kinds of problems, without what a problem is about. -/
inductive Kind
  | general
  | lexical
  | unfinishedLiteral
  | unknownEscape
  | unknownToken
  | semantic
  | duplicateTransition
  | undefinedIdentifier
  | unclosed
  | unattachedModifier
  | duplicateAttribute
  | duplicateWriteMode
  | unbalancedGroup
  | unbalancedBlock
  | literalOutsideGroup
  | expectedIdentifier
  | reservedTokenUnused
  | unexpectedEndOfStatement
  | compilation
  deriving DecidableEq

namespace Kind

def name : Kind → String
  | general => "FrontendError"
  | lexical => "LexError"
  | unfinishedLiteral => "UnfinishedLiteralError"
  | unknownEscape => "UnknownEscapeError"
  | unknownToken => "UnknownTokenError"
  | semantic => "SemanticError"
  | duplicateTransition => "DuplicateTransitionError"
  | undefinedIdentifier => "UndefinedIdentifierError"
  | unclosed => "UnclosedError"
  | unattachedModifier => "UnattachedModifierError"
  | duplicateAttribute => "DuplicateAttributeError"
  | duplicateWriteMode => "DuplicateWriteModeError"
  | unbalancedGroup => "UnbalancedGroupError"
  | unbalancedBlock => "UnbalancedBlockError"
  | literalOutsideGroup => "LiteralOutsideGroupError"
  | expectedIdentifier => "ExpectedIdentifierError"
  | reservedTokenUnused => "ReservedTokenUnusedError"
  | unexpectedEndOfStatement => "UnexpectedEndOfStatementError"
  | compilation => "FrontendCompilationError"

/-- The wider kinds that a kind belongs to, the narrowest first. -/
def wider : Kind → List Kind
  | general => []
  | lexical | semantic | compilation => [general]
  | unfinishedLiteral | unknownEscape | unknownToken => [lexical, general]
  | duplicateAttribute | duplicateWriteMode => [unattachedModifier, semantic, general]
  | duplicateTransition | undefinedIdentifier | unclosed | unattachedModifier
  | unbalancedGroup | unbalancedBlock | literalOutsideGroup | expectedIdentifier
  | reservedTokenUnused | unexpectedEndOfStatement => [semantic, general]

end Kind

end Problem

def LexicalProblem.kind : LexicalProblem → Problem.Kind
  | unfinishedLiteral _ => .unfinishedLiteral
  | unknownEscape _ => .unknownEscape
  | unknownToken _ => .unknownToken
  | other _ => .lexical

def SemanticProblem.kind : SemanticProblem → Problem.Kind
  | duplicateTransition .. => .duplicateTransition
  | undefinedIdentifier _ => .undefinedIdentifier
  | unclosed _ => .unclosed
  | unattachedModifier _ => .unattachedModifier
  | duplicateAttribute _ => .duplicateAttribute
  | duplicateWriteMode _ => .duplicateWriteMode
  | unbalancedGroup _ => .unbalancedGroup
  | unbalancedBlock _ => .unbalancedBlock
  | literalOutsideGroup _ => .literalOutsideGroup
  | expectedIdentifier _ => .expectedIdentifier
  | reservedTokenUnused _ => .reservedTokenUnused
  | unexpectedEndOfStatement _ => .unexpectedEndOfStatement
  | other _ => .semantic

def Problem.kind : Problem → Kind
  | lexical problem => problem.kind
  | semantic problem => problem.kind
  | general _ => .general
  | compilation _ => .compilation

end StateDescription
