import StateDescription.Builder
import StateDescription.Cursor
import StateDescription.Text.Encoding
import StateDescription.Text.LineEnding

/-!
Checking a source: its items are scanned and built into a symbol table in one pass. Bad input
never fails a check; it shows in the diagnostics of the table.
-/

namespace StateDescription

structure CheckOptions where
  /-- Lexical faults become diagnostics; otherwise they are dropped. -/
  recordsFaults : Bool := true
  keepsItems : Bool := false
  /-- Kept items include the comments. -/
  keepsComments : Bool := true
  encoding : String := "utf-8"
  /-- A source with diagnostics counts as failed as a whole. -/
  failsOnDiagnostics : Bool := false

structure CheckResult where
  file : String
  table : SymbolTable
  /-- The items kept on request. -/
  items : List Item
  /-- The number of all items, comments and faults included. -/
  itemCount : Nat
  trace : Array Event

namespace CheckResult

def succeeded (result : CheckResult) : Bool :=
  !result.table.hasDiagnostics

def closingLine (result : CheckResult) : String :=
  result.file ++ ": " ++ String.ofList (Decimal.digits result.itemCount) ++ " tokens, " ++
    String.ofList (Decimal.digits result.table.objects.length) ++ " objects, " ++
    String.ofList (Decimal.digits result.table.diagnostics.length) ++ " diagnostics"

/-- The trace of the build as lines, without the closing line. -/
def traceLines (result : CheckResult) : List String :=
  result.trace.toList.map Event.text

def summary? (result : CheckResult) : Option Diagnostic :=
  Diagnostic.summary? result.table.diagnostics

end CheckResult

def check (options : CheckOptions) (file source : String) : CheckResult :=
  let items := scan file source
  let builder := Builder.build options.recordsFaults items
  { file := file
    table := builder.table
    items :=
      if options.keepsItems then
        items.filter fun item => options.keepsComments || !item.isComment
      else []
    itemCount := items.length
    trace := builder.trace }

/-- A check that may fail as a whole, with a summary of all diagnostics. -/
def checkStrictly (options : CheckOptions) (file source : String) :
    Except Diagnostic CheckResult :=
  let result := check options file source
  match result.summary? with
  | some summary => if options.failsOnDiagnostics then .error summary else .ok result
  | none => .ok result

inductive TextError
  | unknownEncoding (name : String)
  | nullInEncodingName
  | undecodable (error : Encoding.DecodeError)

def TextError.message : TextError → String
  | unknownEncoding name => "unknown encoding: " ++ name
  | nullInEncodingName => "embedded null character"
  | undecodable error => error.message

/-- The text of a file, with its line endings unified. -/
def textOfBytes (encoding : String) (bytes : ByteArray) : Except TextError String :=
  match Encoding.ofName? encoding with
  | none => .error (.unknownEncoding encoding)
  | some encoding =>
    match encoding.decode bytes with
    | .error error => .error (.undecodable error)
    | .ok text => .ok (String.ofList (LineEnding.unified text.toList))

end StateDescription
