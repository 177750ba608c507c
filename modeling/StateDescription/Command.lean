import StateDescription.Command.Arguments
import StateDescription.Command.Failure
import StateDescription.SymbolTable.Json

/-!
The command `sgc`: it checks one file, reports its diagnostics, and shows the items or the
symbol table on request.
-/

namespace StateDescription

/-- A call of the command whose paths were looked at. -/
structure Request where
  input : String
  output : Option String
  tokens : Bool
  json : Bool
  ignoresFaults : Bool
  verbose : Bool
  deriving DecidableEq

namespace Request

def ofArguments (arguments : Arguments) (input : String) : Request where
  input := Path.normalised input
  output := arguments.output.map Path.normalised
  tokens := arguments.has .tokens
  json := arguments.has .json
  ignoresFaults := arguments.has .ignoreFaults
  verbose := arguments.has .verbose

def checkOptions (request : Request) : CheckOptions where
  recordsFaults := !request.ignoresFaults
  keepsItems := request.tokens

def ifVerbose (request : Request) (text : String) : String :=
  if request.verbose then text else ""

def lines (texts : List String) : String :=
  String.join (texts.map outputLine)

def tableText (result : CheckResult) : String :=
  result.table.jsonText (.indented 2)

def opening (request : Request) : String :=
  request.ifVerbose (outputLine ("Processing " ++ request.input ++ "..."))

/-- The trace of the check, line by line as it is. -/
def traceText (request : Request) (result : CheckResult) : String :=
  request.ifVerbose
    (String.join ((result.traceLines ++ [result.closingLine]).map fun line =>
      "DEBUG: " ++ line ++ "\n"))

def itemsText (result : CheckResult) : String :=
  lines (result.items.map Item.dump)

/-- What stderr says about the result. -/
def resultText (request : Request) (result : CheckResult) : String :=
  let diagnostics := result.table.diagnostics
  lines (diagnostics.map Diagnostic.text) ++
    request.ifVerbose (outputLine
      ("Scanned: " ++ String.ofList (Decimal.digits result.itemCount) ++ " tokens")) ++
    if diagnostics.isEmpty then "" else outputLine (Diagnostic.countText diagnostics.length)

/-- The last line on stdout, left out where stdout is to hold JSON. -/
def parsedText (request : Request) (result : CheckResult) : String :=
  if request.json then ""
  else
    outputLine ("Parsed " ++ String.ofList (Decimal.digits result.table.objects.length) ++
      " objects, " ++ String.ofList (Decimal.digits result.table.values.length) ++
      " values from " ++ request.input)

/-- The outcome of a run that did not break off. `shown` is what stdout shows of the table. -/
def finished (request : Request) (result : CheckResult) (shown : String) : Outcome where
  exitCode := if result.succeeded then .success else .diagnosed
  stdout := itemsText result ++ shown ++ request.parsedText result
  stderr := request.opening ++ request.traceText result ++ request.resultText result

/-- The table is written where an output file is named, and shown as JSON otherwise if asked
for. -/
def run {m : Type → Type} [Monad m] [FileAccess m] (request : Request) : m Outcome := do
  match ← checkFile request.checkOptions request.input with
  | .error error =>
    return ⟨error.failure.exitCode, "",
      request.opening ++ error.failure.text request.verbose⟩
  | .ok result =>
    match request.output with
    | some output =>
      match ← FileAccess.write output (tableText result).toUTF8 with
      | .error error =>
        let failure := Failure.unusableFile error.message
        return ⟨failure.exitCode, itemsText result,
          request.opening ++ request.traceText result ++ failure.text request.verbose⟩
      | .ok () =>
        return request.finished result (outputLine ("Wrote symbol table to " ++ output))
    | none =>
      return request.finished result
        (if request.json then outputLine (tableText result) else "")

end Request

namespace Arguments

/-- What is wrong with the output file: it must not be a directory. -/
def outputError? {m : Type → Type} [Monad m] [FileAccess m] (arguments : Arguments) :
    m (Option UsageError) := do
  match arguments.output with
  | none => return none
  | some output =>
    match ← FileAccess.status output with
    | .ok .directory => return some (.outputIsDirectory output)
    | _ => return none

/-- The request that arguments make, once the paths in them were looked at. -/
def request {m : Type → Type} [Monad m] [FileAccess m] (arguments : Arguments) :
    m (Except UsageError Request) := do
  match ← arguments.outputError? with
  | some error => return .error error
  | none =>
    match arguments.operands with
    | [] => return .error .inputMissing
    | input :: extra =>
      match ← FileAccess.status input with
      | .error _ => return .error (.inputNotFound input)
      | .ok .missing => return .error (.inputNotFound input)
      | .ok .directory => return .error (.inputIsDirectory input)
      | .ok .file =>
        if extra.isEmpty then return .ok (Request.ofArguments arguments input)
        else return .error (.extraArguments extra)

end Arguments

def UsageError.outcome (error : UsageError) : Outcome :=
  ⟨.invalid, "", error.text⟩

/-- Runs the command. Help and version come before all that concerns files. -/
def runCommand {m : Type → Type} [Monad m] [FileAccess m] (arguments : List String) :
    m Outcome := do
  match Arguments.read arguments with
  | .error error => return error.outcome
  | .ok arguments =>
    match arguments.notice? with
    | some notice => return ⟨.success, outputLine notice, ""⟩
    | none =>
      match ← arguments.request with
      | .error error => return error.outcome
      | .ok request => request.run

end StateDescription
