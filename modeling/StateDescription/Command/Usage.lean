import StateDescription.Text.ControlSequence
import StateDescription.Text.Quoted

/-!
How the command is used: its help text, and what is wrong with a call.
-/

namespace StateDescription

/-- A line of output. It goes to no terminal, so it is freed of control sequences. -/
def outputLine (text : String) : String :=
  String.ofList (ControlSequence.stripped text.toList) ++ "\n"

namespace Usage

def synopsis : String :=
  "Usage: sgc [OPTIONS] INPUT_FILE"

def helpLines : List String :=
  [synopsis,
    "",
    "  Check a state description file and build its symbol table.",
    "",
    "  INPUT_FILE is the state description source (.sg) to process.",
    "",
    "  Every diagnostic is printed to stderr as 'file:line:column -->  message'.",
    "  Verbose progress lines also go to stderr, so stdout stays valid JSON with",
    "  --json. The exit status is 1 when any diagnostic was reported.",
    "",
    "  Examples:",
    "      sgc machine.sg                # Report diagnostics",
    "      sgc --tokens machine.sg       # Dump tokens",
    "      sgc --json machine.sg         # Print the table as JSON",
    "      sgc machine.sg -o out.json    # Write the table to a file",
    "",
    "Options:",
    "  -o, --output FILE    Write the symbol table as JSON to this file",
    "  --tokens             Dump every scanned token, one per line",
    "  --json               Print the symbol table as JSON",
    "  --ignore-lex-errors  Drop lexical errors instead of reporting them",
    "  -v, --verbose        Verbose output",
    "  --version            Show the version and exit.",
    "  --help               Show this message and exit."]

def help : String :=
  String.intercalate "\n" helpLines

def version : String :=
  "sgc, version 1.0.0"

end Usage

inductive UsageError
  | noSuchOption (option : String)
  | valueMissing (option : String)
  | valueUnwanted (option : String)
  | inputMissing
  | inputNotFound (path : String)
  | inputIsDirectory (path : String)
  | outputIsDirectory (path : String)
  | extraArguments (arguments : List String)
  deriving DecidableEq

namespace UsageError

def message : UsageError → String
  | noSuchOption option => "No such option " ++ quoted option ++ "."
  | valueMissing option => "Option " ++ quoted option ++ " requires an argument."
  | valueUnwanted option => "Option " ++ quoted option ++ " does not take a value."
  | inputMissing => "Missing argument 'INPUT_FILE'."
  | inputNotFound path =>
    "Invalid value for 'INPUT_FILE': File " ++ quoted path ++ " does not exist."
  | inputIsDirectory path =>
    "Invalid value for 'INPUT_FILE': File " ++ quoted path ++ " is a directory."
  | outputIsDirectory path =>
    "Invalid value for '-o' / '--output': File " ++ quoted path ++ " is a directory."
  | extraArguments arguments =>
    "Got unexpected extra argument" ++ (if arguments.length = 1 then "" else "s") ++ " (" ++
      String.intercalate " " arguments ++ ")"

/-- Whether the synopsis is shown in front of the message. -/
def showsSynopsis : UsageError → Bool
  | valueMissing _ => false
  | valueUnwanted _ => false
  | _ => true

def text (error : UsageError) : String :=
  (if error.showsSynopsis then
    outputLine (Usage.synopsis ++ "\nTry 'sgc --help' for help.\n")
  else "") ++
    outputLine ("Error: " ++ error.message)

end UsageError

end StateDescription
