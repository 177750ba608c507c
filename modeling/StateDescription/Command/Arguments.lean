import StateDescription.Command.Usage

/-!
Arguments of the command: options in long and short form, and operands. Options and operands
may come in any order; everything after `--` is an operand.
-/

namespace StateDescription

inductive Switch
  | tokens
  | json
  | ignoreFaults
  | verbose
  | version
  | help
  deriving DecidableEq

/-- What an option asks for: a switch to be set, or the output file as its value. -/
inductive OptionMeaning
  | switch (switch : Switch)
  | output

namespace OptionMeaning

def ofLong? : String → Option OptionMeaning
  | "--output" => some output
  | "--tokens" => some (switch .tokens)
  | "--json" => some (switch .json)
  | "--ignore-lex-errors" => some (switch .ignoreFaults)
  | "--verbose" => some (switch .verbose)
  | "--version" => some (switch .version)
  | "--help" => some (switch .help)
  | _ => none

def ofShort? : Char → Option OptionMeaning
  | 'o' => some output
  | 'v' => some (switch .verbose)
  | _ => none

end OptionMeaning

/-- What was read of the arguments. Of several output files the last one counts. -/
structure Arguments where
  switches : List Switch
  output : Option String
  operands : List String
  deriving DecidableEq

namespace Arguments

def empty : Arguments :=
  ⟨[], none, []⟩

def has (arguments : Arguments) (switch : Switch) : Bool :=
  arguments.switches.contains switch

def addSwitch (switch : Switch) (arguments : Arguments) : Arguments :=
  { arguments with switches := arguments.switches ++ [switch] }

def setOutput (path : String) (arguments : Arguments) : Arguments :=
  { arguments with output := some path }

def addOperand (operand : String) (arguments : Arguments) : Arguments :=
  { arguments with operands := arguments.operands ++ [operand] }

/-- What the next argument is read as: anything, the value of an option, or an operand. -/
inductive Expectation
  | anything
  | valueOf (option : String)
  | operand
  deriving DecidableEq

/-- An option in long form, whose value may follow an equals sign. -/
def readLong (option : String) (meaning : OptionMeaning) (value : Option String)
    (arguments : Arguments) : Except UsageError (Arguments × Expectation) :=
  match meaning, value with
  | .switch switch, none => .ok (arguments.addSwitch switch, .anything)
  | .switch _, some _ => .error (.valueUnwanted option)
  | .output, some value => .ok (arguments.setOutput value, .anything)
  | .output, none => .ok (arguments, .valueOf option)

/-- Options in short form, one a letter. What follows the output option is its value. -/
def readShort : List Char → Arguments → Except UsageError (Arguments × Expectation)
  | [], arguments => .ok (arguments, .anything)
  | c :: cs, arguments =>
    match OptionMeaning.ofShort? c with
    | none => .error (.noSuchOption (String.ofList ['-', c]))
    | some (.switch switch) => readShort cs (arguments.addSwitch switch)
    | some .output =>
      if cs.isEmpty then .ok (arguments, .valueOf (String.ofList ['-', c]))
      else .ok (arguments.setOutput (String.ofList cs), .anything)

/-- An argument of more than a dash that starts with one. -/
def readOption (c : Char) (cs : List Char) (arguments : Arguments) :
    Except UsageError (Arguments × Expectation) :=
  let whole := '-' :: c :: cs
  let option := String.ofList (whole.takeWhile (· ≠ '='))
  let value :=
    match whole.dropWhile (· ≠ '=') with
    | [] => none
    | _ :: value => some (String.ofList value)
  match OptionMeaning.ofLong? option with
  | some meaning => arguments.readLong option meaning value
  | none =>
    if c = '-' then .error (.noSuchOption option) else readShort (c :: cs) arguments

def readOne (argument : String) (arguments : Arguments) :
    Expectation → Except UsageError (Arguments × Expectation)
  | .operand => .ok (arguments.addOperand argument, .operand)
  | .valueOf _ => .ok (arguments.setOutput argument, .anything)
  | .anything =>
    match argument.toList with
    | ['-', '-'] => .ok (arguments, .operand)
    | '-' :: c :: cs => arguments.readOption c cs
    | _ => .ok (arguments.addOperand argument, .anything)

def readAll (arguments : Arguments) (expectation : Expectation) :
    List String → Except UsageError Arguments
  | [] =>
    match expectation with
    | .valueOf option => .error (.valueMissing option)
    | _ => .ok arguments
  | argument :: later => do
    let (arguments, expectation) ← arguments.readOne argument expectation
    readAll arguments expectation later

def read (arguments : List String) : Except UsageError Arguments :=
  readAll empty .anything arguments

/-- Help or version, whichever is asked for first. -/
def notice? (arguments : Arguments) : Option String :=
  arguments.switches.findSome? fun
    | .version => some Usage.version
    | .help => some Usage.help
    | _ => none

end Arguments

end StateDescription
