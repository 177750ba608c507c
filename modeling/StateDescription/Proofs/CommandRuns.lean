import StateDescription.Proofs.FileSystems
import StateDescription.Proofs.OutputLines

/-!
Runs of the command on one file. A call that finds its file checks the text in it. A run breaks
off on bytes that are no text, and on an output file that cannot be opened for writing; else it
tells the result of the check.
-/

namespace StateDescription

/-! ### Reading the source -/

/-- The source that a text of a file is. -/
def sourceOf (text : String) : String :=
  String.ofList (LineEnding.unified text.toList)

theorem ofName?_utf8 : Encoding.ofName? "utf-8" = some .utf8 := by
  decide +kernel

theorem textOfBytes_toUTF8 (text : String) : textOfBytes "utf-8" text.toUTF8 = .ok (sourceOf text) := by
  have decoded : String.fromUTF8? text.toUTF8 = some text := dif_pos text.isValidUTF8
  rw [textOfBytes, ofName?_utf8]
  dsimp only
  rw [Encoding.decode, Encoding.decodeUtf8, decoded]
  rfl

theorem exists_textOfBytes_eq_error {bytes : ByteArray} (broken : ¬bytes.IsValidUTF8) :
    ∃ error, textOfBytes "utf-8" bytes = .error (.undecodable error) := by
  have refused : String.fromUTF8? bytes = none := dif_neg broken
  rw [textOfBytes, ofName?_utf8]
  dsimp only
  rw [Encoding.decode, Encoding.decodeUtf8, refused]
  exact ⟨_, rfl⟩

theorem escape_not_mem_sourceOf {text : String} (plain : '\x1b' ∉ text.toList) :
    '\x1b' ∉ (sourceOf text).toList := by
  rw [sourceOf, String.toList_ofList]
  intro member
  rcases LineEnding.mem_of_mem_unified member with found | lineFeed
  · exact plain found
  · cases lineFeed

theorem checkStrictly_of_lenient {options : CheckOptions}
    (lenient : options.failsOnDiagnostics = false) (file source : String) :
    checkStrictly options file source = .ok (check options file source) := by
  unfold checkStrictly
  dsimp only
  split
  · rw [lenient, if_neg Bool.false_ne_true]
  · rfl

namespace Request

theorem output_ofArguments {arguments : Arguments} (input : String) {output : Option String}
    (named : arguments.output = output) :
    (ofArguments arguments input).output = output.map Path.normalised :=
  congrArg (Option.map Path.normalised) named

/-- The result of the check that a request asks for, on a source with this text. -/
def resultOn (request : Request) (text : String) : CheckResult :=
  check request.checkOptions request.input (sourceOf text)

theorem checkBytes_toUTF8 (request : Request) (text : String) :
    checkBytes request.checkOptions request.input text.toUTF8 = .ok (request.resultOn text) := by
  have decoded : textOfBytes request.checkOptions.encoding text.toUTF8 = .ok (sourceOf text) :=
    textOfBytes_toUTF8 text
  rw [checkBytes, decoded]
  dsimp only
  rw [checkStrictly_of_lenient rfl]
  rfl

theorem exists_checkBytes_eq_error (request : Request) {bytes : ByteArray}
    (broken : ¬bytes.IsValidUTF8) :
    ∃ error, checkBytes request.checkOptions request.input bytes =
      .error (.undecodable (.undecodable error)) := by
  obtain ⟨error, refused⟩ := exists_textOfBytes_eq_error broken
  have refused : textOfBytes request.checkOptions.encoding bytes = .error (.undecodable error) :=
    refused
  rw [checkBytes, refused]
  exact ⟨error, rfl⟩

end Request

namespace Request

theorem exitCode_finished (request : Request) (result : CheckResult) (shown : String) :
    (request.finished result shown).exitCode =
      if result.table.hasDiagnostics then .diagnosed else .success := by
  unfold finished CheckResult.succeeded
  cases result.table.hasDiagnostics <;> rfl

/-- Nothing but what is shown of the table, where JSON is asked for and no items are. -/
theorem stdout_finished {request : Request} (json : request.json = true)
    (noItems : request.tokens = false) (text shown : String) :
    (request.finished (request.resultOn text) shown).stdout = shown := by
  have none : itemsText (request.resultOn text) = "" := by
    unfold itemsText resultOn check checkOptions
    rw [noItems]
    rfl
  unfold finished parsedText
  rw [none, json]
  simp

theorem stderr_finished {request : Request} (quiet : request.verbose = false)
    (result : CheckResult) (shown : String) :
    (request.finished result shown).stderr = request.resultText result := by
  unfold finished opening traceText ifVerbose
  rw [quiet]
  simp

end Request

/-! ### Runs in a file system -/

theorem run_bind_of_run_eq {σ α β : Type} {first : StateM σ α} {next : α → StateM σ β}
    {before after : σ} {answer : α} (ran : first.run before = (answer, after)) :
    (first >>= next).run before = (next answer).run after := by
  rw [StateT.run_bind, ran]
  rfl

section Runs

variable {σ : Type} [FileAccess (StateM σ)] {files : σ} {bytes : ByteArray}

/-- A call with one operand, under which a content is found, and without a request for help or the
version. Its output file is no directory. -/
structure Arguments.Finds (arguments : Arguments) (files : σ) (input : String)
    (bytes : ByteArray) : Prop where
  quiet : arguments.has .version = false ∧ arguments.has .help = false
  operands : arguments.operands = [input]
  content : contentOf files input = .ok bytes
  notDirectory : ∀ path ∈ arguments.output, statusOf files path ≠ .ok .directory

namespace Arguments

variable {arguments : Arguments} {input : String}

theorem Finds.notice?_eq (finds : arguments.Finds files input bytes) :
    arguments.notice? = none := by
  unfold notice?
  rw [List.findSome?_eq_none_iff]
  intro switch member
  obtain ⟨noVersion, noHelp⟩ := finds.quiet
  have given : arguments.has switch = true := List.contains_iff_mem.2 member
  cases switch with
  | version => exact absurd given (Bool.eq_false_iff.1 noVersion)
  | help => exact absurd given (Bool.eq_false_iff.1 noHelp)
  | _ => rfl

variable [FileSystem σ]

theorem Finds.run_outputError? (finds : arguments.Finds files input bytes) :
    (arguments.outputError? : StateM σ _).run files = (none, files) := by
  unfold outputError?
  cases named : arguments.output with
  | none => rfl
  | some output =>
      dsimp only
      rw [run_bind_of_run_eq (FileSystem.run_status files output)]
      have other := finds.notDirectory output named
      split
      · rename_i directory
        exact absurd directory other
      · rfl

theorem Finds.run_request (finds : arguments.Finds files input bytes) :
    (arguments.request : StateM σ _).run files =
      (.ok (Request.ofArguments arguments input), files) := by
  rw [request, run_bind_of_run_eq finds.run_outputError?]
  dsimp only
  rw [finds.operands]
  dsimp only
  rw [run_bind_of_run_eq (FileSystem.run_status files input),
    FileSystem.status_of_content finds.content]
  rfl

end Arguments

/-! ### Runs of a request -/

variable [FileSystem σ]

theorem run_checkFile {options : CheckOptions} {path : String}
    (content : contentOf files (Path.normalised path) = .ok bytes)
    (named : options.encoding.toList.contains '\x00' = false) :
    (checkFile options path : StateM σ _).run files = (checkBytes options path bytes, files) := by
  rw [checkFile, run_bind_of_run_eq (FileSystem.run_status files _),
    FileSystem.status_of_content content]
  dsimp only
  rw [named, if_neg Bool.false_ne_true, run_bind_of_run_eq (FileSystem.run_read files _), content]
  rfl

namespace Request

def ranOn (request : Request) (files : σ) : Outcome × σ :=
  (request.run : StateM σ Outcome).run files

variable {request : Request}

theorem run_checkFile_input (content : contentOf files (Path.normalised request.input) = .ok bytes) :
    (checkFile request.checkOptions request.input : StateM σ _).run files =
      (checkBytes request.checkOptions request.input bytes, files) :=
  run_checkFile content (show "utf-8".toList.contains '\x00' = false by decide)

/-- A run on bytes that are no text shows nothing and changes nothing. -/
theorem ranOn_of_broken (content : contentOf files (Path.normalised request.input) = .ok bytes)
    (broken : ¬bytes.IsValidUTF8) :
    ∃ stderr, request.ranOn files = (⟨.invalid, "", stderr⟩, files) := by
  obtain ⟨error, failed⟩ := request.exists_checkBytes_eq_error broken
  rw [ranOn, run, run_bind_of_run_eq (run_checkFile_input content), failed]
  exact ⟨_, rfl⟩

variable {text : String}
variable (content : contentOf files (Path.normalised request.input) = .ok text.toUTF8)

include content

theorem run_checkFile_text :
    (checkFile request.checkOptions request.input : StateM σ _).run files =
      (.ok (request.resultOn text), files) := by
  rw [run_checkFile_input content, checkBytes_toUTF8]

theorem ranOn_of_no_output (none : request.output = none) :
    request.ranOn files =
      (request.finished (request.resultOn text)
        (if request.json then outputLine (tableText (request.resultOn text)) else ""), files) := by
  rw [ranOn, run, run_bind_of_run_eq (run_checkFile_text content)]
  dsimp only
  rw [none]
  rfl

theorem ranOn_of_writable {output : String} (named : request.output = some output)
    (writable : Writable files output) :
    request.ranOn files =
      (request.finished (request.resultOn text) (outputLine ("Wrote symbol table to " ++ output)),
        (written files output (tableText (request.resultOn text)).toUTF8).2) := by
  have taken := FileSystem.written_of_writable writable (tableText (request.resultOn text)).toUTF8
  rw [ranOn, run, run_bind_of_run_eq (run_checkFile_text content)]
  dsimp only
  rw [named]
  dsimp only
  rw [run_bind_of_run_eq (Prod.ext taken rfl : written files output _ = (.ok (), _))]
  rfl

theorem ranOn_of_refused {output : String} (named : request.output = some output)
    (refused : ¬Writable files output) :
    ∃ stdout stderr later, request.ranOn files = (⟨.invalid, stdout, stderr⟩, later) := by
  rw [ranOn, run, run_bind_of_run_eq (run_checkFile_text content)]
  dsimp only
  rw [named]
  dsimp only
  cases answer : (written files output (tableText (request.resultOn text)).toUTF8).1 with
  | ok => exact absurd ⟨_, answer⟩ refused
  | error error =>
      rw [run_bind_of_run_eq (Prod.ext answer rfl : written files output _ = (.error error, _))]
      exact ⟨_, _, _, rfl⟩

end Request

/-! ### Runs of the command -/

/-- The output file that arguments name cannot be opened for writing. -/
def Arguments.IsRefused (arguments : Arguments) (files : σ) : Prop :=
  ∃ path ∈ arguments.output, ¬Writable files (Path.normalised path)

/-- The table of a text in the input file of a call. -/
def Arguments.tableOn (arguments : Arguments) (input text : String) : SymbolTable :=
  SymbolTable.ofItems (!arguments.has .ignoreFaults) (scan (Path.normalised input) (sourceOf text))

/-- What the command leaves behind for some arguments, and the files behind it. -/
def runOn (files : σ) (line : List String) : Outcome × σ :=
  (runCommand line : StateM σ Outcome).run files

section Call

variable {line : List String} {arguments : Arguments} {input text : String}

theorem tableText_resultOn (arguments : Arguments) (input text : String) :
    Request.tableText ((Request.ofArguments arguments input).resultOn text) =
      (arguments.tableOn input text).jsonText (.indented 2) :=
  rfl

theorem Arguments.Finds.content_input (finds : arguments.Finds files input bytes) :
    contentOf files (Path.normalised (Request.ofArguments arguments input).input) = .ok bytes :=
  FileSystem.content_normalised (FileSystem.content_normalised finds.content)

variable (read : Arguments.read line = .ok arguments)

include read

theorem runOn_eq (finds : arguments.Finds files input bytes) :
    runOn files line = (Request.ofArguments arguments input).ranOn files := by
  rw [runOn, runCommand, read]
  dsimp only
  rw [finds.notice?_eq]
  dsimp only
  rw [run_bind_of_run_eq finds.run_request]
  rfl

theorem runOn_of_broken (finds : arguments.Finds files input bytes)
    (broken : ¬bytes.IsValidUTF8) :
    ∃ stderr, runOn files line = (⟨.invalid, "", stderr⟩, files) := by
  rw [runOn_eq read finds]
  exact Request.ranOn_of_broken finds.content_input broken

variable (finds : arguments.Finds files input text.toUTF8)

include finds

theorem runOn_of_no_output (none : arguments.output = none) :
    runOn files line =
      ((Request.ofArguments arguments input).finished
        ((Request.ofArguments arguments input).resultOn text)
        (if arguments.has .json then
          outputLine ((arguments.tableOn input text).jsonText (.indented 2)) else ""), files) := by
  have unnamed := Request.output_ofArguments input none
  rw [runOn_eq read finds, Request.ranOn_of_no_output finds.content_input unnamed,
    tableText_resultOn]
  rfl

variable {output : String} (named : arguments.output = some output)

include named

theorem runOn_of_writable (writable : Writable files (Path.normalised output)) :
    ∃ shown, runOn files line =
      ((Request.ofArguments arguments input).finished
          ((Request.ofArguments arguments input).resultOn text) shown,
        (written files (Path.normalised output)
          ((arguments.tableOn input text).jsonText (.indented 2)).toUTF8).2) := by
  have renamed := Request.output_ofArguments input named
  rw [runOn_eq read finds, Request.ranOn_of_writable finds.content_input renamed writable,
    tableText_resultOn]
  exact ⟨_, rfl⟩

theorem runOn_of_refused (refused : ¬Writable files (Path.normalised output)) :
    ∃ stdout stderr later, runOn files line = (⟨.invalid, stdout, stderr⟩, later) := by
  rw [runOn_eq read finds]
  exact Request.ranOn_of_refused finds.content_input (Request.output_ofArguments input named) refused

end Call

/-- A run breaks off on bytes that are no text and on an output file that cannot be opened, and
tells the result of the check otherwise. -/
theorem runOn_cases {line : List String} {arguments : Arguments} {input : String}
    (read : Arguments.read line = .ok arguments) (finds : arguments.Finds files input bytes) :
    (¬bytes.IsValidUTF8 ∧ ∃ stderr, runOn files line = (⟨.invalid, "", stderr⟩, files)) ∨
      ∃ text : String, text.toUTF8 = bytes ∧
        ((arguments.IsRefused files ∧ ∃ stdout stderr later,
            runOn files line = (⟨.invalid, stdout, stderr⟩, later)) ∨
          ¬arguments.IsRefused files ∧ ∃ shown later, runOn files line =
            ((Request.ofArguments arguments input).finished
              ((Request.ofArguments arguments input).resultOn text) shown, later)) := by
  by_cases valid : bytes.IsValidUTF8
  · right
    obtain ⟨text, rfl⟩ : ∃ text : String, text.toUTF8 = bytes :=
      ⟨String.fromUTF8 bytes valid, rfl⟩
    refine ⟨text, rfl, ?_⟩
    cases named : arguments.output with
    | none =>
        right
        refine ⟨?_, _, _, runOn_of_no_output read finds named⟩
        rintro ⟨path, member, -⟩
        rw [named] at member
        cases member
    | some output =>
        by_cases writable : Writable files (Path.normalised output)
        · right
          obtain ⟨shown, same⟩ := runOn_of_writable read finds named writable
          refine ⟨?_, shown, _, same⟩
          rintro ⟨path, member, refuses⟩
          rw [named] at member
          cases member
          exact refuses writable
        · left
          exact ⟨⟨output, named, writable⟩, runOn_of_refused read finds named writable⟩
  · left
    exact ⟨valid, runOn_of_broken read finds valid⟩

end Runs

end StateDescription
