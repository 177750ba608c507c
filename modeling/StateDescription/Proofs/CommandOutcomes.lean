import StateDescription.Proofs.CommandRuns

/-!
What a run of the command leaves behind: its exit code, what it says about the table of the source,
and the table in JSON, on stdout or in a file.
-/

namespace StateDescription

section Calls

variable {σ : Type} [FileAccess (StateM σ)] [FileSystem σ] {files : σ} {bytes : ByteArray}

end Calls

/-- Two sources: a reserved token, and a control sequence in a literal outside of a group. -/
def sampleFiles : FileTree :=
  .ofEntries [("plain.sg", .file "|".toUTF8), ("escape.sg", .file "'\x1b[0m'".toUTF8)]

section Calls

variable {σ : Type} [FileAccess (StateM σ)] [FileSystem σ] {files : σ}

/-- A run that is asked for JSON, and neither for items nor for a file, shows the table in JSON with
a line feed behind it and nothing else, whatever the source and its name hold. A run with an output
file leaves in it the same text without the line feed. -/
theorem json_shown_and_written {lineShown lineWritten : List String}
    {shows writes : Arguments} {input output text : String}
    (readShown : Arguments.read lineShown = .ok shows)
    (findsShown : shows.Finds files input text.toUTF8)
    (asks : shows.has .json = true ∧ shows.has .tokens = false ∧ shows.output = none)
    (readWritten : Arguments.read lineWritten = .ok writes)
    (findsWritten : writes.Finds files input text.toUTF8) (names : writes.output = some output)
    (same : writes.has .ignoreFaults = shows.has .ignoreFaults)
    (keeps : Keeps files (Path.normalised output)) :
    let json := (shows.tableOn input text).jsonText (.indented 2)
    (runOn files lineShown).1.stdout = json ++ "\n" ∧
      contentOf (runOn files lineWritten).2 (Path.normalised output) = .ok json.toUTF8 := by
  intro json
  constructor
  · obtain ⟨asksJson, noItems, noOutput⟩ := asks
    rw [runOn_of_no_output readShown findsShown noOutput,
      Request.stdout_finished asksJson noItems, if_pos asksJson]
    exact outputLine_jsonText (.indented 2) (shows.tableOn input text)
  · have writable : Writable files (Path.normalised output) := ⟨_, (keeps ByteArray.empty).1⟩
    have table : writes.tableOn input text = shows.tableOn input text := by
      rw [Arguments.tableOn, same]
      rfl
    obtain ⟨shown, ran⟩ := runOn_of_writable readWritten findsWritten names writable
    rw [ran, table]
    exact (keeps json.toUTF8).2

end Calls

/-- A table whose diagnostic shows a control sequence. -/
theorem json_shown_and_written_of_escape :
    let shows : Arguments := ⟨[.json], none, ["escape.sg"]⟩
    let writes : Arguments := ⟨[.verbose], some "out", ["escape.sg"]⟩
    let json := (shows.tableOn "escape.sg" "'\x1b[0m'").jsonText (.indented 2)
    Arguments.read ["--json", "escape.sg"] = .ok shows ∧
      shows.Finds sampleFiles "escape.sg" "'\x1b[0m'".toUTF8 ∧
      Arguments.read ["-vo", "out", "escape.sg"] = .ok writes ∧
      writes.Finds sampleFiles "escape.sg" "'\x1b[0m'".toUTF8 ∧
      Keeps sampleFiles (Path.normalised "out") ∧
      (runOn sampleFiles ["--json", "escape.sg"]).1.stdout = json ++ "\n" ∧
      contentOf (runOn sampleFiles ["-vo", "out", "escape.sg"]).2 (Path.normalised "out") =
        .ok json.toUTF8 := by
  intro shows writes json
  have readShown : Arguments.read ["--json", "escape.sg"] = .ok shows := rfl
  have readWritten : Arguments.read ["-vo", "out", "escape.sg"] = .ok writes := rfl
  have nowhere : statusOf sampleFiles "out" = .ok .missing := rfl
  have findsShown : shows.Finds sampleFiles "escape.sg" "'\x1b[0m'".toUTF8 :=
    ⟨⟨rfl, rfl⟩, rfl, rfl, by rintro path ⟨⟩⟩
  have findsWritten : writes.Finds sampleFiles "escape.sg" "'\x1b[0m'".toUTF8 := by
    refine ⟨⟨rfl, rfl⟩, rfl, rfl, ?_⟩
    rintro path ⟨⟩ directory
    rw [nowhere] at directory
    cases directory
  have keeps : Keeps sampleFiles (Path.normalised "out") := fun content => ⟨rfl, rfl⟩
  obtain ⟨stdout, content⟩ := json_shown_and_written readShown findsShown ⟨rfl, rfl, rfl⟩
    readWritten findsWritten rfl rfl keeps
  exact ⟨readShown, findsShown, readWritten, findsWritten, keeps, stdout, content⟩

end StateDescription
