import StateDescription.Command
import StateDescription.Proofs.PlainJson
import StateDescription.Proofs.ShownCharacters

/-!
What the command writes line by line. A line without the escape character is written as it is. So
is every table in JSON, and so are the diagnostics of a source without that character: they make
up the report on the table.
-/

namespace StateDescription

theorem outputLine_eq {text : String} (plain : '\x1b' ∉ text.toList) :
    outputLine text = text ++ "\n" := by
  rw [outputLine, ControlSequence.stripped_of_not_mem plain, String.ofList_toList]

/-- No control sequence stands in JSON, whatever the table holds. -/
theorem outputLine_jsonText (layout : Json.Layout) (table : SymbolTable) :
    outputLine (table.jsonText layout) = table.jsonText layout ++ "\n" :=
  outputLine_eq (Json.not_mem_text rfl (by decide) layout table.toJson)

namespace LineEnding

/-- Unified line endings add nothing but line feeds. -/
theorem mem_of_mem_unified {c : Char} {cs : List Char} (member : c ∈ unified cs) :
    c ∈ cs ∨ c = '\n' := by
  fun_induction unified cs with
  | case1 cs ih =>
      rcases List.mem_cons.1 member with lineFeed | later
      · exact .inr lineFeed
      · exact (ih later).imp_left fun found =>
          List.mem_cons_of_mem _ (List.mem_cons_of_mem _ found)
  | case2 cs _ ih =>
      rcases List.mem_cons.1 member with lineFeed | later
      · exact .inr lineFeed
      · exact (ih later).imp_left (List.mem_cons_of_mem _)
  | case3 d cs _ _ ih =>
      rcases List.mem_cons.1 member with rfl | later
      · exact .inl List.mem_cons_self
      · exact (ih later).imp_left (List.mem_cons_of_mem _)
  | case4 => cases member

end LineEnding

namespace Diagnostic

theorem report_append_lineFeed (diagnostics : List Diagnostic) :
    report diagnostics ++ "\n" =
      String.join (diagnostics.map fun diagnostic => diagnostic.text ++ "\n") ++
        (countText diagnostics.length ++ "\n") := by
  have lines (last : String) : String.intercalate "\n" (diagnostics.map text ++ [last]) =
      String.join (diagnostics.map fun diagnostic => diagnostic.text ++ "\n") ++ last := by
    induction diagnostics with
    | nil => rw [List.map_nil, List.nil_append, String.intercalate_singleton, List.map_nil,
        String.join_nil, String.empty_append]
    | cons diagnostic diagnostics ih =>
        rw [List.map_cons, List.cons_append, String.intercalate_cons_of_ne_nil (by simp), ih,
          List.map_cons, String.join_cons, String.append_assoc, String.append_assoc,
          String.append_assoc]
  rw [report, lines, String.append_assoc]

/-- Lines without the escape character make up the report. -/
theorem lines_append_count {diagnostics : List Diagnostic}
    (plain : ∀ diagnostic ∈ diagnostics, '\x1b' ∉ diagnostic.text.toList) :
    Request.lines (diagnostics.map text) ++ outputLine (countText diagnostics.length) =
      report diagnostics ++ "\n" := by
  rw [report_append_lineFeed, outputLine_eq (not_mem_countText rfl _), Request.lines, List.map_map]
  congr 2
  apply List.map_congr_left
  exact fun diagnostic member => outputLine_eq (plain diagnostic member)

end Diagnostic

namespace Request

/-- What stderr says about the table of a source without the escape character. -/
theorem resultText_eq_report {request : Request} (quiet : request.verbose = false)
    {result : CheckResult} {recordsFaults : Bool} {file source : String}
    (made : result.table = SymbolTable.ofItems recordsFaults (scan file source))
    (named : '\x1b' ∉ file.toList) (plain : '\x1b' ∉ source.toList) :
    request.resultText result =
      if result.table.hasDiagnostics then result.table.report ++ "\n" else "" := by
  have shown : ∀ diagnostic ∈ result.table.diagnostics, '\x1b' ∉ diagnostic.text.toList := by
    rw [made]
    intro diagnostic member
    have sourced := SymbolTable.madeOf_ofItems recordsFaults (scan file source)
    exact (sourced.diagnostics diagnostic member).not_mem_text Literal.isVerbatim_escape plain rfl
      (by decide) named
  have lines := Diagnostic.lines_append_count shown
  unfold resultText ifVerbose SymbolTable.hasDiagnostics
  rw [quiet]
  cases none : result.table.diagnostics with
  | nil => rfl
  | cons first later =>
      rw [none] at lines
      simpa [SymbolTable.report, none] using lines

end Request

end StateDescription
