import StateDescription.Proofs.CleanTables
import StateDescription.Proofs.TableEdits

/-!
The diagnostics that items make, item by item. The diagnostics of a run are those of its items, in
order.
-/

namespace StateDescription

namespace Builder

variable {builder : Builder} {item : Item} {token : Token}

/-- The diagnostics that an item makes. -/
def reports (builder : Builder) (item : Item) : List Diagnostic :=
  (builder.step item).table.diagnostics.drop builder.table.diagnostics.length

theorem diagnostics_step (builder : Builder) (item : Item) :
    (builder.step item).table.diagnostics =
      builder.table.diagnostics ++ builder.reports item :=
  (List.prefix_iff_eq_append.1 (outcome_step builder item).prefix_diagnostics).symm

theorem reports_eq {made : List Diagnostic}
    (makes : (builder.step item).table.diagnostics = builder.table.diagnostics ++ made) :
    builder.reports item = made := by
  rw [reports, makes, List.drop_left]

theorem reports_fault (builder : Builder) (fault : Fault) :
    builder.reports (.fault fault) =
      if builder.recordsFaults then [fault.toDiagnostic] else [] := by
  apply reports_eq
  change (builder.stepFault fault).table.diagnostics = _
  rw [stepFault]
  split
  · rfl
  · exact (List.append_nil _).symm

/-! ### Runs -/

/-- The diagnostics of each item of a run. -/
def reportsOf (builder : Builder) (items : List Item) : List (List Diagnostic) :=
  builder.history (fun builder item => [builder.reports item]) items

theorem reportsOf_concat (builder : Builder) (items : List Item) (item : Item) :
    builder.reportsOf (items ++ [item]) =
      builder.reportsOf items ++ [(builder.run items).reports item] :=
  history_concat _ builder items item

theorem length_reportsOf (builder : Builder) (items : List Item) :
    (builder.reportsOf items).length = items.length := by
  induction items using List.reverseRecOn with
  | nil => rfl
  | append_singleton items item ih => simp [reportsOf_concat, ih]

theorem diagnostics_run (recordsFaults : Bool) (items : List Item) :
    ((new recordsFaults).run items).table.diagnostics =
      ((new recordsFaults).reportsOf items).flatten := by
  induction items using List.reverseRecOn with
  | nil => rfl
  | append_singleton items item ih =>
      rw [run_concat, diagnostics_step, ih, reportsOf_concat, List.flatten_append,
        List.flatten_singleton]

theorem getElem?_reportsOf {items : List Item} {place : Nat} (found : items[place]? = some item)
    (builder : Builder) :
    (builder.reportsOf items)[place]? =
      some ((builder.run (items.take place)).reports item) := by
  induction items generalizing builder place with
  | nil => cases found
  | cons first items ih =>
      cases place with
      | zero =>
          cases found
          rfl
      | succ place => exact ih found (builder.step first)

theorem isLexical_of_mem_reports (declared : OwnersDeclared builder) (token : Token)
    {diagnostic : Diagnostic} (member : diagnostic ∈ builder.reports (.token token)) :
    diagnostic.isLexical = false := by
  obtain ⟨given, _, edits⟩ := exists_edits_step declared (.token token)
  obtain ⟨made, grown, known⟩ := edits.diagnostics
  rw [reports_eq grown] at member
  rcases known diagnostic member with plain | cited
  · exact Diagnostic.Plain.isLexical_eq plain
  · obtain ⟨problem, location⟩ := diagnostic
    cases problem with
    | lexical problem => cases problem <;> cases cited
    | _ => rfl

end Builder

end StateDescription
