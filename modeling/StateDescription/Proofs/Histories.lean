import StateDescription.Proofs.StackCalls

/-!
Histories of builds. A history lists what the items of a run give, each where it is read. Whatever
calls are made on a new builder, it has run over the items that it took, and the first finish has
closed it.
-/

namespace StateDescription

/-- The items that a builder takes of some calls: those that are fed before the first finish. -/
def Call.taken : List Call → List Item
  | [] => []
  | .feed item :: calls => item :: taken calls
  | .finish :: _ => []

namespace Builder

variable {builder : Builder} {α : Type}

/-! ### Runs -/

def history (give : Builder → Item → List α) (builder : Builder) : List Item → List α
  | [] => []
  | item :: items => give builder item ++ (builder.step item).history give items

theorem history_concat (give : Builder → Item → List α) (builder : Builder) (items : List Item)
    (item : Item) :
    builder.history give (items ++ [item]) =
      builder.history give items ++ give (builder.run items) item := by
  induction items generalizing builder with
  | nil => simp [history]
  | cons first items ih =>
      rw [List.cons_append, history, ih, history, List.append_assoc]
      rfl

theorem run_concat (builder : Builder) (items : List Item) (item : Item) :
    builder.run (items ++ [item]) = (builder.run items).step item := by
  rw [run_append]
  rfl

/-! ### The end -/

/-- The diagnostics of what waits: the end of the source makes them. -/
def leftovers (builder : Builder) : List Diagnostic :=
  builder.modifiers.map Modifier.unattached ++ builder.pending.map PendingName.unclosed

theorem table_close (builder : Builder) :
    builder.close.table = builder.table.addDiagnostics builder.leftovers := by
  change SymbolTable.mk _ _ (_ ++ _ ++ _) = SymbolTable.mk _ _ (_ ++ (_ ++ _))
  rw [List.append_assoc]
  rfl

/-- The table of some items is that of the run over them, with what is left over. -/
theorem ofItems_eq (recordsFaults : Bool) (items : List Item) :
    SymbolTable.ofItems recordsFaults items =
      ((new recordsFaults).run items).table.addDiagnostics
        ((new recordsFaults).run items).leftovers := by
  rw [SymbolTable.ofItems, build_eq_close, table_close]

/-! ### Calls -/

theorem after_cons (builder : Builder) (call : Call) (calls : List Call) :
    builder.after (call :: calls) = (builder.call call).after calls := rfl

theorem after_of_finished (finished : builder.finished = true) (calls : List Call) :
    builder.after calls = builder := by
  induction calls with
  | nil => rfl
  | cons call calls ih => rwa [after_cons, call_of_finished finished]

theorem after_eq (unfinished : builder.finished = false) (calls : List Call) :
    builder.after calls =
      if .finish ∈ calls then (builder.run (Call.taken calls)).close
      else builder.run (Call.taken calls) := by
  induction calls generalizing builder with
  | nil => rfl
  | cons call calls ih =>
      cases call with
      | feed item =>
          have next : builder.call (.feed item) = builder.step item := by
            rw [Builder.call, perform_feed_of_unfinished unfinished]
          have still := (outcome_step builder item).finished_eq.trans unfinished
          rw [after_cons, next, ih still]
          simp [Call.taken]
      | finish =>
          have next : builder.call .finish = builder.close := by
            rw [Builder.call, perform_finish_of_unfinished unfinished]
          rw [after_cons, next, if_pos List.mem_cons_self]
          exact after_of_finished (finished_close builder) calls

/-- The table behind any calls is that of the items taken, with the leftovers once finished. -/
theorem table_after (recordsFaults : Bool) (calls : List Call) :
    let current := (new recordsFaults).run (Call.taken calls)
    ((new recordsFaults).after calls).table =
      current.table.addDiagnostics (if .finish ∈ calls then current.leftovers else []) := by
  intro current
  rw [after_eq rfl]
  split
  · exact table_close current
  · exact congrArg (SymbolTable.mk _ _) (List.append_nil _).symm

end Builder

end StateDescription
