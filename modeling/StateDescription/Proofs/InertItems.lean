import StateDescription.Proofs.Continuation
import StateDescription.Proofs.ItemReports
import StateDescription.Proofs.WriteModes

/-!
Items that do nothing where they stand but leave a diagnostic. The course of a build does not hang
on what has been reported, so such items can be deleted: their own diagnostics go, and nothing else
changes.
-/

namespace StateDescription

namespace Builder

variable {builder first second : Builder} {item : Item} {token : Token}

/-! ### The course of a build -/

/-- All of a builder that its course hangs on. The diagnostics and the trace are only written. -/
def core (builder : Builder) : Builder :=
  { builder with
    recordsFaults := false
    table := { builder.table with diagnostics := [] }
    trace := #[] }

/-- What a builder has written down, as a past without objects and values. -/
def record (builder : Builder) : Builder :=
  { new builder.recordsFaults with
    table := ⟨[], [], builder.table.diagnostics⟩
    trace := builder.trace }

theorem record_append (builder : Builder) (table : SymbolTable) :
    builder.record.table ++ table =
      { table with diagnostics := builder.table.diagnostics ++ table.diagnostics } := by
  have same (object : Object) : object.raise 0 = object := by
    simp [Object.raise]
  change SymbolTable.mk ([] ++ table.objects.map (Object.raise 0)) ([] ++ table.values) _ = _
  rw [List.nil_append, List.nil_append, List.map_congr_left fun object _ => same object,
    List.map_id']
  rfl

theorem record_continuedBy_core (builder : Builder) :
    builder.record.continuedBy builder.core = builder := by
  rw [continuedBy, record_append]
  change Builder.mk _ (SymbolTable.mk _ _ (_ ++ [])) _ _ _ _ _ _ (_ ++ #[]) = _
  rw [List.append_nil, Array.append_empty]
  rfl

theorem core_record_continuedBy (builder next : Builder) :
    (builder.record.continuedBy next).core = next.core := by
  rw [continuedBy, record_append]
  rfl

theorem stepToken_eq (builder : Builder) (token : Token) :
    builder.stepToken token = builder.record.continuedBy (builder.core.stepToken token) := by
  have apart : builder.record.Apart builder.core := fun _ _ => List.not_mem_nil
  rw [← stepToken_continuedBy apart, record_continuedBy_core]

theorem core_stepFault (builder : Builder) (fault : Fault) :
    (builder.stepFault fault).core = builder.core := by
  rw [stepFault]
  split <;> rfl

/-- Builders on the same course are still on the same course behind the same item. -/
theorem core_step_congr (same : first.core = second.core) (item : Item) :
    (first.step item).core = (second.step item).core := by
  cases item with
  | fault fault =>
      change (first.stepFault fault).core = (second.stepFault fault).core
      rw [core_stepFault, core_stepFault, same]
  | token token =>
      change (first.stepToken token).core = (second.stepToken token).core
      rw [stepToken_eq first, stepToken_eq second, core_record_continuedBy,
        core_record_continuedBy, same]

theorem core_run_congr (same : first.core = second.core) (items : List Item) :
    (first.run items).core = (second.run items).core := by
  induction items generalizing first second with
  | nil => exact same
  | cons item items ih => exact ih (core_step_congr same item)

theorem tables_of_core (same : first.core = second.core) :
    first.table.objects = second.table.objects ∧ first.table.values = second.table.values ∧
      first.leftovers = second.leftovers :=
  ⟨(congrArg (fun core : Builder => core.table.objects) same :),
    (congrArg (fun core : Builder => core.table.values) same :), (congrArg leftovers same :)⟩

/-! ### The diagnostics of an item -/

theorem reports_token (builder : Builder) (token : Token) :
    builder.reports (.token token) = (builder.core.stepToken token).table.diagnostics := by
  apply reports_eq
  change (builder.stepToken token).table.diagnostics = _
  rw [stepToken_eq, table_continuedBy, record_append]

theorem reports_congr (same : first.core = second.core)
    (records : first.recordsFaults = second.recordsFaults) (item : Item) :
    first.reports item = second.reports item := by
  cases item with
  | fault fault => rw [reports_fault, reports_fault, records]
  | token token => rw [reports_token, reports_token, same]

/-! ### Lexical faults -/

theorem core_quiet (items : List Item) :
    ((new false).run items).core = ((new true).run items).core := by
  have begun : (new false).core = (new true).core := rfl
  exact core_run_congr begun items

theorem reports_quiet (same : first.core = second.core) (quiet : first.recordsFaults = false)
    (verbose : second.recordsFaults = true) (declared : OwnersDeclared second) (item : Item) :
    first.reports item = (second.reports item).filter (!·.isLexical) := by
  cases item with
  | fault fault =>
      rw [reports_fault, reports_fault, quiet, verbose]
      rfl
  | token token =>
      rw [reports_token, same, ← reports_token, eq_comm, List.filter_eq_self]
      intro diagnostic member
      rw [isLexical_of_mem_reports declared token member]
      rfl

theorem diagnostics_quiet (items : List Item) :
    ((new false).run items).table.diagnostics =
      ((new true).run items).table.diagnostics.filter (!·.isLexical) := by
  induction items using List.reverseRecOn with
  | nil => rfl
  | append_singleton items item ih =>
      have reports := reports_quiet (core_quiet items) (recordsFaults_run _ items)
        (recordsFaults_run _ items) ((ownersDeclared_new true).run items) item
      rw [run_concat, run_concat, diagnostics_step, diagnostics_step, List.filter_append, ih,
        reports]

theorem filter_leftovers (builder : Builder) :
    builder.leftovers.filter (!·.isLexical) = builder.leftovers := by
  rw [List.filter_eq_self]
  intro diagnostic member
  rw [(plain_leftovers builder diagnostic member).isLexical_eq]
  rfl

/-! ### Inert items -/

/-- An item that does nothing but leave a diagnostic, if any: a comment, a lexical fault, a literal
in a group without an owner, and every token that is rejected where it stands. -/
inductive Inert (builder : Builder) : Item → Option Diagnostic → Prop
  | comment {token : Token} (type : token.type = .comment) : Inert builder (.token token) none
  | fault {fault : Fault} :
      Inert builder (.fault fault)
        (if builder.recordsFaults then some fault.toDiagnostic else none)
  | literal {token : Token} {around : List Frame} (type : token.type = .literal)
      (innermost : builder.frames = .group none :: around) : Inert builder (.token token) none
  | rejected {token : Token} {problem : SemanticProblem}
      (rejects : Rejects builder token problem) :
      Inert builder (.token token) (some ⟨.semantic problem, some token.location⟩)

theorem step_of_role? {role : Role} (gives : token.type.role? = some role) (builder : Builder) :
    builder.step (.token token) = builder.addModifier role token := by
  change builder.stepToken token = _
  unfold stepToken
  unfold TokenType.role? at gives
  split at gives <;> rename_i type <;> cases gives <;> rw [type]

theorem step_of_mode? {mode : WriteMode} (selects : token.type.mode? = some mode)
    (builder : Builder) : builder.step (.token token) = builder.selectMode mode token := by
  change builder.stepToken token = _
  unfold stepToken
  unfold TokenType.mode? at selects
  split at selects <;> rename_i type <;> cases selects <;> rw [type]

theorem step_of_rejects {problem : SemanticProblem} (rejects : Rejects builder token problem) :
    builder.step (.token token) = builder.reject problem token := by
  cases rejects with
  | groupNotOpen type elsewhere =>
      change builder.stepToken token = _
      rw [stepToken, type]
      dsimp only
      rw [closeGroup]
      split
      · rename_i innermost
        exact absurd (context_of_frames innermost) elsewhere
      · rfl
  | blockNotOpen type elsewhere =>
      change builder.stepToken token = _
      rw [stepToken, type]
      dsimp only
      rw [closeBlock]
      split
      · rename_i innermost
        exact absurd (context_of_frames innermost) elsewhere
      · rfl
  | literalOutside type elsewhere =>
      change builder.stepToken token = _
      rw [stepToken, type]
      dsimp only
      rw [addLiteral]
      split
      · rename_i innermost
        exact absurd (context_of_frames innermost) elsewhere
      · rename_i innermost
        exact absurd (context_of_frames innermost) elsewhere
      · rfl
  | modifierInside type inside =>
      rw [step_of_role? type, addModifier]
      rcases inside with inside | inside <;> rw [inside]
  | modifierRepeated type outside repeated =>
      rw [step_of_role? type, addModifier]
      rcases outside with outside | outside <;> rw [outside] <;> exact if_pos repeated
  | modeOutside type elsewhere => rw [step_of_mode? type, selectMode, if_neg elsewhere]
  | modeRepeated type inside selected =>
      rw [step_of_mode? type, selectMode, if_pos inside, if_neg selected]
  | stayOutside type elsewhere =>
      change builder.stepToken token = _
      rw [stepToken, type]
      exact if_neg elsewhere
  | reserved type =>
      change builder.stepToken token = _
      rw [stepToken, type]

theorem Inert.core_step {reported : Option Diagnostic} (inert : Inert builder item reported) :
    (builder.step item).core = builder.core := by
  cases inert with
  | comment type =>
      change (builder.stepToken _).core = _
      rw [stepToken, type]
  | fault => exact core_stepFault builder _
  | literal type innermost =>
      change (builder.stepToken _).core = _
      rw [stepToken, type]
      dsimp only
      rw [addLiteral, innermost]
      rfl
  | rejected rejects =>
      rw [step_of_rejects rejects]
      rfl

theorem Inert.reports_eq {reported : Option Diagnostic} (inert : Inert builder item reported) :
    builder.reports item = reported.toList := by
  cases inert with
  | comment type =>
      apply Builder.reports_eq
      change (builder.stepToken _).table.diagnostics = _
      rw [stepToken, type]
      exact (List.append_nil _).symm
  | fault =>
      rw [reports_fault]
      split <;> rfl
  | literal type innermost =>
      apply Builder.reports_eq
      change (builder.stepToken _).table.diagnostics = _
      rw [stepToken, type]
      dsimp only
      rw [addLiteral, innermost]
      exact (List.append_nil _).symm
  | rejected rejects =>
      apply Builder.reports_eq
      rw [step_of_rejects rejects]
      rfl

/-- Whether an item is inert hangs on the course of the build only. -/
theorem Inert.congr {reported : Option Diagnostic} (inert : Inert first item reported)
    (same : first.core = second.core)
    (records : first.recordsFaults = second.recordsFaults) : Inert second item reported := by
  have frames : first.frames = second.frames :=
    (congrArg Builder.frames same :)
  have roles : first.roles = second.roles :=
    (congrArg Builder.roles same :)
  have mode : first.mode = second.mode :=
    (congrArg Builder.mode same :)
  have context : first.context = second.context :=
    (congrArg Builder.context same :)
  cases inert with
  | comment type => exact .comment type
  | fault =>
      rw [records]
      exact .fault
  | literal type innermost => exact .literal type (frames ▸ innermost)
  | rejected rejects =>
      apply Inert.rejected
      cases rejects with
      | groupNotOpen type elsewhere => exact .groupNotOpen type (context ▸ elsewhere)
      | blockNotOpen type elsewhere => exact .blockNotOpen type (context ▸ elsewhere)
      | literalOutside type elsewhere => exact .literalOutside type (context ▸ elsewhere)
      | modifierInside type inside => exact .modifierInside type (context ▸ inside)
      | modifierRepeated type outside repeated =>
          exact .modifierRepeated type (context ▸ outside) (roles ▸ repeated)
      | modeOutside type elsewhere => exact .modeOutside type (context ▸ elsewhere)
      | modeRepeated type inside selected =>
          exact .modeRepeated type (context ▸ inside) (mode ▸ selected)
      | stayOutside type elsewhere => exact .stayOutside type (context ▸ elsewhere)
      | reserved type => exact .reserved type

end Builder

/-! ### Deletion -/

/-- The list without the entries at the places that are deleted. -/
def without {α : Type} (deleted : Nat → Bool) (list : List α) : List α :=
  (list.zipIdx.filter fun entry => !deleted entry.2).map Prod.fst

theorem without_concat {α : Type} (deleted : Nat → Bool) (list : List α) (last : α) :
    without deleted (list ++ [last]) =
      without deleted list ++ if deleted list.length then [] else [last] := by
  rw [without, List.zipIdx_append, List.filter_append, List.map_append, without]
  congr 1
  cases gone : deleted list.length <;> simp [gone]

namespace Builder

/-- Some items of a run are deleted, each of which is inert where it stands. -/
def DeletesInert (deleted : Nat → Bool) (builder : Builder) (items : List Item) : Prop :=
  ∀ place item, items[place]? = some item → deleted place = true →
    ∃ reported, (builder.run (items.take place)).Inert item reported

theorem DeletesInert.take {deleted : Nat → Bool} {builder : Builder} {items : List Item}
    (inert : DeletesInert deleted builder items) (count : Nat) :
    DeletesInert deleted builder (items.take count) := by
  intro place item found gone
  rw [List.getElem?_take] at found
  split at found
  · rename_i early
    rw [List.take_take, Nat.min_eq_left early.le]
    exact inert place item found gone
  · cases found

theorem run_without {deleted : Nat → Bool} {recordsFaults : Bool} {items : List Item}
    (inert : DeletesInert deleted (new recordsFaults) items) :
    ((new recordsFaults).run (without deleted items)).core =
        ((new recordsFaults).run items).core ∧
      ((new recordsFaults).run (without deleted items)).table.diagnostics =
        (without deleted ((new recordsFaults).reportsOf items)).flatten := by
  -- The cores stay equal, so the last item does the same in both runs, or it is deleted and
  -- would have done nothing to the core.
  induction items using List.reverseRecOn with
  | nil => exact ⟨rfl, rfl⟩
  | append_singleton items item ih =>
      have earlier : DeletesInert deleted (new recordsFaults) items := by
        simpa using inert.take items.length
      obtain ⟨core, diagnostics⟩ := ih earlier
      rw [without_concat, reportsOf_concat, without_concat, length_reportsOf, run_concat]
      cases gone : deleted items.length with
      | true =>
          have inertHere := inert items.length item (by simp) gone
          rw [List.take_left] at inertHere
          obtain ⟨reported, inertHere⟩ := inertHere
          rw [if_pos rfl, if_pos rfl, List.append_nil, List.append_nil]
          exact ⟨core.trans inertHere.core_step.symm, diagnostics⟩
      | false =>
          have reports : ((new recordsFaults).run (without deleted items)).reports item =
              ((new recordsFaults).run items).reports item := by
            apply reports_congr core
            rw [recordsFaults_run, recordsFaults_run]
          rw [if_neg Bool.false_ne_true, if_neg Bool.false_ne_true, run_concat, diagnostics_step,
            diagnostics, reports, List.flatten_append, List.flatten_singleton]
          exact ⟨core_step_congr core item, rfl⟩

end Builder

/-- Items that are inert where they stand can be deleted. At every place the build is on the same
course, with the same items inert there, and the diagnostics are those of the items that are left.
A deleted item had one diagnostic of its own or none. So the tables differ in those diagnostics
only. A build that records no lexical fault gives the table of one that does without the lexical
diagnostics. -/
theorem inert_items_deleted (recordsFaults : Bool) (items : List Item) :
    (∀ deleted : Nat → Bool, Builder.DeletesInert deleted (Builder.new recordsFaults) items →
      (∀ count,
        let full := (Builder.new recordsFaults).run (items.take count)
        let thinned := (Builder.new recordsFaults).run (without deleted (items.take count))
        let reported := (Builder.new recordsFaults).reportsOf (items.take count)
        thinned.core = full.core ∧
          full.table.diagnostics = reported.flatten ∧
          thinned.table.diagnostics = (without deleted reported).flatten ∧
          ∀ item made, thinned.Inert item made ↔ full.Inert item made) ∧
      (∀ place item made, items[place]? = some item →
        ((Builder.new recordsFaults).run (items.take place)).Inert item made →
          ((Builder.new recordsFaults).reportsOf items)[place]? = some made.toList) ∧
      let full := SymbolTable.ofItems recordsFaults items
      let thinned := SymbolTable.ofItems recordsFaults (without deleted items)
      let reported := (Builder.new recordsFaults).reportsOf items
      thinned.objects = full.objects ∧ thinned.values = full.values ∧
        ∃ atEnd, full.diagnostics = reported.flatten ++ atEnd ∧
          thinned.diagnostics = (without deleted reported).flatten ++ atEnd) ∧
    let quiet := SymbolTable.ofItems false items
    let verbose := SymbolTable.ofItems true items
    quiet.objects = verbose.objects ∧ quiet.values = verbose.values ∧
      quiet.diagnostics = verbose.diagnostics.filter (!·.isLexical) := by
  refine ⟨?_, ?_⟩
  · intro deleted inert
    refine ⟨?_, ?_, ?_⟩
    · intro count full thinned reported
      obtain ⟨core, diagnostics⟩ := Builder.run_without (inert.take count)
      have records : thinned.recordsFaults = full.recordsFaults := by
        rw [Builder.recordsFaults_run, Builder.recordsFaults_run]
      refine ⟨core, Builder.diagnostics_run recordsFaults _, diagnostics, ?_⟩
      intro item made
      exact ⟨fun here => here.congr core records, fun here => here.congr core.symm records.symm⟩
    · intro place item made found here
      rw [Builder.getElem?_reportsOf found, here.reports_eq]
    · intro full thinned reported
      obtain ⟨core, diagnostics⟩ := Builder.run_without inert
      obtain ⟨objects, values, leftovers⟩ := Builder.tables_of_core core
      simp only [full, thinned, Builder.ofItems_eq]
      refine ⟨objects, values, ((Builder.new recordsFaults).run items).leftovers, ?_, ?_⟩
      · exact congrArg (· ++ _) (Builder.diagnostics_run recordsFaults items)
      · rw [SymbolTable.diagnostics_addDiagnostics, diagnostics, leftovers]
  · intro quiet verbose
    obtain ⟨objects, values, leftovers⟩ := Builder.tables_of_core (Builder.core_quiet items)
    simp only [quiet, verbose, Builder.ofItems_eq]
    refine ⟨objects, values, ?_⟩
    rw [SymbolTable.diagnostics_addDiagnostics, SymbolTable.diagnostics_addDiagnostics,
      List.filter_append, Builder.diagnostics_quiet, Builder.filter_leftovers, leftovers]

/-- In the text `a(|"x")^` the reserved token and the write mode are deleted, and the value and the
object stay. -/
theorem inert_items_deleted_around_value :
    let items : List Item :=
      [.token (sampleToken .identifier "a" 1), .token (sampleToken .openGroup "(" 2),
        .token (sampleToken .pipe "|" 3), .token (sampleToken .literal "x" 4),
        .token (sampleToken .closeGroup ")" 7), .token (sampleToken .caret "^" 8)]
    let deleted := fun place => place == 2 || place == 5
    let full := SymbolTable.ofItems true items
    let thinned := SymbolTable.ofItems true (without deleted items)
    Builder.DeletesInert deleted (.new true) items ∧ full.diagnostics.length = 2 ∧
      thinned.objects = full.objects ∧ thinned.values = full.values ∧
      thinned.diagnostics = [] := by
  intro items deleted full thinned
  have inert : Builder.DeletesInert deleted (.new true) items := by
    intro place item found gone
    have places : place = 2 ∨ place = 5 := by simpa [deleted] using gone
    rcases places with rfl | rfl
    · cases found
      exact ⟨_, .rejected (.reserved rfl)⟩
    · cases found
      exact ⟨_, .rejected (.modeOutside rfl (by decide))⟩
  obtain ⟨_, _, objects, values, _⟩ := (inert_items_deleted true items).1 deleted inert
  exact ⟨inert, by decide, objects, values, by decide⟩

end StateDescription
