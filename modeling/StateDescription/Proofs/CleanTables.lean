import StateDescription.Proofs.Constructs
import StateDescription.Proofs.DiagnosticPlaces
import StateDescription.Proofs.StackCalls

/-!
Tables without diagnostics. The end of the source reports the names and modifiers that wait, and
no construct. But a group or block that is open keeps its owner waiting, or was reported when it
opened, so without a diagnostic only statements can be left open.
-/

namespace StateDescription

namespace Builder

variable {builder next : Builder} {item : Item} {token : Token}

/-! ### Diagnostics only grow -/

theorem prefix_diagnostics_declare (owner : PendingName) (builder : Builder) :
    builder.table.diagnostics <+: (builder.declare owner).table.diagnostics := by
  rw [declare]
  split
  · exact List.prefix_refl _
  · exact List.prefix_append _ _

theorem prefix_diagnostics_addTransition (receiver origin target : PendingName)
    (mode : WriteMode) (builder : Builder) :
    builder.table.diagnostics <+:
      (builder.addTransition receiver origin target mode).table.diagnostics := by
  rw [addTransition]
  split
  · exact List.prefix_append _ _
  · dsimp only
    split
    · exact List.prefix_refl _
    · exact List.prefix_append _ _

theorem Outcome.prefix_diagnostics (outcome : Outcome builder item next) :
    builder.table.diagnostics <+: next.table.diagnostics := by
  cases outcome with
  | faultRecorded => exact List.prefix_append _ _
  | rejected => exact List.prefix_append _ _
  | opened => exact prefix_diagnostics_declare _ builder
  | openedBare => exact List.prefix_append _ _
  | closed =>
      rw [closeBody_eq]
      exact (List.prefix_append _ _).trans (List.prefix_append _ _)
  | began => exact List.prefix_append _ _
  | received =>
      exact (prefix_diagnostics_addTransition _ _ _ _ (builder.pastStatement _)).trans
        (List.prefix_append _ _)
  | owned => exact prefix_diagnostics_addTransition _ _ _ _ (builder.pastStatement _)
  | incomplete => exact List.prefix_append _ _
  | nameDropped => exact List.prefix_append _ _
  | nothingToEnd => exact (List.prefix_append _ _).trans (List.prefix_append _ _)
  | _ => exact List.prefix_refl _

/-! ### Open constructs that no name owns -/

/-- Every group or block that is open without an owner has been reported. -/
def BareReported (builder : Builder) : Prop :=
  ∀ frame ∈ builder.frames, frame.owner? = none →
    frame = .transition ∨ builder.table.diagnostics ≠ []

theorem bareReported_new (recordsFaults : Bool) : BareReported (new recordsFaults) := by
  intro frame member
  cases member

theorem diagnostics_step_bare {frame : Option Site → Frame}
    (opens : token.type.opens? = some frame) (waiting : builder.names = []) :
    (builder.step (.token token)).table.diagnostics ≠ [] := by
  rw [step_of_opens? opens, openBody, waiting]
  exact List.append_ne_nil_of_right_ne_nil _ (List.cons_ne_nil _ _)

theorem BareReported.step (reported : BareReported builder) (item : Item) :
    BareReported (builder.step item) := by
  have grown := (outcome_step builder item).prefix_diagnostics
  -- No diagnostic is taken back, so what was reported before the item is reported behind it.
  have older (frame : Frame) (member : frame ∈ builder.frames) (bare : frame.owner? = none) :
      frame = .transition ∨ (builder.step item).table.diagnostics ≠ [] := by
    refine (reported frame member bare).imp_right ?_
    intro some none
    rw [none, List.prefix_nil] at grown
    exact some grown
  cases passage_step builder item with
  | names fed frames names =>
      intro frame member
      exact older frame (frames ▸ member)
  | drops frames names =>
      intro frame member
      exact older frame (frames ▸ member)
  | leaves frames names settled =>
      intro frame member
      refine older frame ?_
      rw [frames]
      exact List.mem_cons_of_mem _ member
  | @opens token opened fed type frames names =>
      subst fed
      intro frame member bare
      rw [frames, List.mem_cons] at member
      rcases member with rfl | member
      · rcases TokenType.begins?_cases type with ⟨body, opens, _⟩ | ⟨_, transition⟩
        · right
          obtain ⟨site, same, _, kept⟩ := step_body opens builder
          rw [frames, List.cons.injEq] at same
          rw [same.1, TokenType.owner?_of_opens? opens, Option.map_eq_none_iff] at bare
          rw [bare, TokenType.names_none_of_opens? opens] at kept
          exact diagnostics_step_bare opens kept.symm
        · left
          cases frame with
          | group site => cases transition
          | block site => cases transition
          | transition => rfl
      · exact older frame member bare

theorem BareReported.run (reported : BareReported builder) (items : List Item) :
    BareReported (builder.run items) := by
  induction items generalizing builder with
  | nil => exact reported
  | cons item items ih => exact ih (reported.step item)

/-- With no name waiting, none of the open constructs has an owner. -/
theorem owner?_of_pending (waiting : builder.pending = []) {frame : Frame}
    (member : frame ∈ builder.frames) : frame.owner? = none := by
  rw [pending, List.append_eq_nil_iff, List.flatMap_eq_nil_iff] at waiting
  have names := waiting.2 frame member
  rw [frame.names_eq, List.append_eq_nil_iff, Option.toList_eq_nil_iff] at names
  exact names.1

end Builder

/-- A table without diagnostics comes from items none of which was reported, with no name and no
modifier left over. Every group and block was closed, and what may be open are statements. -/
theorem only_statements_open_of_clean (recordsFaults : Bool) (items : List Item)
    (clean : (SymbolTable.ofItems recordsFaults items).diagnostics = []) :
    let current := (Builder.new recordsFaults).run items
    current.table.diagnostics = [] ∧ current.pending = [] ∧ current.modifiers = [] ∧
      (Builder.build recordsFaults items).contexts =
        List.replicate current.frames.length .transition ++ [.top] := by
  intro current
  rw [SymbolTable.ofItems, Builder.build_eq_close, Builder.diagnostics_close,
    List.append_eq_nil_iff, List.append_eq_nil_iff, List.map_eq_nil_iff,
    List.map_eq_nil_iff] at clean
  obtain ⟨⟨diagnostics, modifiers⟩, pending⟩ := clean
  refine ⟨diagnostics, pending, modifiers, ?_⟩
  have reported := (Builder.bareReported_new recordsFaults).run items
  have statements : current.frames = List.replicate current.frames.length .transition := by
    refine List.eq_replicate_of_mem ?_
    intro frame member
    have bare := Builder.owner?_of_pending pending member
    exact (reported frame member bare).resolve_right (not_not_intro diagnostics)
  rw [Builder.build_eq_close, Stacks.contexts_close, Builder.contexts]
  change current.frames.map Frame.context ++ [.top] = _
  rw [statements, List.map_replicate, List.length_replicate]
  rfl

/-- The text `a{x=b;}=`: behind a complete declaration a statement is left open. -/
theorem only_statements_open_behind_declaration :
    let items : List Item :=
      [.token (sampleToken .identifier "a" 1), .token (sampleToken .openBlock "\x7b" 2),
        .token (sampleToken .identifier "x" 3), .token (sampleToken .equals "=" 4),
        .token (sampleToken .identifier "b" 5), .token (sampleToken .semicolon ";" 6),
        .token (sampleToken .closeBlock "\x7d" 7), .token (sampleToken .equals "=" 8)]
    (SymbolTable.ofItems true items).diagnostics = [] ∧
      ((Builder.new true).run items).pending = [] ∧
      (Builder.build true items).contexts = [.transition, .top] := by
  intro items
  have clean : (SymbolTable.ofItems true items).diagnostics = [] := by decide
  obtain ⟨_, pending, _, contexts⟩ := only_statements_open_of_clean true items clean
  exact ⟨clean, pending, contexts⟩

/-- A `=` alone is no problem to the builder, and its statement is open at the end. -/
theorem statement_open_of_clean :
    let items : List Item := [.token (sampleToken .equals "=" 1)]
    (SymbolTable.ofItems true items).diagnostics = [] ∧
      (Builder.build true items).contexts ≠ [.top] := by
  decide

end StateDescription
