import StateDescription.Proofs.Modifiers

/-!
What diagnostics are about. Names and modifiers wait where items put them, and transitions are
made of names that waited. So a diagnostic shows nothing but what was read: the fault itself, a
token that may have that problem, or names.
-/

namespace StateDescription

/-- The names that items add to those that wait. -/
def Item.namesOf (items : List Item) : List PendingName :=
  items.filterMap Item.name?

/-- The problems of a token that concern no other item. -/
def Token.objections (token : Token) : List SemanticProblem :=
  match token.type with
  | .openGroup | .openBlock => [.expectedIdentifier token.value]
  | .closeGroup => [.unbalancedGroup token.value]
  | .closeBlock => [.unbalancedBlock token.value]
  | .literal => [.literalOutsideGroup token.value]
  | .star | .colon => [.unattachedModifier token.value, .duplicateAttribute token.value]
  | .caret | .percent => [.unattachedModifier token.value, .duplicateWriteMode token.value]
  | .dot => [.unattachedModifier token.value]
  | .pipe => [.reservedTokenUnused token.value]
  | .semicolon => [.unexpectedEndOfStatement token.value]
  | .comment | .identifier | .equals | .atSign => []

/-- The diagnostics that items can give rise to. -/
inductive Diagnostic.Arises (source : List Item) : Diagnostic → Prop
  | fault {fault : Fault} (read : .fault fault ∈ source) : Arises source fault.toDiagnostic
  | token {token : Token} {problem : SemanticProblem} (read : .token token ∈ source)
      (objects : problem ∈ token.objections) :
      Arises source ⟨.semantic problem, some token.location⟩
  | unclosed {name : PendingName} (read : name ∈ Item.namesOf source) :
      Arises source name.unclosed
  | undefined {name : PendingName} (read : name ∈ Item.namesOf source) :
      Arises source ⟨.semantic (.undefinedIdentifier name.name), some name.location⟩
  | repeated {origin target previous : PendingName} (readOrigin : origin ∈ Item.namesOf source)
      (readTarget : target ∈ Item.namesOf source)
      (readPrevious : previous ∈ Item.namesOf source) :
      Arises source
        ⟨.semantic (.duplicateTransition origin.name target.name (some previous.location)),
          some origin.location⟩

/-- A transition leads from one name that was read to another, and stands at the first. -/
def Transition.Joins (source : List Item) (transition : Transition) : Prop :=
  ∃ origin ∈ Item.namesOf source, ∃ target ∈ Item.namesOf source,
    transition = ⟨some origin.location, origin.name, target.name, transition.mode⟩

/-- What a table holds was read. -/
structure SymbolTable.MadeOf (source : List Item) (table : SymbolTable) : Prop where
  transitions : ∀ name, ∀ transition ∈ table.transitionsOf name, transition.Joins source
  diagnostics : ∀ diagnostic ∈ table.diagnostics, diagnostic.Arises source

/-! ### The problems of a token -/

theorem Token.objections_of_opens? {token : Token} {frame : Option Site → Frame}
    (opens : token.type.opens? = some frame) :
    token.objections = [.expectedIdentifier token.value] := by
  unfold TokenType.opens? at opens
  split at opens <;> rename_i type <;> cases opens <;> rw [objections, type]

theorem Token.objections_of_role? {token : Token} {role : Role}
    (gives : token.type.role? = some role) :
    token.objections = [.unattachedModifier token.value, .duplicateAttribute token.value] := by
  unfold TokenType.role? at gives
  split at gives <;> rename_i type <;> cases gives <;> rw [objections, type]

theorem Token.objections_of_mode? {token : Token} {mode : WriteMode}
    (selects : token.type.mode? = some mode) :
    token.objections = [.unattachedModifier token.value, .duplicateWriteMode token.value] := by
  unfold TokenType.mode? at selects
  split at selects <;> rename_i type <;> cases selects <;> rw [objections, type]

theorem Token.objections_of_semicolon {token : Token} (type : token.type = .semicolon) :
    token.objections = [.unexpectedEndOfStatement token.value] := by
  rw [objections, type]

theorem Modifier.objections_toToken (modifier : Modifier) :
    modifier.toToken.objections =
      [.unattachedModifier modifier.token, .duplicateAttribute modifier.token] :=
  Token.objections_of_role? modifier.role.role?_tokenType

namespace Builder

variable {builder next : Builder} {source : List Item} {item : Item} {token : Token}

theorem Rejects.mem_objections {problem : SemanticProblem}
    (rejects : Rejects builder token problem) : problem ∈ token.objections := by
  cases rejects with
  | groupNotOpen type | blockNotOpen type | literalOutside type | stayOutside type
  | reserved type =>
      rw [Token.objections, type]
      exact List.mem_cons_self
  | modifierInside type =>
      rw [Token.objections_of_role? type]
      exact List.mem_cons_self
  | modeOutside type =>
      rw [Token.objections_of_mode? type]
      exact List.mem_cons_self
  | modifierRepeated type =>
      rw [Token.objections_of_role? type]
      exact List.mem_cons_of_mem _ List.mem_cons_self
  | modeRepeated type =>
      rw [Token.objections_of_mode? type]
      exact List.mem_cons_of_mem _ List.mem_cons_self

theorem arises_unclosed {names : List PendingName} (read : names ⊆ Item.namesOf source) :
    ∀ diagnostic ∈ names.map PendingName.unclosed, diagnostic.Arises source :=
  List.forall_mem_map.2 fun _ member => .unclosed (read member)

/-! ### What waits -/

/-- All that a builder holds was read. -/
structure MadeOf (source : List Item) (builder : Builder) : Prop where
  names : builder.pending ⊆ Item.namesOf source
  modifiers : ∀ modifier ∈ builder.modifiers, .token modifier.toToken ∈ source
  table : builder.table.MadeOf source

theorem madeOf_new (recordsFaults : Bool) (source : List Item) :
    MadeOf source (new recordsFaults) where
  names := List.nil_subset _
  modifiers := fun _ none => absurd none List.not_mem_nil
  table :=
    ⟨fun _ _ none => absurd none List.not_mem_nil, fun _ none => absurd none List.not_mem_nil⟩

theorem Handles.token_mem_of_waiting {handling : Handling}
    (handles : Handles builder item handling) (read : item ∈ source)
    (known : ∀ modifier ∈ builder.modifiers, .token modifier.toToken ∈ source) :
    ∀ modifier ∈ handling.waiting builder.modifiers, .token modifier.toToken ∈ source := by
  cases handles with
  | keeps => exact known
  | refuses => exact known
  | admits added => exact List.forall_mem_append.2 ⟨known, List.forall_mem_singleton.2 read⟩
  | _ => exact fun _ none => absurd none List.not_mem_nil

namespace MadeOf

variable (made : MadeOf source builder)

include made

theorem names_subset : builder.names ⊆ Item.namesOf source :=
  List.Subset.trans (List.subset_append_left _ _) made.names

theorem pending_step (read : item ∈ source) :
    (builder.step item).pending ⊆ Item.namesOf source := by
  rcases (passage_step builder item).pending_cases with ⟨name, fed, pushed⟩ | popped
  · rw [pushed]
    exact List.cons_subset.2 ⟨List.mem_filterMap.2 ⟨item, read, fed⟩, made.names⟩
  · exact List.Subset.trans popped.subset made.names

theorem modifiers_step (read : item ∈ source) :
    ∀ modifier ∈ (builder.step item).modifiers, .token modifier.toToken ∈ source := by
  rw [(handled_step builder item).modifiers]
  exact (handles_handling builder item).token_mem_of_waiting read made.modifiers

theorem transitions_step (item : Item) (name : String) :
    ∀ transition ∈ (builder.step item).table.transitionsOf name, transition.Joins source := by
  rcases (outcome_step builder item).transitionsOf_cases name with
    same | ⟨target, origin, completes, more⟩
  · rw [same]
    exact made.table.transitions name
  · rw [more]
    obtain ⟨others, waiting⟩ := completes.names
    have read := made.names_subset
    rw [waiting, List.cons_subset, List.cons_subset] at read
    obtain ⟨reaches, leaves, _⟩ := read
    exact List.forall_mem_append.2 ⟨made.table.transitions name,
      List.forall_mem_singleton.2 ⟨origin, leaves, target, reaches, rfl⟩⟩

/-! ### What is reported -/

theorem arises_unattached :
    ∀ diagnostic ∈ builder.modifiers.map Modifier.unattached, diagnostic.Arises source := by
  refine List.forall_mem_map.2 fun modifier member => ?_
  refine Diagnostic.Arises.token (made.modifiers modifier member) ?_
  rw [modifier.objections_toToken]
  exact List.mem_cons_self

theorem arises_declare (owner : PendingName) :
    ∀ diagnostic ∈ (builder.declare owner).table.diagnostics, diagnostic.Arises source := by
  rw [declare]
  split
  · exact made.table.diagnostics
  · refine List.forall_mem_append.2 ⟨made.table.diagnostics, List.forall_mem_map.2 ?_⟩
    intro modifier member
    refine Diagnostic.Arises.token (made.modifiers modifier (List.mem_of_mem_filter member)) ?_
    rw [modifier.objections_toToken]
    exact List.mem_cons_of_mem _ List.mem_cons_self

end MadeOf

theorem arises_addTransition {receiver origin target : PendingName} (builder : Builder)
    (made : builder.table.MadeOf source) (receives : receiver ∈ Item.namesOf source)
    (leaves : origin ∈ Item.namesOf source) (reaches : target ∈ Item.namesOf source)
    (mode : WriteMode) :
    ∀ diagnostic ∈ (builder.addTransition receiver origin target mode).table.diagnostics,
      diagnostic.Arises source := by
  rw [addTransition]
  cases found : builder.table.find? receiver.name with
  | none =>
      exact List.forall_mem_append.2
        ⟨made.diagnostics, List.forall_mem_singleton.2 (.undefined receives)⟩
  | some object =>
      dsimp only
      cases repeated : object.transition? origin.name with
      | none => exact made.diagnostics
      | some previous =>
          have given : previous ∈ builder.table.transitionsOf receiver.name := by
            rw [SymbolTable.transitionsOf, found]
            exact List.mem_of_find?_eq_some repeated
          obtain ⟨first, read, _, _, same⟩ := made.transitions _ previous given
          refine List.forall_mem_append.2
            ⟨made.diagnostics, List.forall_mem_singleton.2 ?_⟩
          rw [same]
          exact .repeated leaves reaches read

theorem MadeOf.arises_step (made : MadeOf source builder) (read : item ∈ source) :
    ∀ diagnostic ∈ (builder.step item).table.diagnostics, diagnostic.Arises source := by
  have known := made.table.diagnostics
  have objected {token : Token} {problem : SemanticProblem} (read : .token token ∈ source)
      (objects : problem ∈ token.objections) :
      ∀ diagnostic ∈ [(⟨.semantic problem, some token.location⟩ : Diagnostic)],
        diagnostic.Arises source :=
    List.forall_mem_singleton.2 (.token read objects)
  have names := made.names_subset
  have outcome := outcome_step builder item
  generalize builder.step item = next at outcome
  cases outcome with
  | faultRecorded =>
      exact List.forall_mem_append.2 ⟨known, List.forall_mem_singleton.2 (.fault read)⟩
  | rejected rejects =>
      exact List.forall_mem_append.2 ⟨known, objected read rejects.mem_objections⟩
  | opened => exact made.arises_declare _
  | openedBare type =>
      refine List.forall_mem_append.2 ⟨known, objected read ?_⟩
      rw [Token.objections_of_opens? type]
      exact List.mem_cons_self
  | closed =>
      rw [closeBody_eq]
      exact List.forall_mem_append.2
        ⟨List.forall_mem_append.2 ⟨known, made.arises_unattached⟩, arises_unclosed names⟩
  | began => exact List.forall_mem_append.2 ⟨known, made.arises_unattached⟩
  | @received token around target origin receiver others type innermost waiting =>
      rw [waiting, List.cons_subset, List.cons_subset, List.cons_subset] at names
      obtain ⟨reaches, leaves, receives, rest⟩ := names
      have given := arises_addTransition (builder.pastStatement around) made.table receives leaves
        reaches builder.mode
      exact List.forall_mem_append.2 ⟨given, arises_unclosed rest⟩
  | @owned token around target origin owner type innermost waiting owns =>
      rw [waiting, List.cons_subset, List.cons_subset] at names
      obtain ⟨reaches, leaves, _⟩ := names
      have receives := made.names (mem_pending_of_owns innermost owns)
      exact arises_addTransition (builder.pastStatement around) made.table receives leaves reaches
        builder.mode
  | incomplete type =>
      refine List.forall_mem_append.2 ⟨known, objected read ?_⟩
      rw [Token.objections_of_semicolon type]
      exact List.mem_cons_self
  | nameDropped => exact List.forall_mem_append.2 ⟨known, made.arises_unattached⟩
  | nothingToEnd type =>
      refine List.forall_mem_append.2
        ⟨List.forall_mem_append.2 ⟨known, made.arises_unattached⟩, objected read ?_⟩
      rw [Token.objections_of_semicolon type]
      exact List.mem_cons_self
  | _ => exact known

theorem MadeOf.step (made : MadeOf source builder) (read : item ∈ source) :
    MadeOf source (builder.step item) where
  names := made.pending_step read
  modifiers := made.modifiers_step read
  table := ⟨made.transitions_step item, made.arises_step read⟩

theorem MadeOf.run (made : MadeOf source builder) {items : List Item} (read : items ⊆ source) :
    MadeOf source (builder.run items) := by
  induction items generalizing builder with
  | nil => exact made
  | cons item items ih =>
      obtain ⟨first, others⟩ := List.cons_subset.1 read
      exact ih (made.step first) others

end Builder

/-- The table of some items is made of these items and nothing else. -/
theorem SymbolTable.madeOf_ofItems (recordsFaults : Bool) (items : List Item) :
    (ofItems recordsFaults items).MadeOf items := by
  have made := (Builder.madeOf_new recordsFaults items).run (List.Subset.refl items)
  rw [Builder.ofItems_eq]
  exact
    { transitions := made.table.transitions
      diagnostics := List.forall_mem_append.2 ⟨made.table.diagnostics,
        List.forall_mem_append.2
          ⟨made.arises_unattached, Builder.arises_unclosed made.names⟩⟩ }

end StateDescription
