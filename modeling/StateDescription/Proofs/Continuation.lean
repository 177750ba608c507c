import StateDescription.Proofs.Constructs

/-!
Builds that go on where another build stopped. A builder looks objects up by name only, so the
objects of the past whose names it never meets are nothing to it. It does what it would have done
from the start, and its values are numbered behind those of the past.
-/

namespace StateDescription

/-- The object in a table where that many values come before its own. -/
def Object.raise (count : Nat) (object : Object) : Object :=
  { object with values := object.values.map (· + (count : Int)) }

namespace SymbolTable

/-- One table behind another, with the values of both in one sequence. -/
def append (past table : SymbolTable) : SymbolTable where
  objects := past.objects ++ table.objects.map (Object.raise past.values.length)
  values := past.values ++ table.values
  diagnostics := past.diagnostics ++ table.diagnostics

instance : Append SymbolTable := ⟨append⟩

variable {past : SymbolTable} (table : SymbolTable) {name : String}

theorem objects_append :
    (past ++ table).objects =
      past.objects ++ table.objects.map (Object.raise past.values.length) := rfl

theorem values_append : (past ++ table).values = past.values ++ table.values := rfl

theorem diagnostics_append :
    (past ++ table).diagnostics = past.diagnostics ++ table.diagnostics := rfl

theorem append_empty : table ++ empty = table := by
  obtain ⟨objects, values, diagnostics⟩ := table
  change SymbolTable.mk (objects ++ []) (values ++ []) (diagnostics ++ []) = _
  rw [List.append_nil, List.append_nil, List.append_nil]

theorem find?_append (fresh : name ∉ past.names) :
    (past ++ table).find? name =
      (table.find? name).map (Object.raise past.values.length) := by
  have absent : past.objects.find? (·.name = name) = none := find?_eq_none_iff.2 fresh
  rw [find?, objects_append, List.find?_append, absent, Option.none_or, List.find?_map]
  rfl

theorem addDiagnostics_append (diagnostics : List Diagnostic) :
    (past ++ table).addDiagnostics diagnostics = past ++ table.addDiagnostics diagnostics := by
  change SymbolTable.mk _ _ _ = SymbolTable.mk _ _ _
  rw [diagnostics_append, List.append_assoc]
  rfl

theorem declare_append {object : Object} (bare : object.values = []) :
    (past ++ table).declare object = past ++ table.declare object := by
  have raised : object.raise past.values.length = object := by
    rw [Object.raise, bare]
    cases object
    cases bare
    rfl
  change SymbolTable.mk _ _ _ = SymbolTable.mk _ _ _
  rw [objects_append, declare, List.map_append, List.map_singleton, raised, List.append_assoc]
  rfl

/-- A change of an object that the past does not hold, in terms of the raised object. -/
theorem modify_append (fresh : name ∉ past.names) {change changed : Object → Object}
    (raises : ∀ object, changed (object.raise past.values.length) =
      (change object).raise past.values.length) :
    (past ++ table).modify name changed = past ++ table.modify name change := by
  have old : past.objects.map (fun object =>
      if object.name = name then changed object else object) = past.objects := by
    refine (List.map_congr_left ?_).trans past.objects.map_id
    intro object member
    refine if_neg ?_
    rintro rfl
    exact fresh (List.mem_map_of_mem member)
  have new : (table.objects.map (Object.raise past.values.length)).map (fun object =>
      if object.name = name then changed object else object) =
        (table.modify name change).objects.map (Object.raise past.values.length) := by
    rw [modify, List.map_map, List.map_map]
    apply List.map_congr_left
    intro object _
    change (if object.name = name then changed (object.raise _) else object.raise _) =
      (if object.name = name then change object else object).raise _
    split
    · exact raises object
    · rfl
  change SymbolTable.mk _ _ _ = SymbolTable.mk _ _ _
  rw [objects_append, List.map_append, old, new]
  rfl

theorem addValueOf_append (fresh : name ∉ past.names) (text : String)
    (location : Option Location) :
    (past ++ table).addValueOf name text location =
      past ++ table.addValueOf name text location := by
  have added : (past ++ table).addValue text location = past ++ table.addValue text location := by
    change SymbolTable.mk _ _ _ = SymbolTable.mk _ _ _
    rw [values_append, List.append_assoc]
    rfl
  rw [addValueOf, addValueOf, added]
  apply modify_append _ fresh
  intro object
  have index : ((past ++ table).values.length : Int) =
      (table.values.length : Int) + (past.values.length : Int) := by
    rw [values_append, List.length_append, Int.natCast_add, Int.add_comm]
  rw [index]
  simp only [Object.addValue, Object.raise, List.map_append, List.map_cons, List.map_nil]

end SymbolTable

namespace Builder

/-- The builder as it is when all that it did came behind a past build. -/
def continuedBy (past builder : Builder) : Builder :=
  { builder with
    recordsFaults := past.recordsFaults
    table := past.table ++ builder.table
    trace := past.trace ++ builder.trace }

/-- No name that waits is that of an object of the past. -/
def Apart (past builder : Builder) : Prop :=
  ∀ name ∈ builder.pending, name.name ∉ past.table.names

variable (past builder : Builder)

@[simp] theorem frames_continuedBy : (past.continuedBy builder).frames = builder.frames := rfl

@[simp] theorem names_continuedBy : (past.continuedBy builder).names = builder.names := rfl

@[simp] theorem context_continuedBy : (past.continuedBy builder).context = builder.context := rfl

@[simp] theorem roles_continuedBy : (past.continuedBy builder).roles = builder.roles := rfl

@[simp] theorem mode_continuedBy : (past.continuedBy builder).mode = builder.mode := rfl

@[simp] theorem table_continuedBy :
    (past.continuedBy builder).table = past.table ++ builder.table := rfl

/-! ### Operations that look nothing up -/

theorem note_continuedBy (event : Event) :
    (past.continuedBy builder).note event = past.continuedBy (builder.note event) := by
  simp [continuedBy, note]

theorem reportAll_continuedBy (diagnostics : List Diagnostic) :
    (past.continuedBy builder).reportAll diagnostics =
      past.continuedBy (builder.reportAll diagnostics) := by
  have events : past.trace ++ builder.trace ++ diagnostics.map Event.diagnosed =
      past.trace ++ (builder.trace ++ diagnostics.map Event.diagnosed) := by
    apply Array.toList_inj.1
    simp
  simp only [continuedBy, reportAll, SymbolTable.addDiagnostics_append, events]

theorem report_continuedBy (diagnostic : Diagnostic) :
    (past.continuedBy builder).report diagnostic = past.continuedBy (builder.report diagnostic) :=
  reportAll_continuedBy past builder [diagnostic]

theorem reject_continuedBy (problem : SemanticProblem) (token : Token) :
    (past.continuedBy builder).reject problem token =
      past.continuedBy (builder.reject problem token) :=
  report_continuedBy past builder _

theorem enter_continuedBy (frame : Frame) :
    (past.continuedBy builder).enter frame = past.continuedBy (builder.enter frame) := by
  simp [continuedBy, enter]

theorem leave_continuedBy (frame : Frame) (around : List Frame) :
    (past.continuedBy builder).leave frame around =
      past.continuedBy (builder.leave frame around) := by
  simp [continuedBy, leave]

theorem dropNames_continuedBy :
    (past.continuedBy builder).dropNames = past.continuedBy builder.dropNames :=
  congrArg (fun builder : Builder => { builder with names := [] })
    (reportAll_continuedBy past builder _)

theorem dropModifiers_continuedBy :
    (past.continuedBy builder).dropModifiers = past.continuedBy builder.dropModifiers :=
  congrArg clearModifiers (reportAll_continuedBy past builder _)

theorem closeBody_continuedBy (frame : Frame) (around : List Frame) :
    (past.continuedBy builder).closeBody frame around =
      past.continuedBy (builder.closeBody frame around) := by
  rw [closeBody_eq, closeBody_eq, dropModifiers_continuedBy, leave_continuedBy,
    dropNames_continuedBy]
  rfl

theorem closeGroup_continuedBy (token : Token) :
    (past.continuedBy builder).closeGroup token = past.continuedBy (builder.closeGroup token) := by
  simp only [closeGroup, frames_continuedBy]
  split
  · exact closeBody_continuedBy past builder _ _
  · exact reject_continuedBy past builder _ token

theorem closeBlock_continuedBy (token : Token) :
    (past.continuedBy builder).closeBlock token = past.continuedBy (builder.closeBlock token) := by
  simp only [closeBlock, frames_continuedBy]
  split
  · exact closeBody_continuedBy past builder _ _
  · exact reject_continuedBy past builder _ token

theorem addModifier_continuedBy (role : Role) (token : Token) :
    (past.continuedBy builder).addModifier role token =
      past.continuedBy (builder.addModifier role token) := by
  rw [addModifier, addModifier, context_continuedBy, roles_continuedBy]
  cases builder.context with
  | group => exact reject_continuedBy past builder _ token
  | transition => exact reject_continuedBy past builder _ token
  | top | block =>
      dsimp only
      by_cases repeated : role ∈ builder.roles
      · rw [if_pos repeated, if_pos repeated]
        exact reject_continuedBy past builder _ token
      · rw [if_neg repeated, if_neg repeated]
        rfl

theorem selectMode_continuedBy (mode : WriteMode) (token : Token) :
    (past.continuedBy builder).selectMode mode token =
      past.continuedBy (builder.selectMode mode token) := by
  rw [selectMode, selectMode, context_continuedBy, mode_continuedBy]
  by_cases inside : builder.context = .transition
  · rw [if_pos inside, if_pos inside]
    by_cases unselected : builder.mode = .after
    · rw [if_pos unselected, if_pos unselected]
      rfl
    · rw [if_neg unselected, if_neg unselected]
      exact reject_continuedBy past builder _ token
  · rw [if_neg inside, if_neg inside]
    exact reject_continuedBy past builder _ token

theorem addStay_continuedBy (token : Token) :
    (past.continuedBy builder).addStay token = past.continuedBy (builder.addStay token) := by
  rw [addStay, addStay, context_continuedBy]
  by_cases inside : builder.context = .transition
  · rw [if_pos inside, if_pos inside]
    rfl
  · rw [if_neg inside, if_neg inside]
    exact reject_continuedBy past builder _ token

theorem beginTransition_continuedBy :
    (past.continuedBy builder).beginTransition = past.continuedBy builder.beginTransition := by
  rw [beginTransition, dropModifiers_continuedBy]
  exact enter_continuedBy past { builder.dropModifiers with mode := .after } .transition

theorem endStatement_continuedBy (token : Token) :
    (past.continuedBy builder).endStatement token =
      past.continuedBy (builder.endStatement token) := by
  simp only [endStatement, dropModifiers_continuedBy, names_continuedBy]
  split
  · rename_i name names _
    exact note_continuedBy past { builder.dropModifiers with names := names } _
  · exact reject_continuedBy past builder.dropModifiers _ token

/-! ### Operations that look a name up -/

variable {past builder}

theorem modify_continuedBy {name : String} (fresh : name ∉ past.table.names)
    (change : Object → Object)
    (raises : ∀ count object, change (object.raise count) = (change object).raise count)
    (builder : Builder) :
    { past.continuedBy builder with
        table := (past.continuedBy builder).table.modify name change } =
      past.continuedBy { builder with table := builder.table.modify name change } := by
  have modified := SymbolTable.modify_append builder.table fresh (raises _)
  simp only [continuedBy, modified]

theorem declare_continuedBy {owner : PendingName} (fresh : owner.name ∉ past.table.names) :
    (past.continuedBy builder).declare owner = past.continuedBy (builder.declare owner) := by
  rw [declare, declare, table_continuedBy, SymbolTable.find?_append _ fresh]
  cases builder.table.find? owner.name with
  | none =>
      let object : Object := ⟨owner.name, some owner.location, builder.roles, [], []⟩
      have declared : (past.table ++ builder.table).declare object =
          past.table ++ builder.table.declare object :=
        SymbolTable.declare_append builder.table rfl
      simp [continuedBy, declared, object]
  | some object =>
      have reported := reportAll_continuedBy past builder
        ((builder.modifiers.filter fun modifier => modifier.role ∈ object.roles).map
          Modifier.duplicate)
      have added := modify_continuedBy fresh (Object.addRoles builder.roles) fun _ _ => rfl
      exact (congrArg (fun next : Builder =>
        { next with table := next.table.modify owner.name (Object.addRoles next.roles) })
        reported).trans (added _)

theorem addTransition_continuedBy {receiver : PendingName}
    (fresh : receiver.name ∉ past.table.names) (origin target : PendingName) (mode : WriteMode) :
    (past.continuedBy builder).addTransition receiver origin target mode =
      past.continuedBy (builder.addTransition receiver origin target mode) := by
  rw [addTransition, addTransition, table_continuedBy, SymbolTable.find?_append _ fresh]
  cases builder.table.find? receiver.name with
  | none => exact report_continuedBy past builder _
  | some object =>
      have added := modify_continuedBy fresh
        (Object.addTransition ⟨some origin.location, origin.name, target.name, mode⟩)
        fun _ _ => rfl
      have same : (object.raise past.table.values.length).transition? origin.name =
          object.transition? origin.name := rfl
      dsimp only [Option.map_some]
      rw [same]
      cases object.transition? origin.name with
      | none => exact added builder
      | some previous =>
          dsimp only
          rw [report_continuedBy]
          exact added _

theorem openBody_continuedBy (apart : past.Apart builder) (frame : Option Site → Frame)
    (token : Token) :
    (past.continuedBy builder).openBody frame token =
      past.continuedBy (builder.openBody frame token) := by
  rw [openBody, openBody, names_continuedBy]
  cases waiting : builder.names with
  | nil =>
      have rejected := reject_continuedBy past builder (.expectedIdentifier token.value) token
      dsimp only
      rw [rejected]
      exact enter_continuedBy past
        (builder.reject (.expectedIdentifier token.value) token).clearModifiers (frame none)
  | cons owner around =>
      have fresh : owner.name ∉ past.table.names := by
        apply apart owner
        rw [pending, waiting]
        exact List.mem_cons_self
      dsimp only
      rw [declare_continuedBy fresh]
      exact enter_continuedBy past { (builder.declare owner).clearModifiers with names := [] } _

theorem addLiteral_continuedBy (apart : past.Apart builder) (token : Token) :
    (past.continuedBy builder).addLiteral token = past.continuedBy (builder.addLiteral token) := by
  rw [addLiteral, addLiteral, frames_continuedBy]
  cases innermost : builder.frames with
  | nil => exact reject_continuedBy past builder _ token
  | cons frame around =>
      cases frame with
      | block site => exact reject_continuedBy past builder _ token
      | transition => exact reject_continuedBy past builder _ token
      | group site =>
          cases site with
          | none => exact note_continuedBy past builder _
          | some site =>
              have fresh : site.owner.name ∉ past.table.names := by
                apply apart site.owner
                rw [pending, innermost]
                exact List.mem_append_right _ List.mem_cons_self
              have added := SymbolTable.addValueOf_append builder.table fresh token.value
                (some token.location)
              simp only [continuedBy, added]

theorem endTransition_continuedBy {around : List Frame}
    (innermost : builder.frames = .transition :: around) (apart : past.Apart builder)
    (token : Token) :
    (past.continuedBy builder).endTransition token around =
      past.continuedBy (builder.endTransition token around) := by
  have left : { (past.continuedBy builder).leave .transition around with
      mode := .after, names := [] } = past.continuedBy (builder.pastStatement around) :=
    congrArg (fun next : Builder => { next with mode := .after, names := [] })
      (leave_continuedBy past builder .transition around)
  have given (receiver origin target : PendingName) (waits : receiver ∈ builder.pending) :
      ((past.continuedBy builder).pastStatement around).addTransition receiver origin target
          builder.mode =
        past.continuedBy ((builder.pastStatement around).addTransition receiver origin target
          builder.mode) := by
    rw [pastStatement, left]
    exact addTransition_continuedBy (apart receiver waits) origin target builder.mode
  have refused := reject_continuedBy past (builder.pastStatement around)
    (.unexpectedEndOfStatement token.value) token
  rw [← left] at refused
  rw [endTransition, endTransition]
  dsimp only
  rw [names_continuedBy]
  cases waiting : builder.names with
  | nil => exact refused
  | cons target rest =>
      cases rest with
      | nil => exact refused
      | cons origin rest =>
          cases rest with
          | cons receiver others =>
              have waits : receiver ∈ builder.pending := by
                rw [pending, waiting]
                simp
              exact (congrArg (reportAll (others.map PendingName.unclosed))
                (given receiver origin target waits)).trans (reportAll_continuedBy past _ _)
          | nil =>
              cases owns : innermostOwner? around with
              | none => exact refused
              | some owner =>
                  exact given owner origin target (mem_pending_of_owns innermost owns)

theorem endAny_continuedBy (apart : past.Apart builder) (token : Token) :
    (past.continuedBy builder).endAny token = past.continuedBy (builder.endAny token) := by
  rw [endAny, endAny, frames_continuedBy]
  cases innermost : builder.frames with
  | nil => exact endStatement_continuedBy past builder token
  | cons frame around =>
      cases frame with
      | group site => exact endStatement_continuedBy past builder token
      | block site => exact endStatement_continuedBy past builder token
      | transition => exact endTransition_continuedBy innermost apart token

/-! ### Items -/

theorem stepToken_continuedBy (apart : past.Apart builder) (token : Token) :
    (past.continuedBy builder).stepToken token = past.continuedBy (builder.stepToken token) := by
  rw [stepToken, stepToken]
  cases token.type with
  | comment => rfl
  | identifier => rfl
  | openGroup => exact openBody_continuedBy apart .group token
  | openBlock => exact openBody_continuedBy apart .block token
  | closeGroup => exact closeGroup_continuedBy past builder token
  | closeBlock => exact closeBlock_continuedBy past builder token
  | literal => exact addLiteral_continuedBy apart token
  | equals => exact beginTransition_continuedBy past builder
  | star => exact addModifier_continuedBy past builder .entryPoint token
  | colon => exact addModifier_continuedBy past builder .endPoint token
  | caret => exact selectMode_continuedBy past builder .never token
  | percent => exact selectMode_continuedBy past builder .before token
  | atSign => rfl
  | dot => exact addStay_continuedBy past builder token
  | pipe => exact reject_continuedBy past builder _ token
  | semicolon => exact endAny_continuedBy apart token

theorem stepFault_continuedBy (same : past.recordsFaults = builder.recordsFaults)
    (fault : Fault) :
    (past.continuedBy builder).stepFault fault = past.continuedBy (builder.stepFault fault) := by
  have records : (past.continuedBy builder).recordsFaults = builder.recordsFaults := same
  rw [stepFault, stepFault, records]
  by_cases recorded : builder.recordsFaults = true
  · rw [if_pos recorded, if_pos recorded]
    exact report_continuedBy past builder _
  · rw [if_neg recorded, if_neg recorded]
    exact note_continuedBy past builder _

theorem step_continuedBy (same : past.recordsFaults = builder.recordsFaults)
    (apart : past.Apart builder) (item : Item) :
    (past.continuedBy builder).step item = past.continuedBy (builder.step item) := by
  cases item with
  | token token => exact stepToken_continuedBy apart token
  | fault fault => exact stepFault_continuedBy same fault

theorem Outcome.recordsFaults_eq {item : Item} {next : Builder}
    (outcome : Outcome builder item next) : next.recordsFaults = builder.recordsFaults := by
  cases outcome with
  | @opened _ _ owner =>
      change (builder.declare owner).recordsFaults = _
      rw [declare_eq]
  | closed => rw [closeBody_eq]; rfl
  | received =>
      change (addTransition _ _ _ _ (builder.pastStatement _)).recordsFaults = _
      rw [addTransition_eq]
      rfl
  | owned => rw [addTransition_eq]; rfl
  | _ => rfl

@[simp] theorem recordsFaults_run (builder : Builder) (items : List Item) :
    (builder.run items).recordsFaults = builder.recordsFaults := by
  induction items generalizing builder with
  | nil => rfl
  | cons item items ih => exact (ih _).trans (outcome_step builder item).recordsFaults_eq

theorem Apart.step (apart : past.Apart builder) {item : Item}
    (fresh : ∀ name ∈ item.name?, name.name ∉ past.table.names) :
    past.Apart (builder.step item) := by
  intro name waits
  rcases (passage_step builder item).pending_cases with ⟨fed, feeds, pushed⟩ | popped
  · rw [pushed, List.mem_cons] at waits
    rcases waits with rfl | older
    · exact fresh name feeds
    · exact apart name older
  · exact apart name (popped.subset waits)

/-- A run whose names are none of the past's does what it would do from the start. -/
theorem run_continuedBy (same : past.recordsFaults = builder.recordsFaults)
    (apart : past.Apart builder) {items : List Item}
    (fresh : ∀ item ∈ items, ∀ name ∈ item.name?, name.name ∉ past.table.names) :
    (past.continuedBy builder).run items = past.continuedBy (builder.run items) := by
  induction items generalizing builder with
  | nil => rfl
  | cons item items ih =>
      have kept := (outcome_step builder item).recordsFaults_eq
      rw [run_cons, run_cons, step_continuedBy same apart]
      apply ih (same.trans kept.symm)
      · exact apart.step (fresh item List.mem_cons_self)
      · exact fun other member => fresh other (List.mem_cons_of_mem _ member)

end Builder

end StateDescription
