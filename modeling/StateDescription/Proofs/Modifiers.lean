import StateDescription.Proofs.ItemReports

/-!
What items do to the modifiers that wait for a declaration. An item adds one to them or leaves them
as they are, or it lets all of them go at once: a declaration gives their roles to an object, an
opening without a name forgets them, and the rest reports them.
-/

namespace StateDescription

def Token.unattached (token : Token) : Diagnostic :=
  ⟨.semantic (.unattachedModifier token.value), some token.location⟩

def Token.duplicate (token : Token) : Diagnostic :=
  ⟨.semantic (.duplicateAttribute token.value), some token.location⟩

namespace Diagnostic

/-- The diagnostics that modifiers without a declaration and repeated roles get. -/
def isOfModifier (diagnostic : Diagnostic) : Bool :=
  diagnostic.kind = .unattachedModifier || diagnostic.kind = .duplicateAttribute

end Diagnostic

def Item.role? : Item → Option Role
  | token t => t.type.role?
  | fault _ => none

theorem Item.role?_of_opens? {token : Token} {frame : Option Site → Frame}
    (opens : token.type.opens? = some frame) : (Item.token token).role? = none := by
  obtain ⟨type, value, location⟩ := token
  unfold TokenType.opens? at opens
  split at opens <;> cases opens <;> rename_i same <;> cases same <;> rfl

namespace SymbolTable

/-- The roles of the object of that name; a name without an object has none. -/
def rolesOf (table : SymbolTable) (name : String) : Roles :=
  ((table.find? name).map Object.roles).getD .through

variable {table : SymbolTable} {name : String} {role : Role}

theorem rolesOf_of_find? {object : Object} (found : table.find? name = some object) :
    table.rolesOf name = object.roles := by
  rw [rolesOf, found]
  rfl

theorem rolesOf_modify {change : Object → Object} (keeps : Object.KeepsName change)
    (same : ∀ object, (change object).roles = object.roles)
    (subject name : String) (table : SymbolTable) :
    (table.modify subject change).rolesOf name = table.rolesOf name := by
  rw [rolesOf, find?_modify keeps, Option.map_map, rolesOf]
  congr 2
  funext object
  change (if object.name = subject then change object else object).roles = _
  split
  · exact same object
  · rfl

theorem rolesOf_addValueOf (subject text : String) (location : Option Location)
    (name : String) (table : SymbolTable) :
    (table.addValueOf subject text location).rolesOf name = table.rolesOf name :=
  rolesOf_modify (Object.keepsName_addValue _) (fun _ => rfl) subject name
    (table.addValue text location)

theorem mem_rolesOf_declare {object : Object} (fresh : table.find? object.name = none) :
    role ∈ (table.declare object).rolesOf name ↔
      role ∈ table.rolesOf name ∨ object.name = name ∧ role ∈ object.roles := by
  rw [rolesOf, find?_declare, rolesOf]
  by_cases declares : object.name = name
  · subst declares
    simp [fresh]
  · simp [declares]

theorem mem_rolesOf_addRoles {object : Object} {roles : Roles} {subject : String}
    (found : table.find? subject = some object) :
    role ∈ (table.modify subject (Object.addRoles roles)).rolesOf name ↔
      role ∈ table.rolesOf name ∨ subject = name ∧ role ∈ roles := by
  rw [rolesOf, find?_modify (Object.keepsName_addRoles roles), rolesOf]
  by_cases joins : subject = name
  · subst joins
    simp [found, name_of_find?_eq_some found, Object.addRoles]
  · cases other : table.find? name with
    | none => simp [joins]
    | some object => simp [joins, name_of_find?_eq_some other, Ne.symm joins]

end SymbolTable

/-- What an item does to the modifiers that wait. -/
inductive Handling
  | keeps
  | admits (modifier : Modifier)
  | refuses (diagnostic : Diagnostic)
  | drops
  | attaches (owner : PendingName)
  | forfeits

namespace Handling

/-- The modifiers that wait behind the item. -/
def waiting (modifiers : List Modifier) : Handling → List Modifier
  | keeps | refuses _ => modifiers
  | admits modifier => modifiers ++ [modifier]
  | drops | attaches _ | forfeits => []

/-- The diagnostics of modifiers that the item makes. -/
def diagnostics (builder : Builder) : Handling → List Diagnostic
  | keeps | admits _ | forfeits => []
  | refuses diagnostic => [diagnostic]
  | drops => builder.modifiers.map Modifier.unattached
  | attaches owner =>
    (builder.modifiers.filter (·.role ∈ builder.table.rolesOf owner.name)).map Modifier.duplicate

/-- The object of that name gets the roles of the modifiers that wait. -/
def GivesTo (name : String) : Handling → Prop
  | attaches owner => owner.name = name
  | _ => False

end Handling

namespace Builder

variable {builder next : Builder} {item : Item} {token : Token} {name : String} {role : Role}

/-- A token of that role waits in the context of a declaration, if its role does not wait yet. -/
def handlingOf (role : Role) (token : Token) (builder : Builder) : Handling :=
  match builder.context with
  | .group | .transition => .refuses token.unattached
  | .top | .block =>
    if role ∈ builder.roles then .refuses token.duplicate
    else .admits ⟨role, token.value, token.location⟩

def handling (builder : Builder) : Item → Handling
  | .fault _ => .keeps
  | .token token =>
    match token.type with
    | .openGroup | .openBlock =>
      match builder.names with
      | owner :: _ => .attaches owner
      | [] => .forfeits
    | .closeGroup => if builder.context = .group then .drops else .keeps
    | .closeBlock => if builder.context = .block then .drops else .keeps
    | .equals => .drops
    | .semicolon => if builder.context = .transition then .keeps else .drops
    | .star => builder.handlingOf .entryPoint token
    | .colon => builder.handlingOf .endPoint token
    | .caret | .percent | .dot =>
      if builder.context = .transition then .keeps else .refuses token.unattached
    | _ => .keeps

/-! ### The handling of a token -/

theorem handling_of_opens? {frame : Option Site → Frame} (opens : token.type.opens? = some frame)
    (builder : Builder) :
    builder.handling (.token token) =
      match builder.names with
      | owner :: _ => .attaches owner
      | [] => .forfeits := by
  unfold TokenType.opens? at opens
  split at opens <;> rename_i type <;> cases opens <;> rw [handling, type]

theorem handling_of_closes? (closes : token.type.closes? = some builder.context) :
    builder.handling (.token token) = .drops := by
  unfold TokenType.closes? at closes
  split at closes <;> rename_i type
  · rw [handling, type]
    exact if_pos (Option.some.inj closes).symm
  · rw [handling, type]
    exact if_pos (Option.some.inj closes).symm
  · cases closes

theorem handling_of_role? (gives : token.type.role? = some role) (builder : Builder) :
    builder.handling (.token token) = builder.handlingOf role token := by
  unfold TokenType.role? at gives
  split at gives <;> rename_i type <;> cases gives <;> rw [handling, type]

theorem handling_of_mode? {mode : WriteMode} (selects : token.type.mode? = some mode)
    (builder : Builder) :
    builder.handling (.token token) =
      if builder.context = .transition then .keeps else .refuses token.unattached := by
  unfold TokenType.mode? at selects
  split at selects <;> rename_i type <;> cases selects <;> rw [handling, type]

theorem handling_inside_statement {around : List Frame} (type : token.type = .semicolon)
    (innermost : builder.frames = .transition :: around) :
    builder.handling (.token token) = .keeps := by
  have inside : builder.context = .transition := by
    rw [context, innermost]
    rfl
  rw [handling, type]
  exact if_pos inside

theorem handling_outside_statement (type : token.type = .semicolon)
    (outside : builder.context ≠ .transition) : builder.handling (.token token) = .drops := by
  rw [handling, type]
  exact if_neg outside

/-- A token that gets a problem and no more is refused, if the problem is one of modifiers. -/
theorem Rejects.handling_eq {problem : SemanticProblem} (rejects : Rejects builder token problem) :
    builder.handling (.token token) =
      if Diagnostic.isOfModifier ⟨.semantic problem, some token.location⟩ then
        .refuses ⟨.semantic problem, some token.location⟩
      else .keeps := by
  cases rejects with
  | groupNotOpen type elsewhere =>
      rw [handling, type]
      exact if_neg elsewhere
  | blockNotOpen type elsewhere =>
      rw [handling, type]
      exact if_neg elsewhere
  | literalOutside type => rw [handling, type]; rfl
  | modifierInside type inside =>
      rw [handling_of_role? type, handlingOf]
      rcases inside with inside | inside <;> rw [inside] <;> rfl
  | modifierRepeated type outside repeated =>
      rw [handling_of_role? type, handlingOf]
      rcases outside with outside | outside <;> rw [outside] <;> exact if_pos repeated
  | modeOutside type elsewhere =>
      rw [handling_of_mode? type]
      exact if_neg elsewhere
  | modeRepeated type inside =>
      rw [handling_of_mode? type]
      exact if_pos inside
  | stayOutside type elsewhere =>
      rw [handling, type]
      exact if_neg elsewhere
  | reserved type => rw [handling, type]; rfl

theorem Names.handling_eq {name : PendingName} (names : Names builder token name) :
    builder.handling (.token token) = .keeps := by
  cases names with
  | identifier type => rw [handling, type]
  | broadcast type => rw [handling, type]
  | stay type inside =>
      rw [handling, type]
      exact if_pos inside

/-- Why an item is handled as it is. -/
inductive Handles (builder : Builder) : Item → Handling → Prop
  | keeps {item : Item} (other : item.role? = none) : Handles builder item .keeps
  | admits (modifier : Modifier) : Handles builder (.token modifier.toToken) (.admits modifier)
  | refuses {token : Token} {diagnostic : Diagnostic}
      (concerns : diagnostic = token.unattached ∨ diagnostic = token.duplicate) :
      Handles builder (.token token) (.refuses diagnostic)
  | drops {item : Item} (other : item.role? = none) : Handles builder item .drops
  | attaches {token : Token} {frame : Option Site → Frame} {owner : PendingName}
      {around : List PendingName} (type : token.type.opens? = some frame)
      (waiting : builder.names = owner :: around) : Handles builder (.token token) (.attaches owner)
  | forfeits {token : Token} {frame : Option Site → Frame} (type : token.type.opens? = some frame)
      (waiting : builder.names = []) : Handles builder (.token token) .forfeits

theorem handles_role (gives : token.type.role? = some role) (builder : Builder) :
    Handles builder (.token token) (builder.handlingOf role token) := by
  unfold handlingOf
  split
  · exact .refuses (.inl rfl)
  · exact .refuses (.inl rfl)
  all_goals
    split
    · exact .refuses (.inr rfl)
    · have same : token = Modifier.toToken ⟨role, token.value, token.location⟩ := by
        rw [Modifier.toToken, Role.tokenType_of_role? gives]
      rw [same]
      exact .admits _

theorem handles_opening {frame : Option Site → Frame} (type : token.type.opens? = some frame)
    (builder : Builder) :
    Handles builder (.token token)
      (match builder.names with
        | owner :: _ => .attaches owner
        | [] => .forfeits) := by
  split
  · rename_i owner around waiting
    exact .attaches type waiting
  · rename_i waiting
    exact .forfeits type waiting

theorem handles_handling (builder : Builder) (item : Item) :
    Handles builder item (builder.handling item) := by
  cases item with
  | fault fault => exact .keeps rfl
  | token token =>
      have plain {handling : Handling} (other : (Item.token token).role? = none)
          (handles : handling = .keeps ∨ handling = .drops) :
          Handles builder (.token token) handling := by
        rcases handles with rfl | rfl
        · exact .keeps other
        · exact .drops other
      have outside (other : (Item.token token).role? = none) :
          Handles builder (.token token)
            (if builder.context = .transition then .keeps else .refuses token.unattached) := by
        split
        · exact .keeps other
        · exact .refuses (.inl rfl)
      obtain ⟨type, value, location⟩ := token
      cases type with
      | openGroup => exact handles_opening rfl builder
      | openBlock => exact handles_opening rfl builder
      | closeGroup => exact plain rfl (ite_eq_or_eq _ _ _).symm
      | closeBlock => exact plain rfl (ite_eq_or_eq _ _ _).symm
      | semicolon => exact plain rfl (ite_eq_or_eq _ _ _)
      | equals => exact .drops rfl
      | star => exact handles_role rfl builder
      | colon => exact handles_role rfl builder
      | caret => exact outside rfl
      | percent => exact outside rfl
      | dot => exact outside rfl
      | _ => exact .keeps rfl

/-! ### What follows from the handling -/

/-- The next builder has the modifiers that the handling leaves, and its table the roles and the
diagnostics of modifiers that the handling gives. -/
structure Handled (builder next : Builder) (handling : Handling) : Prop where
  modifiers : next.modifiers = handling.waiting builder.modifiers
  roles : (∀ role, role ∈ builder.roles ↔ role ∈ builder.modifiers.map Modifier.role) →
    ∀ role, role ∈ next.roles ↔ role ∈ next.modifiers.map Modifier.role
  diagnostics : next.table.diagnostics.filter Diagnostic.isOfModifier =
    builder.table.diagnostics.filter Diagnostic.isOfModifier ++ handling.diagnostics builder
  rolesOf : ∀ name role, role ∈ next.table.rolesOf name ↔
    role ∈ builder.table.rolesOf name ∨ handling.GivesTo name ∧ role ∈ builder.roles

theorem roles_cleared (role : Role) :
    role ∈ Roles.through ↔ role ∈ ([] : List Modifier).map Modifier.role := by
  simp

theorem rolesOf_unchanged {handling : Handling} {held given : Prop}
    (other : ¬handling.GivesTo name) : held ↔ held ∨ handling.GivesTo name ∧ given :=
  (or_iff_left fun gives => other gives.1).symm

namespace Handled

variable {handling : Handling}

theorem refl (builder : Builder) : Handled builder builder .keeps where
  modifiers := rfl
  roles := fun known => known
  diagnostics := (List.append_nil _).symm
  rolesOf := fun _ _ => rolesOf_unchanged id

theorem trans {last : Builder} (early : Handled builder next .keeps)
    (late : Handled next last .keeps) : Handled builder last .keeps where
  modifiers := late.modifiers.trans early.modifiers
  roles := fun known => late.roles (early.roles known)
  diagnostics := by
    rw [late.diagnostics, early.diagnostics]
    exact List.append_nil _
  rolesOf := by
    intro name role
    rw [late.rolesOf, early.rolesOf]
    exact (rolesOf_unchanged id).symm

theorem of_eq {after : Builder} (handled : Handled builder next handling)
    (modifiers : after.modifiers = next.modifiers) (roles : after.roles = next.roles)
    (table : after.table = next.table) : Handled builder after handling where
  modifiers := modifiers.trans handled.modifiers
  roles := by
    rw [modifiers, roles]
    exact handled.roles
  diagnostics := by
    rw [table]
    exact handled.diagnostics
  rolesOf := by
    rw [table]
    exact handled.rolesOf

/-- Diagnostics of anything else do not count. -/
theorem reported {made : List Diagnostic} (handled : Handled builder next handling)
    (others : ∀ diagnostic ∈ made, diagnostic.isOfModifier = false) :
    Handled builder (next.reportAll made) handling where
  modifiers := handled.modifiers
  roles := handled.roles
  diagnostics := by
    have none : made.filter Diagnostic.isOfModifier = [] := by
      rw [List.filter_eq_nil_iff]
      intro diagnostic member
      rw [others diagnostic member]
      exact Bool.false_ne_true
    change List.filter _ (next.table.diagnostics ++ made) = _
    rw [List.filter_append, none, List.append_nil]
    exact handled.diagnostics
  rolesOf := handled.rolesOf

end Handled

theorem isOfModifier_fault (fault : Fault) : fault.toDiagnostic.isOfModifier = false := by
  obtain ⟨problem, location⟩ := fault
  cases problem <;> rfl

theorem isOfModifier_unclosed (names : List PendingName) :
    ∀ diagnostic ∈ names.map PendingName.unclosed, diagnostic.isOfModifier = false :=
  List.forall_mem_map.2 fun _ _ => rfl

theorem filter_isOfModifier_unattached (modifiers : List Modifier) :
    (modifiers.map Modifier.unattached).filter Diagnostic.isOfModifier =
      modifiers.map Modifier.unattached :=
  List.filter_eq_self.2 (List.forall_mem_map.2 fun _ _ => rfl)

theorem filter_isOfModifier_duplicate (modifiers : List Modifier) :
    (modifiers.map Modifier.duplicate).filter Diagnostic.isOfModifier =
      modifiers.map Modifier.duplicate :=
  List.filter_eq_self.2 (List.forall_mem_map.2 fun _ _ => rfl)

theorem handled_refuse {problem : SemanticProblem}
    (concerns : Diagnostic.isOfModifier ⟨.semantic problem, some token.location⟩ = true)
    (builder : Builder) :
    Handled builder (builder.reject problem token)
      (.refuses ⟨.semantic problem, some token.location⟩) where
  modifiers := rfl
  roles := fun known => known
  diagnostics := by
    change List.filter _ (builder.table.diagnostics ++ [_]) = _
    rw [List.filter_append, List.filter_singleton, concerns]
    rfl
  rolesOf := fun _ _ => rolesOf_unchanged id

theorem handled_admit (modifier : Modifier) (builder : Builder) :
    Handled builder { builder with
      roles := builder.roles ∪ .only modifier.role
      modifiers := builder.modifiers ++ [modifier] } (.admits modifier) where
  modifiers := rfl
  roles := by
    intro known role
    rw [Roles.mem_union, known, Roles.mem_only, List.map_append, List.mem_append]
    exact or_congr_right List.mem_singleton.symm
  diagnostics := (List.append_nil _).symm
  rolesOf := fun _ _ => rolesOf_unchanged id

theorem handled_dropModifiers (builder : Builder) :
    Handled builder builder.dropModifiers .drops where
  modifiers := rfl
  roles := fun _ role => roles_cleared role
  diagnostics := by
    change List.filter _ (builder.table.diagnostics ++ _) = _
    rw [List.filter_append, filter_isOfModifier_unattached]
    rfl
  rolesOf := fun _ _ => rolesOf_unchanged id

theorem handled_forfeit {problem : SemanticProblem} (location : Option Location)
    (other : Diagnostic.isOfModifier ⟨.semantic problem, location⟩ = false) (builder : Builder) :
    Handled builder (builder.report ⟨.semantic problem, location⟩).clearModifiers .forfeits where
  modifiers := rfl
  roles := fun _ role => roles_cleared role
  diagnostics := by
    change List.filter _ (builder.table.diagnostics ++ [_]) = _
    rw [List.filter_append, List.filter_singleton, other]
    rfl
  rolesOf := fun _ _ => rolesOf_unchanged id

theorem handled_declare (owner : PendingName) (builder : Builder) :
    Handled builder (builder.declare owner).clearModifiers (.attaches owner) where
  modifiers := rfl
  roles := fun _ role => roles_cleared role
  diagnostics := by
    change List.filter _ (builder.declare owner).table.diagnostics = _
    rw [declare, Handling.diagnostics]
    cases found : builder.table.find? owner.name with
    | none => simp [SymbolTable.rolesOf, found]
    | some object =>
        rw [SymbolTable.rolesOf_of_find? found]
        dsimp only
        rw [SymbolTable.diagnostics_modify]
        change List.filter _ (_ ++ _) = _
        rw [List.filter_append, filter_isOfModifier_duplicate]
  rolesOf := by
    intro name role
    change role ∈ (builder.declare owner).table.rolesOf name ↔ _
    rw [declare]
    cases found : builder.table.find? owner.name with
    | none => exact SymbolTable.mem_rolesOf_declare found
    | some object => exact SymbolTable.mem_rolesOf_addRoles found

theorem handled_table {table : SymbolTable}
    (diagnostics : table.diagnostics = builder.table.diagnostics)
    (rolesOf : ∀ name, table.rolesOf name = builder.table.rolesOf name) :
    Handled builder { builder with table := table } .keeps where
  modifiers := rfl
  roles := fun known => known
  diagnostics := by
    rw [diagnostics]
    exact (List.append_nil _).symm
  rolesOf := by
    intro name role
    rw [rolesOf]
    exact rolesOf_unchanged id

theorem handled_addTransition (receiver origin target : PendingName) (mode : WriteMode)
    (builder : Builder) :
    Handled builder (builder.addTransition receiver origin target mode) .keeps := by
  have gives (builder : Builder) (transition : Transition) :
      Handled builder { builder with
        table := builder.table.modify receiver.name (Object.addTransition transition) } .keeps :=
    handled_table rfl
      (SymbolTable.rolesOf_modify (Object.keepsName_addTransition _) (fun _ => rfl) _ · _)
  rw [addTransition]
  cases builder.table.find? receiver.name with
  | none => exact (Handled.refl builder).reported (List.forall_mem_singleton.2 rfl)
  | some object =>
      dsimp only
      cases object.transition? origin.name with
      | none => exact gives builder _
      | some previous =>
          have cited := (Handled.refl builder).reported
            (List.forall_mem_singleton.2 (rfl : Diagnostic.isOfModifier
              ⟨.semantic (.duplicateTransition origin.name target.name previous.location),
                some origin.location⟩ = false))
          exact cited.trans (gives _ _)

theorem Outcome.handled (outcome : Outcome builder item next) :
    Handled builder next (builder.handling item) := by
  have past (around : List Frame) : Handled builder (builder.pastStatement around) .keeps :=
    (Handled.refl builder).of_eq rfl rfl rfl
  cases outcome with
  | comment type =>
      rw [handling, type]
      exact .refl builder
  | faultRecorded =>
      exact (Handled.refl builder).reported (List.forall_mem_singleton.2 (isOfModifier_fault _))
  | faultDropped => exact (Handled.refl builder).of_eq rfl rfl rfl
  | @rejected token problem rejects =>
      rw [rejects.handling_eq]
      split
      · rename_i concerns
        exact handled_refuse concerns builder
      · rename_i other
        refine (Handled.refl builder).reported (List.forall_mem_singleton.2 ?_)
        exact Bool.eq_false_iff.2 other
  | named names =>
      rw [names.handling_eq]
      exact (Handled.refl builder).of_eq rfl rfl rfl
  | @opened token frame owner around type waiting =>
      rw [handling_of_opens? type, waiting]
      exact (handled_declare owner builder).of_eq rfl rfl rfl
  | openedBare type waiting =>
      rw [handling_of_opens? type, waiting]
      exact (handled_forfeit _ rfl builder).of_eq rfl rfl rfl
  | @closed token frame around type innermost =>
      have inside : builder.context = frame.context := by rw [context, innermost]
      rw [← inside] at type
      rw [handling_of_closes? type, closeBody_eq]
      exact ((handled_dropModifiers builder).reported (isOfModifier_unclosed _)).of_eq rfl rfl rfl
  | @valued token site around type innermost =>
      rw [handling, type]
      exact handled_table rfl (SymbolTable.rolesOf_addValueOf _ _ _ · builder.table)
  | literalDropped type =>
      rw [handling, type]
      exact (Handled.refl builder).of_eq rfl rfl rfl
  | @modified token role type outside fresh =>
      have admits : builder.handling (.token token) =
          .admits ⟨role, token.value, token.location⟩ := by
        rw [handling_of_role? type, handlingOf]
        rcases outside with outside | outside <;> rw [outside] <;> exact if_neg fresh
      rw [admits]
      exact handled_admit ⟨role, token.value, token.location⟩ builder
  | modeSelected type inside =>
      rw [handling_of_mode? type, if_pos inside]
      exact (Handled.refl builder).of_eq rfl rfl rfl
  | began type =>
      rw [handling, type]
      exact (handled_dropModifiers builder).of_eq rfl rfl rfl
  | @received token around target origin receiver others type innermost waiting =>
      rw [handling_inside_statement type innermost]
      exact ((past around).trans (handled_addTransition _ _ _ _ _)).reported
        (isOfModifier_unclosed others)
  | @owned token around target origin owner type innermost waiting owns =>
      rw [handling_inside_statement type innermost]
      exact (past around).trans (handled_addTransition _ _ _ _ _)
  | @incomplete token around type innermost few =>
      rw [handling_inside_statement type innermost]
      exact (past around).reported (List.forall_mem_singleton.2 rfl)
  | nameDropped type outside waiting =>
      rw [handling_outside_statement type outside]
      exact (handled_dropModifiers builder).of_eq rfl rfl rfl
  | nothingToEnd type outside waiting =>
      rw [handling_outside_statement type outside]
      exact (handled_dropModifiers builder).reported (List.forall_mem_singleton.2 rfl)

theorem handled_step (builder : Builder) (item : Item) :
    Handled builder (builder.step item) (builder.handling item) :=
  (outcome_step builder item).handled

/-- The roles are those that the waiting modifiers give. -/
theorem mem_roles_run (recordsFaults : Bool) (items : List Item) (role : Role) :
    role ∈ ((new recordsFaults).run items).roles ↔
      role ∈ ((new recordsFaults).run items).modifiers.map Modifier.role := by
  induction items using List.reverseRecOn generalizing role with
  | nil => exact roles_cleared role
  | append_singleton items item ih =>
      rw [run_concat]
      exact (handled_step _ item).roles ih role

end Builder

end StateDescription
