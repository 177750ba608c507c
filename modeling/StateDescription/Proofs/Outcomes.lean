import StateDescription.Builder

/-!
What one item can do to a builder, one constructor for each way. Whatever every step preserves
is proved by cases on the outcome of a step.
-/

namespace StateDescription

namespace TokenType

def role? : TokenType → Option Role
  | star => some .entryPoint
  | colon => some .endPoint
  | _ => none

/-- The write mode that a token selects. -/
def mode? : TokenType → Option WriteMode
  | caret => some .never
  | percent => some .before
  | _ => none

def opens? : TokenType → Option (Option Site → Frame)
  | openGroup => some .group
  | openBlock => some .block
  | _ => none

theorem site?_of_opens? {type : TokenType} {frame : Option Site → Frame}
    (opens : type.opens? = some frame) (site : Option Site) : (frame site).site? = site := by
  unfold opens? at opens
  split at opens <;> cases opens <;> rfl

theorem names_of_opens? {type : TokenType} {frame : Option Site → Frame}
    (opens : type.opens? = some frame) (site : Site) :
    (frame (some site)).names = site.owner :: site.around := by
  rw [Frame.names, site?_of_opens? opens]

theorem names_none_of_opens? {type : TokenType} {frame : Option Site → Frame}
    (opens : type.opens? = some frame) : (frame none).names = [] := by
  rw [Frame.names, site?_of_opens? opens]

theorem owner?_of_opens? {type : TokenType} {frame : Option Site → Frame}
    (opens : type.opens? = some frame) (site : Option Site) :
    (frame site).owner? = site.map Site.owner := by
  rw [Frame.owner?, site?_of_opens? opens]

def closes? : TokenType → Option Context
  | closeGroup => some .group
  | closeBlock => some .block
  | _ => none

end TokenType

def Role.tokenType : Role → TokenType
  | .entryPoint => .star
  | .endPoint => .colon

@[simp] theorem Role.role?_tokenType (role : Role) : role.tokenType.role? = some role := by
  cases role <;> rfl

theorem Role.tokenType_of_role? {type : TokenType} {role : Role}
    (gives : type.role? = some role) : role.tokenType = type := by
  unfold TokenType.role? at gives
  split at gives <;> cases gives <;> rfl

/-- The token that a modifier was. -/
def Modifier.toToken (modifier : Modifier) : Token :=
  ⟨modifier.role.tokenType, modifier.token, modifier.location⟩

namespace Builder

/-- Why a token does nothing but leave a diagnostic. -/
inductive Rejects (builder : Builder) (token : Token) : SemanticProblem → Prop
  | groupNotOpen (type : token.type = .closeGroup) (elsewhere : builder.context ≠ .group) :
      Rejects builder token (.unbalancedGroup token.value)
  | blockNotOpen (type : token.type = .closeBlock) (elsewhere : builder.context ≠ .block) :
      Rejects builder token (.unbalancedBlock token.value)
  | literalOutside (type : token.type = .literal) (elsewhere : builder.context ≠ .group) :
      Rejects builder token (.literalOutsideGroup token.value)
  | modifierInside {role : Role} (type : token.type.role? = some role)
      (inside : builder.context = .group ∨ builder.context = .transition) :
      Rejects builder token (.unattachedModifier token.value)
  | modifierRepeated {role : Role} (type : token.type.role? = some role)
      (outside : builder.context = .top ∨ builder.context = .block)
      (repeated : role ∈ builder.roles) :
      Rejects builder token (.duplicateAttribute token.value)
  | modeOutside {mode : WriteMode} (type : token.type.mode? = some mode)
      (elsewhere : builder.context ≠ .transition) :
      Rejects builder token (.unattachedModifier token.value)
  | modeRepeated {mode : WriteMode} (type : token.type.mode? = some mode)
      (inside : builder.context = .transition) (selected : builder.mode ≠ .after) :
      Rejects builder token (.duplicateWriteMode token.value)
  | stayOutside (type : token.type = .dot) (elsewhere : builder.context ≠ .transition) :
      Rejects builder token (.unattachedModifier token.value)
  | reserved (type : token.type = .pipe) :
      Rejects builder token (.reservedTokenUnused token.value)

inductive Names (builder : Builder) (token : Token) : PendingName → Prop
  | identifier (type : token.type = .identifier) :
      Names builder token ⟨token.value, token.location, false⟩
  | broadcast (type : token.type = .atSign) : Names builder token ⟨"@", token.location, true⟩
  | stay (type : token.type = .dot) (inside : builder.context = .transition) :
      Names builder token ⟨".", token.location, true⟩

/-- The builder behind the `;` of a transition, when the names of the statement are gone. -/
def pastStatement (around : List Frame) (builder : Builder) : Builder :=
  { builder.leave .transition around with mode := .after, names := [] }

inductive Outcome (builder : Builder) : Item → Builder → Prop
  | comment {token : Token} (type : token.type = .comment) :
      Outcome builder (.token token) builder
  | faultRecorded {fault : Fault} (records : builder.recordsFaults = true) :
      Outcome builder (.fault fault) (builder.report fault.toDiagnostic)
  | faultDropped {fault : Fault} (drops : builder.recordsFaults = false) :
      Outcome builder (.fault fault) (builder.note (.faultDropped fault))
  | rejected {token : Token} {problem : SemanticProblem}
      (rejects : Rejects builder token problem) :
      Outcome builder (.token token) (builder.reject problem token)
  | named {token : Token} {name : PendingName} (names : Names builder token name) :
      Outcome builder (.token token) (builder.pushName name)
  | opened {token : Token} {frame : Option Site → Frame} {owner : PendingName}
      {around : List PendingName} (type : token.type.opens? = some frame)
      (waiting : builder.names = owner :: around) :
      Outcome builder (.token token)
        ({ (builder.declare owner).clearModifiers with names := [] }.enter
          (frame (some ⟨owner, around⟩)))
  | openedBare {token : Token} {frame : Option Site → Frame}
      (type : token.type.opens? = some frame) (waiting : builder.names = []) :
      Outcome builder (.token token)
        ((builder.reject (.expectedIdentifier token.value) token).clearModifiers.enter
          (frame none))
  | closed {token : Token} {frame : Frame} {around : List Frame}
      (type : token.type.closes? = some frame.context)
      (innermost : builder.frames = frame :: around) :
      Outcome builder (.token token) (builder.closeBody frame around)
  | valued {token : Token} {site : Site} {around : List Frame} (type : token.type = .literal)
      (innermost : builder.frames = .group (some site) :: around) :
      Outcome builder (.token token)
        { builder with
          table :=
            builder.table.addValueOf site.owner.name token.value (some token.location) }
  | literalDropped {token : Token} {around : List Frame} (type : token.type = .literal)
      (innermost : builder.frames = .group none :: around) :
      Outcome builder (.token token) (builder.note (.literalDropped token.value))
  | modified {token : Token} {role : Role} (type : token.type.role? = some role)
      (outside : builder.context = .top ∨ builder.context = .block)
      (fresh : role ∉ builder.roles) :
      Outcome builder (.token token)
        { builder with
          roles := builder.roles ∪ .only role
          modifiers := builder.modifiers ++ [⟨role, token.value, token.location⟩] }
  | modeSelected {token : Token} {mode : WriteMode} (type : token.type.mode? = some mode)
      (inside : builder.context = .transition) (unselected : builder.mode = .after) :
      Outcome builder (.token token) { builder with mode := mode }
  | began {token : Token} (type : token.type = .equals) :
      Outcome builder (.token token) builder.beginTransition
  | received {token : Token} {around : List Frame} {target origin receiver : PendingName}
      {others : List PendingName} (type : token.type = .semicolon)
      (innermost : builder.frames = .transition :: around)
      (waiting : builder.names = target :: origin :: receiver :: others) :
      Outcome builder (.token token)
        (((builder.pastStatement around).addTransition receiver origin target
          builder.mode).reportAll (others.map PendingName.unclosed))
  | owned {token : Token} {around : List Frame} {target origin owner : PendingName}
      (type : token.type = .semicolon)
      (innermost : builder.frames = .transition :: around)
      (waiting : builder.names = [target, origin])
      (owns : innermostOwner? around = some owner) :
      Outcome builder (.token token)
        ((builder.pastStatement around).addTransition owner origin target builder.mode)
  | incomplete {token : Token} {around : List Frame} (type : token.type = .semicolon)
      (innermost : builder.frames = .transition :: around)
      (few : builder.names.length < 2 ∨
        builder.names.length = 2 ∧ innermostOwner? around = none) :
      Outcome builder (.token token)
        ((builder.pastStatement around).reject (.unexpectedEndOfStatement token.value) token)
  | nameDropped {token : Token} {name : PendingName} {names : List PendingName}
      (type : token.type = .semicolon) (outside : builder.context ≠ .transition)
      (waiting : builder.names = name :: names) :
      Outcome builder (.token token)
        ({ builder.dropModifiers with names := names }.note (.nameDropped name.name))
  | nothingToEnd {token : Token} (type : token.type = .semicolon)
      (outside : builder.context ≠ .transition) (waiting : builder.names = []) :
      Outcome builder (.token token)
        (builder.dropModifiers.reject (.unexpectedEndOfStatement token.value) token)

/-! ### Every step has one of the outcomes -/

variable {builder : Builder} {token : Token}

theorem exists_frame_of_context (inside : builder.context ≠ .top) :
    ∃ frame around, builder.frames = frame :: around ∧ builder.context = frame.context := by
  cases innermost : builder.frames with
  | nil =>
      rw [context, innermost] at inside
      contradiction
  | cons frame around =>
      refine ⟨frame, around, rfl, ?_⟩
      rw [context, innermost]

theorem exists_group_of_context (inside : builder.context = .group) :
    ∃ site around, builder.frames = .group site :: around := by
  obtain ⟨frame, around, innermost, same⟩ :=
    exists_frame_of_context (by rw [inside]; decide)
  rw [inside] at same
  cases frame with
  | group site => exact ⟨site, around, innermost⟩
  | block site => cases same
  | transition => cases same

theorem exists_block_of_context (inside : builder.context = .block) :
    ∃ site around, builder.frames = .block site :: around := by
  obtain ⟨frame, around, innermost, same⟩ :=
    exists_frame_of_context (by rw [inside]; decide)
  rw [inside] at same
  cases frame with
  | group site => cases same
  | block site => exact ⟨site, around, innermost⟩
  | transition => cases same

theorem exists_transition_of_context (inside : builder.context = .transition) :
    ∃ around, builder.frames = .transition :: around := by
  obtain ⟨frame, around, innermost, same⟩ :=
    exists_frame_of_context (by rw [inside]; decide)
  rw [inside] at same
  cases frame with
  | group site => cases same
  | block site => cases same
  | transition => exact ⟨around, innermost⟩

theorem outcome_openBody {frame : Option Site → Frame}
    (type : token.type.opens? = some frame) :
    Outcome builder (.token token) (builder.openBody frame token) := by
  rw [openBody]
  split
  · rename_i owner around waiting
    exact .opened type waiting
  · rename_i waiting
    exact .openedBare type waiting

theorem outcome_closeGroup (type : token.type = .closeGroup) :
    Outcome builder (.token token) (builder.closeGroup token) := by
  rw [closeGroup]
  split
  · rename_i site around innermost
    exact .closed (by rw [type]; rfl) innermost
  · rename_i elsewhere
    apply Outcome.rejected
    apply Rejects.groupNotOpen type
    intro inside
    obtain ⟨site, around, innermost⟩ := exists_group_of_context inside
    exact elsewhere site around innermost

theorem outcome_closeBlock (type : token.type = .closeBlock) :
    Outcome builder (.token token) (builder.closeBlock token) := by
  rw [closeBlock]
  split
  · rename_i site around innermost
    exact .closed (by rw [type]; rfl) innermost
  · rename_i elsewhere
    apply Outcome.rejected
    apply Rejects.blockNotOpen type
    intro inside
    obtain ⟨site, around, innermost⟩ := exists_block_of_context inside
    exact elsewhere site around innermost

theorem outcome_addLiteral (type : token.type = .literal) :
    Outcome builder (.token token) (builder.addLiteral token) := by
  rw [addLiteral]
  split
  · rename_i site around innermost
    exact .valued type innermost
  · rename_i around innermost
    exact .literalDropped type innermost
  · rename_i notOwned notBare
    apply Outcome.rejected
    apply Rejects.literalOutside type
    intro inside
    obtain ⟨site, around, innermost⟩ := exists_group_of_context inside
    cases site with
    | none => exact notBare around innermost
    | some site => exact notOwned site around innermost

theorem outcome_addModifier {role : Role} (type : token.type.role? = some role) :
    Outcome builder (.token token) (builder.addModifier role token) := by
  rw [addModifier]
  split
  · rename_i inside
    exact .rejected (.modifierInside type (.inl inside))
  · rename_i inside
    exact .rejected (.modifierInside type (.inr inside))
  all_goals
    rename_i outside
    split
  · rename_i repeated
    exact .rejected (.modifierRepeated type (.inl outside) repeated)
  · rename_i fresh
    exact .modified type (.inl outside) fresh
  · rename_i repeated
    exact .rejected (.modifierRepeated type (.inr outside) repeated)
  · rename_i fresh
    exact .modified type (.inr outside) fresh

theorem outcome_selectMode {mode : WriteMode} (type : token.type.mode? = some mode) :
    Outcome builder (.token token) (builder.selectMode mode token) := by
  rw [selectMode]
  split
  · rename_i inside
    split
    · rename_i unselected
      exact .modeSelected type inside unselected
    · rename_i selected
      exact .rejected (.modeRepeated type inside selected)
  · rename_i elsewhere
    exact .rejected (.modeOutside type elsewhere)

/-- A transition has a receiver in its construct, or belongs to an owner, or is given up. -/
theorem endTransition_cases (token : Token) (around : List Frame) (builder : Builder) :
    (∃ target origin receiver others,
      builder.names = target :: origin :: receiver :: others ∧
        builder.endTransition token around =
          ((builder.pastStatement around).addTransition receiver origin target
            builder.mode).reportAll (others.map PendingName.unclosed)) ∨
    (∃ target origin owner,
      builder.names = [target, origin] ∧ innermostOwner? around = some owner ∧
        builder.endTransition token around =
          (builder.pastStatement around).addTransition owner origin target builder.mode) ∨
    ((builder.names.length < 2 ∨
        builder.names.length = 2 ∧ innermostOwner? around = none) ∧
      builder.endTransition token around =
        (builder.pastStatement around).reject (.unexpectedEndOfStatement token.value) token) := by
  rw [endTransition]
  cases waiting : builder.names with
  | nil => exact .inr (.inr ⟨.inl Nat.zero_lt_two, rfl⟩)
  | cons target rest =>
      cases rest with
      | nil => exact .inr (.inr ⟨.inl Nat.one_lt_two, rfl⟩)
      | cons origin rest =>
          cases rest with
          | cons receiver others => exact .inl ⟨target, origin, receiver, others, rfl, rfl⟩
          | nil =>
              cases owns : innermostOwner? around with
              | some owner => exact .inr (.inl ⟨target, origin, owner, rfl, rfl, rfl⟩)
              | none => exact .inr (.inr ⟨.inr ⟨rfl, rfl⟩, rfl⟩)

theorem outcome_endTransition {around : List Frame} (type : token.type = .semicolon)
    (innermost : builder.frames = .transition :: around) :
    Outcome builder (.token token) (builder.endTransition token around) := by
  rcases builder.endTransition_cases token around with
    ⟨target, origin, receiver, others, waiting, ends⟩ |
      ⟨target, origin, owner, waiting, owns, ends⟩ | ⟨few, ends⟩
  · rw [ends]
    exact .received type innermost waiting
  · rw [ends]
    exact .owned type innermost waiting owns
  · rw [ends]
    exact .incomplete type innermost few

theorem outcome_endAny (type : token.type = .semicolon) :
    Outcome builder (.token token) (builder.endAny token) := by
  rw [endAny]
  split
  · rename_i around innermost
    exact outcome_endTransition type innermost
  · rename_i elsewhere
    have outside : builder.context ≠ .transition := by
      intro inside
      obtain ⟨around, innermost⟩ := exists_transition_of_context inside
      exact elsewhere around innermost
    unfold endStatement
    dsimp only
    split
    · rename_i name names waiting
      exact .nameDropped type outside waiting
    · rename_i waiting
      exact .nothingToEnd type outside waiting

theorem outcome_addStay (type : token.type = .dot) :
    Outcome builder (.token token) (builder.addStay token) := by
  rw [addStay]
  split
  · rename_i inside
    exact .named (.stay type inside)
  · rename_i elsewhere
    exact .rejected (.stayOutside type elsewhere)

theorem outcome_stepToken (builder : Builder) (token : Token) :
    Outcome builder (.token token) (builder.stepToken token) := by
  rw [stepToken]
  split <;> rename_i type
  · exact .comment type
  · exact .named (.identifier type)
  · exact outcome_openBody (by rw [type]; rfl)
  · exact outcome_openBody (by rw [type]; rfl)
  · exact outcome_closeGroup type
  · exact outcome_closeBlock type
  · exact outcome_addLiteral type
  · exact .began type
  · exact outcome_addModifier (by rw [type]; rfl)
  · exact outcome_addModifier (by rw [type]; rfl)
  · exact outcome_selectMode (by rw [type]; rfl)
  · exact outcome_selectMode (by rw [type]; rfl)
  · exact .named (.broadcast type)
  · exact outcome_addStay type
  · exact .rejected (.reserved type)
  · exact outcome_endAny type

theorem outcome_step (builder : Builder) (item : Item) :
    Outcome builder item (builder.step item) := by
  cases item with
  | token token => exact outcome_stepToken builder token
  | fault fault =>
      change Outcome builder _ (builder.stepFault fault)
      rw [stepFault]
      split
      · rename_i records
        exact .faultRecorded records
      · rename_i drops
        exact .faultDropped (Bool.eq_false_iff.2 drops)

/-! ### Runs -/

/-- What does not hold at first and holds behind a run was brought about by an item of the run. -/
theorem exists_step_of_run (holds : Builder → Prop) {items : List Item} (absent : ¬ holds builder)
    (present : holds (builder.run items)) :
    ∃ before item after, items = before ++ item :: after ∧ ¬ holds (builder.run before) ∧
      holds ((builder.run before).step item) := by
  induction items generalizing builder with
  | nil => exact absurd present absent
  | cons item items ih =>
      by_cases now : holds (builder.step item)
      · exact ⟨[], item, items, rfl, absent, now⟩
      · obtain ⟨before, last, after, rfl, earlier, later⟩ := ih now present
        exact ⟨item :: before, last, after, rfl, earlier, later⟩

end Builder

end StateDescription
