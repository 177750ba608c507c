import StateDescription.Proofs.Owners
import StateDescription.Proofs.Stacks

/-!
A build on flat stacks does what a builder does, and none of its accesses fails. The frames of a
builder say what lies where: the owner of a construct is the newest name below it.
-/

namespace StateDescription

namespace Stacks

/-! ### Stacks of a builder -/

/-- The frame on top, that of the whole source where nothing is open. -/
def topFrame : List Frame → StackFrame
  | [] => ⟨.top, none, 0⟩
  | frame :: around =>
    ⟨frame.context, frame.owner?, ((frame :: around).flatMap Frame.names).length⟩

def ofFrames : List Frame → List StackFrame
  | [] => [topFrame []]
  | frame :: around => topFrame (frame :: around) :: ofFrames around

def ofBuilder (builder : Builder) : Stacks where
  recordsFaults := builder.recordsFaults
  table := builder.table
  frames := ofFrames builder.frames
  names := builder.pending
  roles := builder.roles
  modifiers := builder.modifiers.map Modifier.toToken
  mode := builder.mode
  finished := builder.finished
  trace := builder.trace

theorem base_topFrame (frames : List Frame) :
    (topFrame frames).base = (frames.flatMap Frame.names).length := by
  cases frames <;> rfl

theorem context_topFrame (builder : Builder) :
    (topFrame builder.frames).context = builder.context := by
  unfold topFrame Builder.context
  cases builder.frames <;> rfl

theorem exists_ofFrames_eq_cons (frames : List Frame) :
    ∃ below, ofFrames frames = topFrame frames :: below := by
  cases frames with
  | nil => exact ⟨[], rfl⟩
  | cons frame around => exact ⟨ofFrames around, rfl⟩

@[simp] theorem length_ofFrames (frames : List Frame) :
    (ofFrames frames).length = frames.length + 1 := by
  induction frames with
  | nil => rfl
  | cons frame around ih => simp [ofFrames, ih]

@[simp] theorem map_context_ofFrames (frames : List Frame) :
    (ofFrames frames).map StackFrame.context = frames.map Frame.context ++ [.top] := by
  induction frames with
  | nil => rfl
  | cons frame around ih =>
      rw [ofFrames, List.map_cons, ih]
      rfl

section Agreement

variable (builder : Builder)

theorem innermost_ofBuilder :
    innermost (ofBuilder builder) = .ok (topFrame builder.frames) (ofBuilder builder) := by
  obtain ⟨below, top⟩ := exists_ofFrames_eq_cons builder.frames
  exact innermost_apply top

theorem report_ofBuilder (diagnostic : Diagnostic) :
    report diagnostic (ofBuilder builder) = .ok () (ofBuilder (builder.report diagnostic)) :=
  report_apply diagnostic (ofBuilder builder)

theorem reject_ofBuilder (problem : SemanticProblem) (token : Token) :
    reject problem token (ofBuilder builder) =
      .ok () (ofBuilder (builder.reject problem token)) :=
  reject_apply problem token (ofBuilder builder)

theorem note_ofBuilder (event : Event) :
    note event (ofBuilder builder) = .ok () (ofBuilder (builder.note event)) := rfl

theorem pushName_ofBuilder (name : PendingName) :
    pushName name (ofBuilder builder) = .ok () (ofBuilder (builder.pushName name)) := rfl

theorem clearModifiers_ofBuilder :
    clearModifiers (ofBuilder builder) = .ok () (ofBuilder builder.clearModifiers) := rfl

theorem setMode_ofBuilder (mode : WriteMode) :
    setMode mode (ofBuilder builder) = .ok () (ofBuilder { builder with mode := mode }) := rfl

theorem change_ofBuilder (name : String) (update : Object → Object) :
    change name update (ofBuilder builder) =
      .ok () (ofBuilder { builder with table := builder.table.modify name update }) := rfl

theorem objectOf_ofBuilder {name : String} {object : Object}
    (found : builder.table.find? name = some object) :
    objectOf name (ofBuilder builder) = .ok object (ofBuilder builder) :=
  objectOf_apply found

theorem addValue_ofBuilder (text : String) (location : Location) :
    addValue text location (ofBuilder builder) =
      .ok builder.table.values.length
        (ofBuilder { builder with table := builder.table.addValue text (some location) }) := rfl

/-- A frame may be pushed as soon as it keeps the names that it takes from the builder. -/
theorem pushFrame_ofBuilder {pushed : StackFrame} {frame : Frame} (names : List PendingName)
    (kept : builder.names = names ++ frame.names)
    (same : pushed = topFrame (frame :: builder.frames)) :
    pushFrame pushed (ofBuilder builder) =
      .ok () (ofBuilder ({ builder with names := names }.enter frame)) := by
  subst same
  simp only [pushFrame, modify_apply, ofBuilder, Builder.pending, Builder.enter, kept,
    length_ofFrames, List.flatMap_cons, List.append_assoc]
  rfl

theorem rejectUnattached_apply (modifiers : List Modifier) (machine : Stacks) :
    rejectUnattached (modifiers.map Modifier.toToken) machine =
      .ok () (machine.reportAll (modifiers.map Modifier.unattached)) := by
  induction modifiers generalizing machine with
  | nil =>
      rw [List.map_nil, List.map_nil, reportAll_nil]
      rfl
  | cons modifier modifiers ih =>
      simp only [List.map_cons, rejectUnattached, bind_apply, reject_apply, ih]
      rw [reportAll_cons modifier.unattached]
      rfl

theorem flushModifiers_ofBuilder :
    flushModifiers (ofBuilder builder) = .ok () (ofBuilder builder.dropModifiers) := by
  have reported : rejectUnattached (ofBuilder builder).modifiers (ofBuilder builder) = _ :=
    rejectUnattached_apply builder.modifiers (ofBuilder builder)
  simp only [flushModifiers, bind_apply, get_apply, reported]
  rfl

/-- The roles of waiting modifiers are known, and those that an object has are reported. -/
theorem rejectRepeated_apply (roles : Roles) (modifiers : List Modifier) (machine : Stacks) :
    rejectRepeated roles (modifiers.map Modifier.toToken) machine =
      .ok () (machine.reportAll
        ((modifiers.filter fun modifier => modifier.role ∈ roles).map Modifier.duplicate)) := by
  induction modifiers generalizing machine with
  | nil =>
      rw [List.filter_nil, List.map_nil, List.map_nil, reportAll_nil]
      rfl
  | cons modifier modifiers ih =>
      have known : roleOf modifier.toToken.type machine = .ok modifier.role machine :=
        roleOf_apply modifier.role.role?_tokenType machine
      simp only [List.map_cons, rejectRepeated, bind_apply, known]
      by_cases repeated : modifier.role ∈ roles
      · simp only [if_pos repeated, bind_apply, reject_apply, ih]
        rw [List.filter_cons_of_pos (by simpa using repeated), List.map_cons,
          reportAll_cons modifier.duplicate]
        rfl
      · simp only [if_neg repeated, ih]
        rw [List.filter_cons_of_neg (by simpa using repeated)]

theorem declare_ofBuilder (owner : PendingName) :
    declare owner (ofBuilder builder) = .ok () (ofBuilder (builder.declare owner)) := by
  have table : (ofBuilder builder).table = builder.table := rfl
  simp only [declare, bind_apply, get_apply, table]
  rw [Builder.declare]
  cases builder.table.find? owner.name with
  | none => rfl
  | some object =>
      have reported : rejectRepeated object.roles (ofBuilder builder).modifiers
          (ofBuilder builder) = _ :=
        rejectRepeated_apply object.roles builder.modifiers (ofBuilder builder)
      simp only [bind_apply, get_apply, reported]
      rfl

theorem length_names_ofBuilder :
    (ofBuilder builder).names.length =
      builder.names.length + (builder.frames.flatMap Frame.names).length :=
  List.length_append

theorem openBody_ofBuilder {frame : Option Site → Frame} {context : Context} (token : Token)
    (type : token.type.opens? = some frame)
    (same : ∀ site, (frame site).context = context) :
    openBody context token (ofBuilder builder) =
      .ok () (ofBuilder (builder.openBody frame token)) := by
  simp only [openBody, bind_apply, get_apply, innermost_ofBuilder, base_topFrame,
    length_names_ofBuilder]
  rw [Builder.openBody]
  cases waiting : builder.names with
  | nil =>
      rw [if_neg (by simp)]
      simp only [bind_apply, get_apply, reject_ofBuilder, clearModifiers_ofBuilder]
      apply pushFrame_ofBuilder _ builder.names
      · rw [TokenType.names_none_of_opens? type, List.append_nil]
        rfl
      · rw [topFrame, same, TokenType.owner?_of_opens? type, List.flatMap_cons,
          TokenType.names_none_of_opens? type, length_names_ofBuilder]
        change StackFrame.mk context none (builder.names.length + _) = _
        rw [waiting, List.length_nil, Nat.zero_add]
        rfl
  | cons owner around =>
      have newest : (ofBuilder builder).names =
          owner :: (around ++ builder.frames.flatMap Frame.names) := by
        change builder.names ++ _ = _
        rw [waiting, List.cons_append]
      rw [if_pos (by simp)]
      simp only [bind_apply, get_apply, newestName_apply newest, declare_ofBuilder,
        clearModifiers_ofBuilder]
      have held : (builder.declare owner).clearModifiers.names = owner :: around := by
        change (builder.declare owner).names = _
        rw [Builder.names_declare, waiting]
      apply pushFrame_ofBuilder _ []
      · rw [TokenType.names_of_opens? type, held]
        rfl
      · rw [topFrame, same, TokenType.owner?_of_opens? type, List.flatMap_cons,
          TokenType.names_of_opens? type, length_names_ofBuilder, held, List.length_append]
        rfl

/-- Leaving a construct puts the names that it kept back among those that wait. -/
theorem popFrame_ofBuilder {frame : Frame} {around : List Frame}
    (opened : builder.frames = frame :: around) :
    popFrame (ofBuilder builder) =
      .ok (topFrame (frame :: around))
        ((ofBuilder (builder.leave frame around)).withNames builder.pending) := by
  have top : (ofBuilder builder).frames = topFrame (frame :: around) :: ofFrames around := by
    change ofFrames builder.frames = _
    rw [opened]
    rfl
  rw [popFrame_apply top, length_ofFrames]
  rfl

theorem pending_eq {frame : Frame} {around : List Frame}
    (opened : builder.frames = frame :: around) :
    builder.pending = builder.names ++ (frame :: around).flatMap Frame.names := by
  rw [Builder.pending, opened]

/-- Closing gives back the names that waited around the construct. -/
theorem closeBody_ofBuilder {problem : SemanticProblem} {token : Token} {frame : Frame}
    {around : List Frame} (opened : builder.frames = frame :: around) :
    closeBody frame.context problem token (ofBuilder builder) =
      .ok () (ofBuilder (builder.closeBody frame around)) := by
  have flushed : builder.dropModifiers.frames = frame :: around := opened
  have split : ((ofBuilder (builder.dropModifiers.leave frame around)).withNames
      builder.dropModifiers.pending).names =
        builder.names ++ (frame :: around).flatMap Frame.names :=
    pending_eq builder opened
  simp only [closeBody, bind_apply, innermost_ofBuilder, opened]
  rw [if_pos (show (topFrame (frame :: around)).context = frame.context from rfl)]
  simp only [bind_apply, flushModifiers_ofBuilder, popFrame_ofBuilder _ flushed, base_topFrame,
    discardAbove_apply split]
  rw [Builder.closeBody]
  cases held : frame.site? with
  | none =>
      have bare : (topFrame (frame :: around)).owner = none := by
        rw [topFrame, Frame.owner?, held]
        rfl
      have kept : frame.names = [] := by rw [Frame.names, held]
      rw [if_neg (by simp [bare]), List.flatMap_cons, kept]
      rfl
  | some site =>
      have owned : (topFrame (frame :: around)).owner = some site.owner := by
        rw [topFrame, Frame.owner?, held]
        rfl
      have kept : frame.names = site.owner :: site.around := by rw [Frame.names, held]
      rw [if_pos (by simp [owned]), List.flatMap_cons, kept, List.cons_append]
      rfl

theorem addLiteral_ofBuilder (declared : builder.OwnersDeclared) (token : Token) :
    addLiteral token (ofBuilder builder) = .ok () (ofBuilder (builder.addLiteral token)) := by
  simp only [addLiteral, bind_apply, innermost_ofBuilder]
  rw [Builder.addLiteral]
  cases opened : builder.frames with
  | nil => exact reject_ofBuilder builder _ token
  | cons frame around =>
      cases frame with
      | block site => exact reject_ofBuilder builder _ token
      | transition => exact reject_ofBuilder builder _ token
      | group site =>
          cases site with
          | none => exact note_ofBuilder builder _
          | some site =>
              have owned : site.owner.name ∈ builder.table.names := by
                refine declared (.group (some site)) ?_ site.owner rfl
                rw [opened]
                exact List.mem_cons_self
              obtain ⟨object, found⟩ := SymbolTable.exists_find?_of_mem_names owned
              have present := objectOf_ofBuilder
                { builder with
                  table := builder.table.addValue token.value (some token.location) } found
              change (addValue token.value token.location >>= fun index =>
                objectOf site.owner.name >>= fun _ =>
                  change site.owner.name (Object.addValue index)) (ofBuilder builder) = _
              simp only [bind_apply, addValue_ofBuilder, present, change_ofBuilder]
              rw [← opened]
              rfl

theorem keepModifier_ofBuilder {role : Role} {token : Token}
    (type : token.type.role? = some role) :
    keepModifier role token (ofBuilder builder) =
      .ok () (ofBuilder
        { builder with
          roles := builder.roles ∪ .only role
          modifiers := builder.modifiers ++ [⟨role, token.value, token.location⟩] }) := by
  have same : Modifier.toToken ⟨role, token.value, token.location⟩ = token := by
    rw [Modifier.toToken, Role.tokenType_of_role? type]
  simp only [keepModifier, modify_apply, ofBuilder, List.map_append, List.map_cons,
    List.map_nil, same]
  rfl

theorem addModifier_ofBuilder {role : Role} {token : Token}
    (type : token.type.role? = some role) :
    addModifier token (ofBuilder builder) =
      .ok () (ofBuilder (builder.addModifier role token)) := by
  have outside : (if role ∈ builder.roles then reject (.duplicateAttribute token.value) token
      else keepModifier role token : Action Unit) (ofBuilder builder) =
        .ok () (ofBuilder
          (if role ∈ builder.roles then builder.reject (.duplicateAttribute token.value) token
          else
            { builder with
              roles := builder.roles ∪ .only role
              modifiers := builder.modifiers ++ [⟨role, token.value, token.location⟩] })) := by
    split
    · exact reject_ofBuilder builder _ token
    · exact keepModifier_ofBuilder builder type
  have roles : (ofBuilder builder).roles = builder.roles := rfl
  simp only [addModifier, bind_apply, innermost_ofBuilder, context_topFrame]
  rw [Builder.addModifier]
  cases context : builder.context with
  | group => exact reject_ofBuilder builder _ token
  | transition => exact reject_ofBuilder builder _ token
  | top =>
      rw [if_neg (by decide)]
      simp only [bind_apply, roleOf_apply type, get_apply, roles]
      exact outside
  | block =>
      rw [if_neg (by decide)]
      simp only [bind_apply, roleOf_apply type, get_apply, roles]
      exact outside

theorem selectMode_ofBuilder {mode : WriteMode} {token : Token}
    (type : token.type.mode? = some mode) :
    selectMode token (ofBuilder builder) =
      .ok () (ofBuilder (builder.selectMode mode token)) := by
  have selected : (ofBuilder builder).mode = builder.mode := rfl
  simp only [selectMode, bind_apply, innermost_ofBuilder, context_topFrame]
  rw [Builder.selectMode]
  split
  · simp only [bind_apply, get_apply, selected]
    split
    · simp only [bind_apply, modeOf_apply type, setMode_ofBuilder]
    · exact reject_ofBuilder builder _ token
  · exact reject_ofBuilder builder _ token

theorem beginTransition_ofBuilder :
    beginTransition (ofBuilder builder) = .ok () (ofBuilder builder.beginTransition) := by
  simp only [beginTransition, bind_apply, flushModifiers_ofBuilder, setMode_ofBuilder,
    innermost_ofBuilder]
  apply pushFrame_ofBuilder _ builder.names
  · exact (List.append_nil _).symm
  · rw [base_topFrame]
    rfl

theorem addTransition_ofBuilder (receiver origin target : PendingName) (mode : WriteMode)
    (names : List PendingName) :
    addTransition receiver origin target mode ((ofBuilder builder).withNames names) =
      .ok () ((ofBuilder (builder.addTransition receiver origin target mode)).withNames
        names) := by
  have table : ((ofBuilder builder).withNames names).table = builder.table := rfl
  simp only [addTransition, bind_apply, get_apply, table]
  rw [Builder.addTransition]
  cases builder.table.find? receiver.name with
  | none => exact report_apply _ _
  | some object =>
      dsimp only
      cases object.transition? origin.name with
      | none => rfl
      | some previous =>
          simp only [bind_apply, report_apply]
          rfl

/-- The owner of the innermost construct that has one is the newest name below the top frame. -/
theorem head?_flatMap_names (frames : List Frame) :
    (frames.flatMap Frame.names).head? = Builder.innermostOwner? frames := by
  induction frames with
  | nil => rfl
  | cons frame around ih =>
      rw [List.flatMap_cons, Builder.innermostOwner?, List.findSome?_cons, Frame.names,
        Frame.owner?]
      cases frame.site? with
      | none => exact ih
      | some site => rfl

theorem withNames_pending {names : List PendingName} (same : names = builder.pending) :
    (ofBuilder builder).withNames names = ofBuilder builder := by
  subst same
  rfl

theorem pending_addTransition (receiver origin target : PendingName) (mode : WriteMode) :
    (builder.addTransition receiver origin target mode).pending = builder.pending := by
  simp only [Builder.pending, Builder.names_addTransition, Builder.frames_addTransition]

/-- With too few names the statement is given up, and its names with it. -/
theorem completeTransition_incomplete {names below : List PendingName} (mode : WriteMode)
    (token : Token) (kept : below = builder.pending)
    (few : names.length + below.length < max 3 (below.length + 2)) :
    completeTransition below.length mode token
        ((ofBuilder builder).withNames (names ++ below)) =
      .ok () (ofBuilder (builder.reject (.unexpectedEndOfStatement token.value) token)) := by
  have forgotten : (names ++ below).drop ((names ++ below).length - below.length) = below := by
    rw [List.length_append, Nat.add_sub_cancel, List.drop_left]
  have short : ((ofBuilder builder).withNames (names ++ below)).names.length <
      max 3 (below.length + 2) := by
    rwa [names_withNames, List.length_append]
  simp only [completeTransition, bind_apply, get_apply]
  rw [if_pos short]
  simp only [bind_apply, reject_apply, reportAll_withNames]
  change EStateM.Result.ok () (((ofBuilder builder).reportAll _).withNames
    ((names ++ below).drop ((names ++ below).length - below.length))) = _
  rw [forgotten, kept]
  rfl

/-- A name below the origin and in the same construct receives the transition and is gone. -/
theorem completeTransition_received {target origin receiver : PendingName}
    {others below : List PendingName} (mode : WriteMode) (token : Token)
    (kept : below = builder.pending) :
    completeTransition below.length mode token
        ((ofBuilder builder).withNames (target :: origin :: receiver :: (others ++ below))) =
      .ok () (ofBuilder ((builder.addTransition receiver origin target mode).reportAll
        (others.map PendingName.unclosed))) := by
  have enough : ¬ ((ofBuilder builder).withNames
      (target :: origin :: receiver :: (others ++ below))).names.length <
        max 3 (below.length + 2) := by
    simp only [names_withNames, List.length_cons, List.length_append]
    omega
  have more : ((ofBuilder (builder.addTransition receiver origin target mode)).withNames
      (receiver :: (others ++ below))).names.length > below.length := by
    simp only [names_withNames, List.length_cons, List.length_append]
    omega
  simp only [completeTransition, bind_apply, get_apply]
  rw [if_neg enough]
  simp only [bind_apply, popName_withNames, newestName_withNames, addTransition_ofBuilder,
    get_apply]
  rw [if_pos more]
  simp only [bind_apply, popName_withNames, discardAbove_apply (names_withNames _ _)]
  have unchanged : below = ((builder.addTransition receiver origin target mode).reportAll
      (others.map PendingName.unclosed)).pending :=
    kept.trans (pending_addTransition builder receiver origin target mode).symm
  exact congrArg (EStateM.Result.ok ()) (withNames_pending _ unchanged)

/-- Otherwise the owner that lies below the construct receives it and stays. -/
theorem completeTransition_owned {target origin owner : PendingName}
    {below : List PendingName} (mode : WriteMode) (token : Token)
    (kept : owner :: below = builder.pending) :
    completeTransition (owner :: below).length mode token
        ((ofBuilder builder).withNames (target :: origin :: owner :: below)) =
      .ok () (ofBuilder (builder.addTransition owner origin target mode)) := by
  have enough : ¬ ((ofBuilder builder).withNames
      (target :: origin :: owner :: below)).names.length <
        max 3 ((owner :: below).length + 2) := by
    simp only [names_withNames, List.length_cons]
    omega
  have level : ¬ ((ofBuilder (builder.addTransition owner origin target mode)).withNames
      (owner :: below)).names.length > (owner :: below).length :=
    Nat.lt_irrefl _
  simp only [completeTransition, bind_apply, get_apply]
  rw [if_neg enough]
  simp only [bind_apply, popName_withNames, newestName_withNames, addTransition_ofBuilder,
    get_apply]
  rw [if_neg level]
  rw [withNames_pending _ (kept.trans (pending_addTransition builder _ _ _ _).symm)]
  rfl

theorem endTransition_ofBuilder {around : List Frame} (token : Token)
    (opened : builder.frames = .transition :: around) :
    endTransition token (ofBuilder builder) =
      .ok () (ofBuilder (builder.endTransition token around)) := by
  have around_top : innermost
      ((ofBuilder (builder.leave .transition around)).withNames builder.pending) =
        .ok (topFrame around)
          ((ofBuilder (builder.leave .transition around)).withNames builder.pending) := by
    obtain ⟨below, top⟩ := exists_ofFrames_eq_cons around
    exact innermost_apply top
  have past : setMode .after
      ((ofBuilder (builder.leave .transition around)).withNames builder.pending) =
        .ok () ((ofBuilder (builder.pastStatement around)).withNames
          (builder.names ++ around.flatMap Frame.names)) := by
    rw [pending_eq builder opened]
    rfl
  simp only [endTransition, bind_apply, popFrame_ofBuilder builder opened, around_top,
    get_apply, past, base_topFrame]
  change completeTransition _ builder.mode token _ = _
  have kept : around.flatMap Frame.names = (builder.pastStatement around).pending := rfl
  rcases builder.endTransition_cases token around with
    ⟨target, origin, receiver, others, waiting, ends⟩ |
      ⟨target, origin, owner, waiting, owns, ends⟩ | ⟨few, ends⟩
  · rw [ends, waiting]
    exact completeTransition_received _ builder.mode token kept
  · rw [← head?_flatMap_names, List.head?_eq_some_iff] at owns
    obtain ⟨below, below_eq⟩ := owns
    rw [ends, waiting, below_eq]
    exact completeTransition_owned _ builder.mode token (below_eq.symm.trans kept)
  · rw [ends]
    apply completeTransition_incomplete _ builder.mode token kept
    rcases few with short | ⟨two, bare⟩
    · omega
    · rw [← head?_flatMap_names, List.head?_eq_none_iff] at bare
      rw [two, bare, List.length_nil]
      decide

theorem endStatement_ofBuilder (token : Token) :
    endStatement token (ofBuilder builder) =
      .ok () (ofBuilder (builder.endStatement token)) := by
  have depth := length_names_ofBuilder builder.dropModifiers
  have base : (topFrame builder.dropModifiers.frames).base =
      (builder.dropModifiers.frames.flatMap Frame.names).length := base_topFrame _
  have same : builder.dropModifiers.names = builder.names := rfl
  simp only [endStatement, bind_apply, flushModifiers_ofBuilder, get_apply,
    innermost_ofBuilder]
  unfold Builder.endStatement
  dsimp only
  cases waiting : builder.names with
  | nil =>
      rw [same, waiting, List.length_nil, Nat.zero_add] at depth
      rw [if_neg (by rw [depth, base]; exact Nat.lt_irrefl _), same, waiting]
      exact reject_ofBuilder _ _ token
  | cons name names =>
      rw [same, waiting, List.length_cons] at depth
      rw [if_pos (by rw [depth, base]; omega), same, waiting]
      have top : (ofBuilder builder.dropModifiers).names =
          name :: (names ++ builder.frames.flatMap Frame.names) := by
        change builder.names ++ builder.frames.flatMap Frame.names = _
        rw [waiting, List.cons_append]
      simp only [bind_apply, popName_apply top]
      rfl

theorem endAny_ofBuilder (token : Token) :
    endAny token (ofBuilder builder) = .ok () (ofBuilder (builder.endAny token)) := by
  simp only [endAny, bind_apply, innermost_ofBuilder]
  rw [Builder.endAny]
  cases opened : builder.frames with
  | nil => exact endStatement_ofBuilder builder token
  | cons frame around =>
      cases frame with
      | group site => exact endStatement_ofBuilder builder token
      | block site => exact endStatement_ofBuilder builder token
      | transition => exact endTransition_ofBuilder builder token opened

theorem addStay_ofBuilder (token : Token) :
    addStay token (ofBuilder builder) = .ok () (ofBuilder (builder.addStay token)) := by
  simp only [addStay, bind_apply, innermost_ofBuilder, context_topFrame]
  rw [Builder.addStay]
  split
  · exact pushName_ofBuilder builder _
  · exact reject_ofBuilder builder _ token

theorem closeBody_elsewhere {context : Context} (problem : SemanticProblem) (token : Token)
    (elsewhere : builder.context ≠ context) :
    closeBody context problem token (ofBuilder builder) =
      .ok () (ofBuilder (builder.reject problem token)) := by
  simp only [closeBody, bind_apply, innermost_ofBuilder, context_topFrame]
  rw [if_neg elsewhere]
  exact reject_ofBuilder builder problem token

theorem closeGroup_ofBuilder (token : Token) :
    closeBody .group (.unbalancedGroup token.value) token (ofBuilder builder) =
      .ok () (ofBuilder (builder.closeGroup token)) := by
  rw [Builder.closeGroup]
  split
  · rename_i site around opened
    exact closeBody_ofBuilder builder opened
  · rename_i elsewhere
    apply closeBody_elsewhere builder _ token
    intro context
    obtain ⟨site, around, opened⟩ := Builder.exists_group_of_context context
    exact elsewhere site around opened

theorem closeBlock_ofBuilder (token : Token) :
    closeBody .block (.unbalancedBlock token.value) token (ofBuilder builder) =
      .ok () (ofBuilder (builder.closeBlock token)) := by
  rw [Builder.closeBlock]
  split
  · rename_i site around opened
    exact closeBody_ofBuilder builder opened
  · rename_i elsewhere
    apply closeBody_elsewhere builder _ token
    intro context
    obtain ⟨site, around, opened⟩ := Builder.exists_block_of_context context
    exact elsewhere site around opened

theorem stepToken_ofBuilder (declared : builder.OwnersDeclared) (token : Token) :
    stepToken token (ofBuilder builder) = .ok () (ofBuilder (builder.stepToken token)) := by
  rw [stepToken, Builder.stepToken]
  cases type : token.type with
  | comment => rfl
  | identifier => exact pushName_ofBuilder builder _
  | openGroup => exact openBody_ofBuilder builder token (by rw [type]; rfl) fun _ => rfl
  | openBlock => exact openBody_ofBuilder builder token (by rw [type]; rfl) fun _ => rfl
  | closeGroup => exact closeGroup_ofBuilder builder token
  | closeBlock => exact closeBlock_ofBuilder builder token
  | literal => exact addLiteral_ofBuilder builder declared token
  | equals => exact beginTransition_ofBuilder builder
  | star => exact addModifier_ofBuilder builder (by rw [type]; rfl)
  | colon => exact addModifier_ofBuilder builder (by rw [type]; rfl)
  | caret => exact selectMode_ofBuilder builder (by rw [type]; rfl)
  | percent => exact selectMode_ofBuilder builder (by rw [type]; rfl)
  | atSign => exact pushName_ofBuilder builder _
  | dot => exact addStay_ofBuilder builder token
  | pipe => exact reject_ofBuilder builder _ token
  | semicolon => exact endAny_ofBuilder builder token

theorem stepFault_ofBuilder (fault : Fault) :
    stepFault fault (ofBuilder builder) = .ok () (ofBuilder (builder.stepFault fault)) := by
  have records : (ofBuilder builder).recordsFaults = builder.recordsFaults := rfl
  simp only [stepFault, bind_apply, get_apply, records]
  rw [Builder.stepFault]
  split
  · exact report_ofBuilder builder _
  · exact note_ofBuilder builder _

/-- The owners must have their objects: a literal is added to the object of its owner. -/
theorem step_ofBuilder (declared : builder.OwnersDeclared) (item : Item) :
    step item (ofBuilder builder) = .ok () (ofBuilder (builder.step item)) := by
  cases item with
  | token token => exact stepToken_ofBuilder builder declared token
  | fault fault => exact stepFault_ofBuilder builder fault

theorem flatMap_names_vacated (frames : List Frame) :
    (frames.map Frame.vacated).flatMap Frame.names = [] := by
  rw [List.flatMap_map, List.flatMap_eq_nil_iff]
  intro frame _
  cases frame <;> rfl

theorem pending_close : builder.close.pending = [] :=
  flatMap_names_vacated builder.frames

/-- The end of the source empties the stack of names and leaves that of frames. -/
theorem close_ofBuilder :
    close (ofBuilder builder) =
      .ok () { ofBuilder builder.close with frames := ofFrames builder.frames } := by
  have split : (ofBuilder builder.dropModifiers).names =
      builder.dropModifiers.pending ++ [] :=
    (List.append_nil _).symm
  simp only [close, bind_apply, flushModifiers_ofBuilder]
  rw [show 0 = ([] : List PendingName).length from rfl, discardAbove_apply split]
  simp only [ofBuilder, pending_close]
  rfl

end Agreement

end Stacks

end StateDescription
