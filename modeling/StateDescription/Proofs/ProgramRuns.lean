import StateDescription.Proofs.Meaning
import StateDescription.Proofs.Owners

/-!
Builds of well-formed programs. Between two declarations or statements a builder waits for
nothing, and its table is the one that the facts so far describe; each phrase of a program adds
its own facts.
-/

namespace StateDescription

namespace Grammar

def Head.pending (head : Head) : PendingName :=
  ⟨head.name.text, head.name.location, false⟩

def Reference.pending : Reference → PendingName
  | .name word => ⟨word.text, word.location, false⟩
  | .broadcast sign => ⟨"@", sign.location, true⟩

def Target.pending : Target → PendingName
  | .place reference => reference.pending
  | .stay dot => ⟨".", dot.location, true⟩

@[simp] theorem Reference.name_pending (reference : Reference) :
    reference.pending.name = reference.text := by
  cases reference <;> rfl

@[simp] theorem Reference.location_pending (reference : Reference) :
    reference.pending.location = reference.location := by
  cases reference <;> rfl

@[simp] theorem Target.name_pending (target : Target) : target.pending.name = target.text := by
  cases target with
  | place reference => exact reference.name_pending
  | stay dot => rfl

variable {builder : Builder} {frames : List Frame} {facts : List Fact} {owner : PendingName}

/-- Inside these frames the builder waits for nothing, and its table says what the facts say. -/
structure Rests (builder : Builder) (frames : List Frame) (facts : List Fact) : Prop where
  frames_eq : builder.frames = frames
  names_eq : builder.names = []
  roles_eq : builder.roles = .through
  modifiers_eq : builder.modifiers = []
  table_eq : builder.table = table facts
  known : Known facts

theorem rests_new (recordsFaults : Bool) : Rests (.new recordsFaults) [] [] where
  frames_eq := rfl
  names_eq := rfl
  roles_eq := rfl
  modifiers_eq := rfl
  table_eq := rfl
  known := known_nil

/-! ### Comments -/

theorem run_filter_comments (builder : Builder) (items : List Item) :
    builder.run (items.filter fun item => !item.isComment) = builder.run items := by
  induction items generalizing builder with
  | nil => rfl
  | cons item items ih =>
      cases comment : item.isComment with
      | false =>
          rw [List.filter_cons_of_pos (by simp [comment]), Builder.run_cons, Builder.run_cons, ih]
      | true =>
          have ignored : builder.step item = builder := by
            cases item with
            | fault fault => cases comment
            | token token =>
                rw [Builder.step, Builder.stepToken, of_decide_eq_true comment]
          rw [List.filter_cons_of_neg (by simp [comment]), Builder.run_cons, ignored, ih]

/-! ### Heads -/

theorem step_modifier {modifier : Modifier}
    (outside : builder.context = .top ∨ builder.context = .block)
    (roles : builder.roles = .given builder.modifiers)
    (fresh : modifier.role ∉ builder.modifiers.map Modifier.role) :
    builder.step modifier.item =
      { builder with
        roles := .given (builder.modifiers ++ [modifier])
        modifiers := builder.modifiers ++ [modifier] } := by
  have known : modifier.role ∉ builder.roles := by
    rwa [roles, Roles.mem_given]
  have joined : builder.roles ∪ .only modifier.role =
      .given (builder.modifiers ++ [modifier]) := by
    rw [roles, Roles.ext_iff_mem]
    intro role
    simp [Roles.mem_given]
  have read : builder.step modifier.item =
      builder.addModifier modifier.role modifier.toToken := by
    cases modifier with
    | mk role token location => cases role <;> rfl
  rw [read, Builder.addModifier, ← joined]
  rcases outside with top | block
  · rw [top]
    exact if_neg known
  · rw [block]
    exact if_neg known

theorem run_modifiers (modifiers : List Modifier)
    (outside : builder.context = .top ∨ builder.context = .block)
    (roles : builder.roles = .given builder.modifiers)
    (once : ((builder.modifiers ++ modifiers).map Modifier.role).Nodup) :
    builder.run (modifiers.map Modifier.item) =
      { builder with
        roles := .given (builder.modifiers ++ modifiers)
        modifiers := builder.modifiers ++ modifiers } := by
  induction modifiers generalizing builder with
  | nil =>
      rw [List.append_nil, ← roles]
      rfl
  | cons modifier modifiers ih =>
      have fresh : modifier.role ∉ builder.modifiers.map Modifier.role := by
        intro earlier
        rw [List.map_append] at once
        exact (List.nodup_append.1 once).2.2 _ earlier _ List.mem_cons_self rfl
      rw [List.append_cons] at once ⊢
      rw [List.map_cons, Builder.run_cons, step_modifier outside roles fresh]
      exact ih outside rfl once

/-- A head leaves its name and its modifiers waiting, wherever the modifiers stand. -/
theorem Rests.run_head (rests : Rests builder frames facts)
    (outside : builder.context = .top ∨ builder.context = .block) (head : Head) :
    builder.run head.items =
      { builder with
        names := [head.pending]
        roles := .given head.modifiers
        modifiers := head.modifiers } := by
  obtain ⟨before, name, after, once⟩ := head
  have first : builder.run (before.map Modifier.item) =
      { builder with roles := .given before, modifiers := before } := by
    have roles : builder.roles = .given builder.modifiers := by
      rw [rests.roles_eq, rests.modifiers_eq]
      rfl
    rw [run_modifiers before outside roles, rests.modifiers_eq, List.nil_append]
    rw [rests.modifiers_eq, List.nil_append]
    rw [List.map_append] at once
    exact (List.nodup_append.1 once).1
  have named : Builder.step { builder with roles := .given before, modifiers := before }
      (name.item .identifier) =
        { builder with
          names := [⟨name.text, name.location, false⟩]
          roles := .given before
          modifiers := before } := by
    have pushed : (⟨name.text, name.location, false⟩ : PendingName) :: builder.names =
        [⟨name.text, name.location, false⟩] := by
      rw [rests.names_eq]
    rw [← pushed]
    rfl
  rw [Head.items, Builder.run_append, first, Builder.run_cons, named]
  exact run_modifiers after outside rfl once

/-! ### Opening and closing -/

theorem table_declare {head : Head} (known : Known facts)
    (described : builder.table = table facts)
    (roles : builder.roles = .given head.modifiers)
    (modifiers : builder.modifiers = head.modifiers) :
    (builder.declare head.pending).table = table (facts ++ [.declared head]) := by
  rw [Builder.declare, described]
  by_cases member : head.name.text ∈ names facts
  · have found : (table facts).find? head.pending.name = some (object facts head.name.text) :=
      find?_table_of_mem member
    rw [found, table_append_declared member, ← described, ← roles]
    dsimp only
    rw [modifiers]
    rfl
  · have absent : (table facts).find? head.pending.name = none :=
      find?_table_of_not_mem member
    rw [absent, known.table_append_declared member, ← described, ← roles]
    rfl

theorem step_opening {type : TokenType} {frame : Option Site → Frame}
    (opens : type.opens? = some frame) (opening : Word) (builder : Builder) :
    builder.step (opening.item type) =
      builder.openBody frame ⟨type, opening.text, opening.location⟩ := by
  cases type <;> cases opens <;> rfl

/-- A head and an opening bracket declare the object and wait for its contents. -/
theorem Rests.run_open {frame : Option Site → Frame} (rests : Rests builder frames facts)
    (outside : builder.context = .top ∨ builder.context = .block) (head : Head)
    (type : TokenType) (opens : type.opens? = some frame) (opening : Word) :
    Rests (builder.run (head.items ++ [opening.item type]))
      (frame (some ⟨head.pending, []⟩) :: frames) (facts ++ [.declared head]) := by
  rw [Builder.run_append, rests.run_head outside head, Builder.run_cons, Builder.run_nil,
    step_opening opens]
  constructor
  case frames_eq =>
    exact congrArg (List.cons _) ((Builder.frames_declare _ _).trans rests.frames_eq)
  case table_eq => exact table_declare rests.known rests.table_eq rfl rfl
  case known => exact rests.known.append_declared head
  all_goals rfl

theorem step_closeGroup {site : Option Site} (innermost : builder.frames = .group site :: frames)
    (closing : Word) :
    builder.step (closing.item .closeGroup) = builder.closeBody (.group site) frames := by
  change builder.closeGroup _ = _
  rw [Builder.closeGroup, innermost]

theorem step_closeBlock {site : Option Site} (innermost : builder.frames = .block site :: frames)
    (closing : Word) :
    builder.step (closing.item .closeBlock) = builder.closeBody (.block site) frames := by
  change builder.closeBlock _ = _
  rw [Builder.closeBlock, innermost]

theorem reportAll_nil (builder : Builder) : builder.reportAll [] = builder := by
  simp [Builder.reportAll, SymbolTable.addDiagnostics]

theorem dropModifiers_of_nil (roles : builder.roles = .through) (none : builder.modifiers = []) :
    builder.dropModifiers = builder := by
  rw [Builder.dropModifiers, none, List.map_nil, reportAll_nil, Builder.clearModifiers, ← roles,
    ← none]

theorem dropNames_of_nil (none : builder.names = []) : builder.dropNames = builder := by
  rw [Builder.dropNames, none, List.map_nil, reportAll_nil, ← none]

theorem Rests.closeBody {frame : Frame} (rests : Rests builder (frame :: frames) facts)
    (held : frame.site? = some ⟨owner, []⟩) :
    Rests (builder.closeBody frame frames) frames facts := by
  rw [Builder.closeBody]
  rw [held, dropModifiers_of_nil rests.roles_eq rests.modifiers_eq,
    dropNames_of_nil (show (builder.leave frame frames).names = [] from rests.names_eq)]
  exact { rests with frames_eq := rfl, names_eq := rfl }

/-! ### Groups -/

theorem Rests.step_literal (rests : Rests builder (.group (some ⟨owner, []⟩) :: frames) facts)
    (member : owner.name ∈ names facts) (literal : Word) :
    Rests (builder.step (literal.item .literal)) (.group (some ⟨owner, []⟩) :: frames)
      (facts ++ [.listed owner.name literal]) := by
  have read : builder.step (literal.item .literal) =
      { builder with
        table := builder.table.addValueOf owner.name literal.text (some literal.location) } := by
    change builder.addLiteral _ = _
    rw [Builder.addLiteral, rests.frames_eq]
  rw [read]
  refine { rests with table_eq := ?_, known := rests.known.append rfl member }
  rw [table_append_listed, ← rests.table_eq]

theorem Rests.run_literals (rests : Rests builder (.group (some ⟨owner, []⟩) :: frames) facts)
    (member : owner.name ∈ names facts) (literals : List Word) :
    Rests (builder.run (literals.map (Word.item .literal)))
      (.group (some ⟨owner, []⟩) :: frames)
      (facts ++ literals.map (.listed owner.name)) := by
  induction literals generalizing builder facts with
  | nil =>
      rw [List.map_nil, List.map_nil, List.append_nil]
      exact rests
  | cons literal literals ih =>
      rw [List.map_cons, Builder.run_cons, List.map_cons, List.append_cons]
      apply ih
      · exact rests.step_literal member literal
      · rwa [names_append rfl]

/-! ### Statements -/

theorem transition?_object (facts : List Fact) (name : String) (origin : Reference) :
    (object facts name).transition? origin.text =
      ((statementsOf facts name).find? (·.origin.text = origin.text)).map
        Statement.transition := by
  rw [Object.transition?, object, List.find?_map]
  rfl

theorem table_addTransition (described : builder.table = table facts)
    (member : owner.name ∈ names facts) (statement : Statement) :
    (builder.addTransition owner statement.origin.pending statement.target.pending
      statement.mode).table = table (facts ++ [.stated owner.name statement]) := by
  have found : builder.table.find? owner.name = some (object facts owner.name) := by
    rw [described]
    exact find?_table_of_mem member
  rw [Builder.addTransition, found, table_append_stated, diagnosticsAt, ← described]
  simp only [Reference.name_pending, Reference.location_pending, Target.name_pending,
    transition?_object]
  cases (statementsOf facts owner.name).find? (·.origin.text = statement.origin.text) with
  | none =>
      dsimp only [Option.map]
      rw [SymbolTable.addDiagnostics, List.append_nil]
      rfl
  | some previous => rfl

theorem Rests.addTransition (rests : Rests builder frames facts)
    (member : owner.name ∈ names facts) (statement : Statement) :
    Rests (builder.addTransition owner statement.origin.pending statement.target.pending
      statement.mode) frames (facts ++ [.stated owner.name statement]) where
  frames_eq := (Builder.frames_addTransition _ _ _ _ builder).trans rests.frames_eq
  names_eq := (Builder.names_addTransition _ _ _ _ builder).trans rests.names_eq
  roles_eq := (Builder.roles_addTransition _ _ _ _ builder).trans rests.roles_eq
  modifiers_eq := (Builder.modifiers_addTransition _ _ _ _ builder).trans rests.modifiers_eq
  table_eq := table_addTransition rests.table_eq member statement
  known := rests.known.append rfl member

theorem step_reference (reference : Reference) (builder : Builder) :
    builder.step reference.item = builder.pushName reference.pending := by
  cases reference <;> rfl

theorem step_target (inside : builder.context = .transition) (target : Target) :
    builder.step target.item = builder.pushName target.pending := by
  cases target with
  | place reference => exact step_reference reference builder
  | stay dot => exact if_pos inside

theorem run_mark (inside : builder.context = .transition) (unmarked : builder.mode = .after)
    (statement : Statement) :
    builder.run (statement.mark.toList.map Mark.item) =
      { builder with mode := statement.mode } := by
  rw [Statement.mode]
  cases statement.mark with
  | none =>
      rw [← unmarked]
      rfl
  | some mark =>
      cases mark with
      | before sign =>
          change builder.selectMode .before _ = _
          rw [Builder.selectMode, if_pos inside, if_pos unmarked]
          rfl
      | never sign =>
          change builder.selectMode .never _ = _
          rw [Builder.selectMode, if_pos inside, if_pos unmarked]
          rfl

theorem step_semicolon (innermost : builder.frames = .transition :: frames) (semicolon : Word) :
    builder.step (semicolon.item .semicolon) =
      builder.endTransition ⟨.semicolon, semicolon.text, semicolon.location⟩ frames := by
  change builder.endAny _ = _
  rw [Builder.endAny, innermost]

theorem endTransition_owned {origin target : PendingName} (token : Token)
    (waiting : builder.names = [target, origin])
    (owns : Builder.innermostOwner? frames = some owner) :
    builder.endTransition token frames =
      (builder.pastStatement frames).addTransition owner origin target builder.mode := by
  rw [Builder.endTransition, waiting, owns]
  rfl

/-- The owner of a block receives its statements. -/
theorem Rests.run_statement (rests : Rests builder (.block (some ⟨owner, []⟩) :: frames) facts)
    (member : owner.name ∈ names facts) (statement : Statement) :
    Rests (builder.run statement.items) (.block (some ⟨owner, []⟩) :: frames)
      (facts ++ [.stated owner.name statement]) := by
  have flushed : (builder.pushName statement.origin.pending).dropModifiers =
      builder.pushName statement.origin.pending :=
    dropModifiers_of_nil rests.roles_eq rests.modifiers_eq
  have begun : (builder.pushName statement.origin.pending).step
      (statement.equals.item .equals) =
        { builder with names := [statement.origin.pending], mode := .after }.enter
          .transition := by
    change (builder.pushName statement.origin.pending).beginTransition = _
    rw [Builder.beginTransition, flushed, Builder.pushName, rests.names_eq]
  have owns : Builder.innermostOwner? builder.frames = some owner := by
    rw [rests.frames_eq]
    rfl
  rw [Statement.items, Builder.run_cons, step_reference, Builder.run_cons, begun,
    Builder.run_append, run_mark rfl rfl, Builder.run_cons, Builder.run_cons, Builder.run_nil,
    step_target rfl, step_semicolon rfl, endTransition_owned _ rfl owns]
  apply Rests.addTransition
  · exact { rests with frames_eq := rests.frames_eq, names_eq := rfl }
  · exact member

/-! ### Declarations -/

theorem mem_names_append (more : List Fact) {name : String} (member : name ∈ names facts) :
    name ∈ names (facts ++ more) := by
  rw [names, List.mem_eraseDups] at member ⊢
  rw [List.filterMap_append, List.map_append]
  exact List.mem_append_left _ member

theorem mem_names_append_declared (facts : List Fact) (head : Head) :
    head.name.text ∈ names (facts ++ [.declared head]) := by
  rw [names_append_declared]
  split
  · assumption
  · exact List.mem_append_right _ List.mem_cons_self

mutual

theorem Declaration.rests_run {builder : Builder} {frames : List Frame} {facts : List Fact} :
    (declaration : Declaration) → Rests builder frames facts →
    builder.context = .top ∨ builder.context = .block →
    Rests (builder.run declaration.items) frames (facts ++ declaration.facts)
  | .group head opening literals closing, rests, outside => by
      have opened := rests.run_open outside head .openGroup rfl opening
      have listed := opened.run_literals (mem_names_append_declared facts head) literals
      rw [Declaration.items, Declaration.facts, List.append_cons head.items,
        List.append_cons facts, Builder.run_append, Builder.run_append, Builder.run_cons,
        Builder.run_nil, step_closeGroup listed.frames_eq]
      exact listed.closeBody rfl
  | .block head opening body closing, rests, outside => by
      have opened := rests.run_open outside head .openBlock rfl opening
      have filled := body.rests_run opened (mem_names_append_declared facts head)
      rw [Declaration.items, Declaration.facts, List.append_cons head.items,
        List.append_cons facts, Builder.run_append, Builder.run_append, Builder.run_cons,
        Builder.run_nil, step_closeBlock filled.frames_eq]
      exact filled.closeBody rfl

theorem Body.rests_run {builder : Builder} {frames : List Frame} {facts : List Fact}
    {owner : PendingName} :
    (body : Body) → Rests builder (.block (some ⟨owner, []⟩) :: frames) facts →
    owner.name ∈ names facts →
    Rests (builder.run body.items) (.block (some ⟨owner, []⟩) :: frames)
      (facts ++ body.facts owner.name)
  | .empty, rests, _ => by
      rw [Body.items, Body.facts, List.append_nil]
      exact rests
  | .statement statement rest, rests, member => by
      have read := rests.run_statement member statement
      rw [Body.items, Body.facts, Builder.run_append, List.append_cons]
      exact rest.rests_run read (mem_names_append _ member)
  | .declaration declaration rest, rests, member => by
      have inside : builder.context = .block := by
        rw [Builder.context, rests.frames_eq]
        rfl
      have read := declaration.rests_run rests (.inr inside)
      rw [Body.items, Body.facts, Builder.run_append, ← List.append_assoc]
      exact rest.rests_run read (mem_names_append _ member)

end

/-! ### Programs -/

theorem Rests.run_program (rests : Rests builder [] facts) (program : List Declaration) :
    Rests (builder.run (program.flatMap Declaration.items)) []
      (facts ++ program.flatMap Declaration.facts) := by
  induction program generalizing builder facts with
  | nil =>
      rw [List.flatMap_nil, List.flatMap_nil, List.append_nil]
      exact rests
  | cons declaration program ih =>
      have outside : builder.context = .top := by
        rw [Builder.context, rests.frames_eq]
      rw [List.flatMap_cons, List.flatMap_cons, Builder.run_append, ← List.append_assoc]
      exact ih (declaration.rests_run rests (.inl outside))

/-- Where nothing waits, the end of the source adds nothing. -/
theorem Rests.table_close (rests : Rests builder [] facts) :
    builder.close.table = table facts := by
  have empty : builder.pending = [] := by
    rw [Builder.pending, rests.names_eq, rests.frames_eq]
    rfl
  rw [Builder.close, dropModifiers_of_nil rests.roles_eq rests.modifiers_eq]
  change (builder.reportAll (builder.pending.map PendingName.unclosed)).table = _
  rw [empty, List.map_nil, reportAll_nil, rests.table_eq]

end Grammar

/-- A well-formed program builds the table that it means. -/
theorem ofItems_of_spells (recordsFaults : Bool) {items : List Item}
    {program : List Grammar.Declaration} (spells : Grammar.Spells items program) :
    SymbolTable.ofItems recordsFaults items = Grammar.meaning program := by
  have read := (Grammar.rests_new recordsFaults).run_program program
  rw [SymbolTable.ofItems, Builder.build_eq_close, ← Grammar.run_filter_comments, spells,
    read.table_close]
  rfl

namespace Grammar

def sampleWord (text : String) (column : Int) : Word :=
  ⟨text, ⟨"sample", 1, column⟩⟩

/-- The text `*a {x = ^ .; b: ("u")} a* {x = @;}` declares `a` twice, once around `b`. -/
def sampleProgram : List Declaration :=
  [.block ⟨[⟨.entryPoint, "*", ⟨"sample", 1, 1⟩⟩], sampleWord "a" 2, [], by decide⟩
      (sampleWord "\x7b" 4)
      (.statement
        ⟨.name (sampleWord "x" 5), sampleWord "=" 7, some (.never (sampleWord "^" 9)),
          .stay (sampleWord "." 11), sampleWord ";" 12⟩
        (.declaration
          (.group ⟨[], sampleWord "b" 14, [⟨.endPoint, ":", ⟨"sample", 1, 15⟩⟩], by decide⟩
            (sampleWord "(" 17) [sampleWord "u" 18] (sampleWord ")" 21))
          .empty))
      (sampleWord "\x7d" 22),
    .block ⟨[], sampleWord "a" 24, [⟨.entryPoint, "*", ⟨"sample", 1, 25⟩⟩], by decide⟩
      (sampleWord "\x7b" 27)
      (.statement
        ⟨.name (sampleWord "x" 28), sampleWord "=" 30, none,
          .place (.broadcast (sampleWord "@" 32)), sampleWord ";" 33⟩
        .empty)
      (sampleWord "\x7d" 34)]

/-- The tokens of the sample, each behind a comment. -/
def sampleItems : List Item :=
  (sampleProgram.flatMap Declaration.items).flatMap fun item =>
    [(sampleWord "#" 1).item .comment, item]

end Grammar

theorem ofItems_sampleItems :
    Grammar.Spells Grammar.sampleItems Grammar.sampleProgram ∧
      SymbolTable.ofItems true Grammar.sampleItems =
        ⟨[⟨"a", some ⟨"sample", 1, 2⟩, .only .entryPoint, [],
            [⟨some ⟨"sample", 1, 5⟩, "x", ".", .never⟩,
              ⟨some ⟨"sample", 1, 28⟩, "x", "@", .after⟩]⟩,
          ⟨"b", some ⟨"sample", 1, 14⟩, .only .endPoint, [0], []⟩],
        [⟨"u", some ⟨"sample", 1, 18⟩⟩],
        [⟨.semantic (.duplicateAttribute "*"), some ⟨"sample", 1, 25⟩⟩,
          ⟨.semantic (.duplicateTransition "x" "@" (some ⟨"sample", 1, 5⟩)),
            some ⟨"sample", 1, 28⟩⟩]⟩ := by
  have spells : Grammar.Spells Grammar.sampleItems Grammar.sampleProgram := rfl
  refine ⟨spells, ?_⟩
  rw [ofItems_of_spells true spells]
  rfl

end StateDescription
