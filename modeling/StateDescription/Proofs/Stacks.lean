import StateDescription.Proofs.Outcomes

/-!
Building on two flat stacks. The frames of a builder hold the names that wait around them; here
all names wait on one stack, a frame knows only how many of them lie below it, and every access
to a stack or a table may fail.
-/

namespace StateDescription

/-- What an access can fail on: an empty stack, an object that no table holds, or a token type
without the entry that is looked up for it. -/
inductive AccessFault
  | noFrame
  | noName
  | noObject (name : String)
  | noEntry (type : TokenType)
  deriving DecidableEq

inductive Raised
  | fault (fault : AccessFault)
  | refused (refusal : Builder.Refusal)
  deriving DecidableEq

/-- An open construct, or the whole source, with the number of names below it. -/
structure StackFrame where
  context : Context
  owner : Option PendingName
  base : Nat
  deriving DecidableEq

/-- The two stacks, the top of each first, and the other things that a build keeps. -/
structure Stacks where
  recordsFaults : Bool
  table : SymbolTable
  frames : List StackFrame
  names : List PendingName
  roles : Roles
  modifiers : List Token
  mode : WriteMode
  finished : Bool
  trace : Array Event

namespace Stacks

def new (recordsFaults : Bool) : Stacks where
  recordsFaults := recordsFaults
  table := .empty
  frames := [⟨.top, none, 0⟩]
  names := []
  roles := .through
  modifiers := []
  mode := .after
  finished := false
  trace := #[]

/-- A computation on the stacks. What it did before it fails stays done. -/
abbrev Action := EStateM Raised Stacks

/-! ### Accesses -/

def innermost : Action StackFrame := do
  match (← get).frames with
  | [] => throw (.fault .noFrame)
  | frame :: _ => return frame

def popFrame : Action StackFrame := do
  match (← get).frames with
  | [] => throw (.fault .noFrame)
  | frame :: frames =>
    modify fun machine =>
      { machine with
        frames := frames
        trace := machine.trace.push (.closed frame.context frames.length) }
    return frame

def pushFrame (frame : StackFrame) : Action Unit :=
  modify fun machine =>
    { machine with
      frames := frame :: machine.frames
      trace := machine.trace.push (.opened frame.context machine.frames.length) }

def newestName : Action PendingName := do
  match (← get).names with
  | [] => throw (.fault .noName)
  | name :: _ => return name

def popName : Action PendingName := do
  match (← get).names with
  | [] => throw (.fault .noName)
  | name :: names =>
    modify fun machine => { machine with names := names }
    return name

def pushName (name : PendingName) : Action Unit :=
  modify fun machine => { machine with names := name :: machine.names }

def roleOf (type : TokenType) : Action Role :=
  match type.role? with
  | some role => return role
  | none => throw (.fault (.noEntry type))

def modeOf (type : TokenType) : Action WriteMode :=
  match type.mode? with
  | some mode => return mode
  | none => throw (.fault (.noEntry type))

def objectOf (name : String) : Action Object := do
  match (← get).table.find? name with
  | none => throw (.fault (.noObject name))
  | some object => return object

def change (name : String) (update : Object → Object) : Action Unit :=
  modify fun machine => { machine with table := machine.table.modify name update }

def addValue (text : String) (location : Location) : Action Nat := do
  let index := (← get).table.values.length
  modify fun machine => { machine with table := machine.table.addValue text (some location) }
  return index

def setMode (mode : WriteMode) : Action Unit :=
  modify fun machine => { machine with mode := mode }

/-! ### Diagnostics and trace -/

def note (event : Event) : Action Unit :=
  modify fun machine => { machine with trace := machine.trace.push event }

def report (diagnostic : Diagnostic) : Action Unit :=
  modify fun machine =>
    { machine with
      table := machine.table.addDiagnostic diagnostic
      trace := machine.trace.push (.diagnosed diagnostic) }

def reject (problem : SemanticProblem) (token : Token) : Action Unit :=
  report ⟨.semantic problem, some token.location⟩

/-! ### Waiting names and modifiers -/

/-- Reports and drops that many names, the newest first. -/
def discard : Nat → Action Unit
  | 0 => return
  | count + 1 => do
    report (← popName).unclosed
    discard count

/-- Drops the names above a depth without a word. -/
def forgetAbove (base : Nat) : Action Unit :=
  modify fun machine => { machine with names := machine.names.drop (machine.names.length - base) }

def discardAbove (base : Nat) : Action Unit := do
  discard ((← get).names.length - base)

def keepModifier (role : Role) (token : Token) : Action Unit :=
  modify fun machine =>
    { machine with
      roles := machine.roles ∪ .only role
      modifiers := machine.modifiers ++ [token] }

def clearModifiers : Action Unit :=
  modify fun machine => { machine with roles := .through, modifiers := [] }

def rejectUnattached : List Token → Action Unit
  | [] => return
  | modifier :: modifiers => do
    reject (.unattachedModifier modifier.value) modifier
    rejectUnattached modifiers

def rejectRepeated (roles : Roles) : List Token → Action Unit
  | [] => return
  | modifier :: modifiers => do
    if (← roleOf modifier.type) ∈ roles then
      reject (.duplicateAttribute modifier.value) modifier
    rejectRepeated roles modifiers

def flushModifiers : Action Unit := do
  rejectUnattached (← get).modifiers
  clearModifiers

/-! ### Declarations -/

def declare (owner : PendingName) : Action Unit := do
  match (← get).table.find? owner.name with
  | none =>
    modify fun machine =>
      { machine with
        table :=
          machine.table.declare ⟨owner.name, some owner.location, machine.roles, [], []⟩
        trace := machine.trace.push (.declared owner.name machine.roles owner.location) }
  | some object =>
    rejectRepeated object.roles (← get).modifiers
    change owner.name (Object.addRoles (← get).roles)

def openBody (context : Context) (token : Token) : Action Unit := do
  if (← get).names.length > (← innermost).base then
    let owner ← newestName
    declare owner
    clearModifiers
    pushFrame ⟨context, some owner, (← get).names.length⟩
  else
    reject (.expectedIdentifier token.value) token
    clearModifiers
    pushFrame ⟨context, none, (← get).names.length⟩

def closeBody (context : Context) (problem : SemanticProblem) (token : Token) :
    Action Unit := do
  let frame ← innermost
  if frame.context = context then
    flushModifiers
    let _ ← popFrame
    discardAbove frame.base
    if frame.owner.isSome then
      let _ ← popName
  else reject problem token

def addLiteral (token : Token) : Action Unit := do
  let frame ← innermost
  if frame.context = .group then
    match frame.owner with
    | none => note (.literalDropped token.value)
    | some owner =>
      let index ← addValue token.value token.location
      let _ ← objectOf owner.name
      change owner.name (Object.addValue index)
  else reject (.literalOutsideGroup token.value) token

/-! ### Modifiers -/

def addModifier (token : Token) : Action Unit := do
  let context := (← innermost).context
  if context = .group ∨ context = .transition then
    reject (.unattachedModifier token.value) token
  else
    let role ← roleOf token.type
    if role ∈ (← get).roles then reject (.duplicateAttribute token.value) token
    else keepModifier role token

def selectMode (token : Token) : Action Unit := do
  if (← innermost).context = .transition then
    if (← get).mode = .after then
      setMode (← modeOf token.type)
    else reject (.duplicateWriteMode token.value) token
  else reject (.unattachedModifier token.value) token

/-! ### Statements -/

def beginTransition : Action Unit := do
  flushModifiers
  setMode .after
  pushFrame ⟨.transition, none, (← innermost).base⟩

def addTransition (receiver origin target : PendingName) (mode : WriteMode) :
    Action Unit := do
  match (← get).table.find? receiver.name with
  | none =>
    report ⟨.semantic (.undefinedIdentifier receiver.name), some receiver.location⟩
  | some object =>
    match object.transition? origin.name with
    | none => pure ()
    | some previous =>
      report
        ⟨.semantic (.duplicateTransition origin.name target.name previous.location),
          some origin.location⟩
    change receiver.name
      (Object.addTransition ⟨some origin.location, origin.name, target.name, mode⟩)

/-- The target and origin of a transition lie on top, and its receiver is the name below them,
whatever it was read for. -/
def completeTransition (base : Nat) (mode : WriteMode) (token : Token) : Action Unit := do
  if (← get).names.length < max 3 (base + 2) then
    reject (.unexpectedEndOfStatement token.value) token
    forgetAbove base
  else
    let target ← popName
    let origin ← popName
    addTransition (← newestName) origin target mode
    if (← get).names.length > base then
      let _ ← popName
      discardAbove base

def endTransition (token : Token) : Action Unit := do
  let _ ← popFrame
  let base := (← innermost).base
  let mode := (← get).mode
  setMode .after
  completeTransition base mode token

def endStatement (token : Token) : Action Unit := do
  flushModifiers
  if (← get).names.length > (← innermost).base then
    note (.nameDropped (← popName).name)
  else reject (.unexpectedEndOfStatement token.value) token

def endAny (token : Token) : Action Unit := do
  if (← innermost).context = .transition then endTransition token else endStatement token

def addStay (token : Token) : Action Unit := do
  if (← innermost).context = .transition then pushName ⟨".", token.location, true⟩
  else reject (.unattachedModifier token.value) token

/-! ### Calls -/

def stepToken (token : Token) : Action Unit :=
  match token.type with
  | .comment => return
  | .identifier => pushName ⟨token.value, token.location, false⟩
  | .openGroup => openBody .group token
  | .openBlock => openBody .block token
  | .closeGroup => closeBody .group (.unbalancedGroup token.value) token
  | .closeBlock => closeBody .block (.unbalancedBlock token.value) token
  | .literal => addLiteral token
  | .equals => beginTransition
  | .star => addModifier token
  | .colon => addModifier token
  | .caret => selectMode token
  | .percent => selectMode token
  | .atSign => pushName ⟨"@", token.location, true⟩
  | .dot => addStay token
  | .pipe => reject (.reservedTokenUnused token.value) token
  | .semicolon => endAny token

def stepFault (fault : Fault) : Action Unit := do
  if (← get).recordsFaults then report fault.toDiagnostic
  else note (.faultDropped fault)

def step : Item → Action Unit
  | .token token => stepToken token
  | .fault fault => stepFault fault

def feed (item : Item) : Action Unit := do
  if (← get).finished then throw (.refused .finished) else step item

def close : Action Unit := do
  flushModifiers
  discardAbove 0
  modify fun machine => { machine with finished := true }
  let table := (← get).table
  note (.built table.objects.length table.values.length table.diagnostics.length)

def finish : Action Unit := do
  if (← get).finished then return else close

/-! ### What actions do -/

section Actions

variable {α β : Type} (machine : Stacks)

theorem bind_apply (action : Action α) (next : α → Action β) :
    (action >>= next) machine =
      match action machine with
      | .ok value after => next value after
      | .error raised after => .error raised after := by
  change EStateM.bind action next machine = _
  rw [EStateM.bind]
  cases action machine <;> rfl

theorem get_apply : (get : Action Stacks) machine = .ok machine machine := rfl

theorem modify_apply (update : Stacks → Stacks) :
    (modify update : Action Unit) machine = .ok () (update machine) := rfl

theorem pure_apply (value : α) : (pure value : Action α) machine = .ok value machine := rfl

end Actions

def reportAll (diagnostics : List Diagnostic) (machine : Stacks) : Stacks :=
  { machine with
    table := machine.table.addDiagnostics diagnostics
    trace := machine.trace ++ diagnostics.map Event.diagnosed }

def withNames (names : List PendingName) (machine : Stacks) : Stacks :=
  { machine with names := names }

variable {machine : Stacks}

@[simp] theorem names_withNames (names : List PendingName) (machine : Stacks) :
    (machine.withNames names).names = names := rfl

theorem reportAll_withNames (diagnostics : List Diagnostic) (names : List PendingName)
    (machine : Stacks) :
    (machine.withNames names).reportAll diagnostics =
      (machine.reportAll diagnostics).withNames names := rfl

theorem reportAll_nil (machine : Stacks) : machine.reportAll [] = machine := by
  simp [reportAll, SymbolTable.addDiagnostics]

theorem reportAll_cons (diagnostic : Diagnostic) (diagnostics : List Diagnostic)
    (machine : Stacks) :
    machine.reportAll (diagnostic :: diagnostics) =
      (machine.reportAll [diagnostic]).reportAll diagnostics := by
  simp [reportAll, SymbolTable.addDiagnostics]

theorem report_apply (diagnostic : Diagnostic) (machine : Stacks) :
    report diagnostic machine = .ok () (machine.reportAll [diagnostic]) := by
  simp [report, modify_apply, reportAll, SymbolTable.addDiagnostic]

theorem reject_apply (problem : SemanticProblem) (token : Token) (machine : Stacks) :
    reject problem token machine =
      .ok () (machine.reportAll [⟨.semantic problem, some token.location⟩]) :=
  report_apply _ machine

theorem innermost_apply {frame : StackFrame} {frames : List StackFrame}
    (top : machine.frames = frame :: frames) : innermost machine = .ok frame machine := by
  simp only [innermost, bind_apply, get_apply, top, pure_apply]

theorem popFrame_apply {frame : StackFrame} {frames : List StackFrame}
    (top : machine.frames = frame :: frames) :
    popFrame machine =
      .ok frame
        { machine with
          frames := frames
          trace := machine.trace.push (.closed frame.context frames.length) } := by
  simp only [popFrame, bind_apply, get_apply, top, pure_apply, modify_apply]

theorem newestName_apply {name : PendingName} {names : List PendingName}
    (top : machine.names = name :: names) : newestName machine = .ok name machine := by
  simp only [newestName, bind_apply, get_apply, top, pure_apply]

theorem popName_apply {name : PendingName} {names : List PendingName}
    (top : machine.names = name :: names) :
    popName machine = .ok name (machine.withNames names) := by
  simp only [popName, bind_apply, get_apply, top, pure_apply, modify_apply, withNames]

theorem newestName_withNames (name : PendingName) (names : List PendingName)
    (machine : Stacks) :
    newestName (machine.withNames (name :: names)) =
      .ok name (machine.withNames (name :: names)) :=
  newestName_apply rfl

theorem popName_withNames (name : PendingName) (names : List PendingName) (machine : Stacks) :
    popName (machine.withNames (name :: names)) = .ok name (machine.withNames names) :=
  popName_apply rfl

theorem objectOf_apply {name : String} {object : Object}
    (found : machine.table.find? name = some object) :
    objectOf name machine = .ok object machine := by
  simp only [objectOf, bind_apply, get_apply, found, pure_apply]

theorem roleOf_apply {type : TokenType} {role : Role} (gives : type.role? = some role)
    (machine : Stacks) : roleOf type machine = .ok role machine := by
  rw [roleOf, gives]
  rfl

theorem modeOf_apply {type : TokenType} {mode : WriteMode} (gives : type.mode? = some mode)
    (machine : Stacks) : modeOf type machine = .ok mode machine := by
  rw [modeOf, gives]
  rfl

/-- Discarding reports the names on top and stops at those below. -/
theorem discard_apply {count : Nat} {above below : List PendingName}
    (split : machine.names = above ++ below) (size : above.length = count) :
    discard count machine =
      .ok () ((machine.reportAll (above.map PendingName.unclosed)).withNames below) := by
  induction count generalizing above machine with
  | zero =>
      obtain rfl := List.length_eq_zero_iff.1 size
      rw [List.nil_append] at split
      rw [List.map_nil, reportAll_nil, ← split]
      rfl
  | succ count ih =>
      cases above with
      | nil => cases size
      | cons name above =>
          rw [List.cons_append] at split
          have kept : ((machine.withNames (above ++ below)).reportAll [name.unclosed]).names =
              above ++ below := rfl
          simp only [discard, bind_apply, popName_apply split, report_apply]
          rw [ih kept (Nat.succ.inj size), List.map_cons, reportAll_cons name.unclosed _ machine]
          rfl

theorem discardAbove_apply {above below : List PendingName}
    (split : machine.names = above ++ below) :
    discardAbove below.length machine =
      .ok () ((machine.reportAll (above.map PendingName.unclosed)).withNames below) := by
  have size : above.length = machine.names.length - below.length := by
    rw [split, List.length_append]
    omega
  exact discard_apply split size

end Stacks

end StateDescription
