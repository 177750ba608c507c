import StateDescription.Builder.Event
import StateDescription.SymbolTable

/-!
Building a symbol table from items, one item at a time. Nothing stops a builder: every problem
becomes a diagnostic, and the builder goes on at the next statement or construct.

- Closing a construct drops the names left in it and the modifiers that reached no declaration,
  with a diagnostic each.
- The end of the source does the same for all names and modifiers that still wait.
-/

namespace StateDescription

/-- A `*` or `:` that waits for a declaration. -/
structure Modifier where
  role : Role
  token : String
  location : Location
  deriving DecidableEq

namespace Modifier

def unattached (modifier : Modifier) : Diagnostic :=
  ⟨.semantic (.unattachedModifier modifier.token), some modifier.location⟩

def duplicate (modifier : Modifier) : Diagnostic :=
  ⟨.semantic (.duplicateAttribute modifier.token), some modifier.location⟩

end Modifier

def PendingName.unclosed (name : PendingName) : Diagnostic :=
  ⟨.semantic (.unclosed name.name), some name.location⟩

/-- The state of a build. `frames` holds the open constructs, the innermost first, and `names`
the names that wait in the innermost group or block, the newest first. `roles` are the roles
that the waiting modifiers give, and `mode` is the write mode of the statement being read. -/
structure Builder where
  recordsFaults : Bool
  table : SymbolTable
  frames : List Frame
  names : List PendingName
  roles : Roles
  modifiers : List Modifier
  mode : WriteMode
  finished : Bool
  trace : Array Event

namespace Builder

def new (recordsFaults : Bool) : Builder where
  recordsFaults := recordsFaults
  table := .empty
  frames := []
  names := []
  roles := .through
  modifiers := []
  mode := .after
  finished := false
  trace := #[]

/-! ### Views -/

def context (builder : Builder) : Context :=
  match builder.frames with
  | [] => .top
  | frame :: _ => frame.context

/-- The open constructs, the innermost first and the whole source last. -/
def contexts (builder : Builder) : List Context :=
  builder.frames.map Frame.context ++ [.top]

/-- All names that wait, the newest first. -/
def pending (builder : Builder) : List PendingName :=
  builder.names ++ builder.frames.flatMap Frame.names

/-! ### Diagnostics and trace -/

def note (event : Event) (builder : Builder) : Builder :=
  { builder with trace := builder.trace.push event }

def reportAll (diagnostics : List Diagnostic) (builder : Builder) : Builder :=
  { builder with
    table := builder.table.addDiagnostics diagnostics
    trace := builder.trace ++ diagnostics.map Event.diagnosed }

def report (diagnostic : Diagnostic) (builder : Builder) : Builder :=
  builder.reportAll [diagnostic]

def reject (problem : SemanticProblem) (token : Token) (builder : Builder) : Builder :=
  builder.report ⟨.semantic problem, some token.location⟩

/-! ### Waiting names and modifiers -/

def pushName (name : PendingName) (builder : Builder) : Builder :=
  { builder with names := name :: builder.names }

/-- Drops the names of the innermost construct, the newest first. -/
def dropNames (builder : Builder) : Builder :=
  { builder.reportAll (builder.names.map PendingName.unclosed) with names := [] }

/-- Lets no modifier wait any longer. -/
def clearModifiers (builder : Builder) : Builder :=
  { builder with roles := .through, modifiers := [] }

def dropModifiers (builder : Builder) : Builder :=
  (builder.reportAll (builder.modifiers.map Modifier.unattached)).clearModifiers

/-! ### Constructs -/

def enter (frame : Frame) (builder : Builder) : Builder :=
  { builder with
    frames := frame :: builder.frames
    trace := builder.trace.push (.opened frame.context (builder.frames.length + 1)) }

/-- Leaves a construct for the frames around it. -/
def leave (frame : Frame) (around : List Frame) (builder : Builder) : Builder :=
  { builder with
    frames := around
    trace := builder.trace.push (.closed frame.context (around.length + 1)) }

/-- Declares an object, or adds the waiting roles to the object of that name. A modifier whose
role the object has already is a duplicate. -/
def declare (owner : PendingName) (builder : Builder) : Builder :=
  match builder.table.find? owner.name with
  | none =>
    { builder with
      table := builder.table.declare ⟨owner.name, some owner.location, builder.roles, [], []⟩
      trace := builder.trace.push (.declared owner.name builder.roles owner.location) }
  | some object =>
    let repeated := builder.modifiers.filter fun modifier => modifier.role ∈ object.roles
    let builder := builder.reportAll (repeated.map Modifier.duplicate)
    { builder with table := builder.table.modify owner.name (Object.addRoles builder.roles) }

/-- Opens a group or block for the newest name of the construct around it. -/
def openBody (frame : Option Site → Frame) (token : Token) (builder : Builder) : Builder :=
  match builder.names with
  | owner :: around =>
    { (builder.declare owner).clearModifiers with names := [] }.enter
      (frame (some ⟨owner, around⟩))
  | [] =>
    ((builder.reject (.expectedIdentifier token.value) token).clearModifiers).enter (frame none)

/-- Closes the innermost group or block. The names that waited around it wait again, its owner
does not. -/
def closeBody (frame : Frame) (around : List Frame) (builder : Builder) : Builder :=
  let builder := (builder.dropModifiers.leave frame around).dropNames
  match frame.site? with
  | some site => { builder with names := site.around }
  | none => builder

def closeGroup (token : Token) (builder : Builder) : Builder :=
  match builder.frames with
  | .group site :: around => builder.closeBody (.group site) around
  | _ => builder.reject (.unbalancedGroup token.value) token

def closeBlock (token : Token) (builder : Builder) : Builder :=
  match builder.frames with
  | .block site :: around => builder.closeBody (.block site) around
  | _ => builder.reject (.unbalancedBlock token.value) token

def addLiteral (token : Token) (builder : Builder) : Builder :=
  match builder.frames with
  | .group (some site) :: _ =>
    { builder with
      table := builder.table.addValueOf site.owner.name token.value (some token.location) }
  | .group none :: _ => builder.note (.literalDropped token.value)
  | _ => builder.reject (.literalOutsideGroup token.value) token

/-! ### Modifiers -/

def addModifier (role : Role) (token : Token) (builder : Builder) : Builder :=
  match builder.context with
  | .group | .transition => builder.reject (.unattachedModifier token.value) token
  | .top | .block =>
    if role ∈ builder.roles then builder.reject (.duplicateAttribute token.value) token
    else
      { builder with
        roles := builder.roles ∪ .only role
        modifiers := builder.modifiers ++ [⟨role, token.value, token.location⟩] }

def selectMode (mode : WriteMode) (token : Token) (builder : Builder) : Builder :=
  if builder.context = .transition then
    if builder.mode = .after then { builder with mode := mode }
    else builder.reject (.duplicateWriteMode token.value) token
  else builder.reject (.unattachedModifier token.value) token

/-! ### Statements -/

def beginTransition (builder : Builder) : Builder :=
  { builder.dropModifiers with mode := .after }.enter .transition

/-- The owner of the innermost construct that has one. -/
def innermostOwner? (frames : List Frame) : Option PendingName :=
  frames.findSome? Frame.owner?

/-- Gives a transition to the object of the receiver's name. -/
def addTransition (receiver origin target : PendingName) (mode : WriteMode)
    (builder : Builder) : Builder :=
  match builder.table.find? receiver.name with
  | none =>
    builder.report
      ⟨.semantic (.undefinedIdentifier receiver.name), some receiver.location⟩
  | some object =>
    let builder :=
      match object.transition? origin.name with
      | none => builder
      | some previous =>
        builder.report
          ⟨.semantic (.duplicateTransition origin.name target.name previous.location),
            some origin.location⟩
    { builder with
      table := builder.table.modify receiver.name
        (Object.addTransition ⟨some origin.location, origin.name, target.name, mode⟩) }

/-- Ends a transition. The two newest names are its target and origin. The receiver is a third
name in the same construct, which the statement uses up, or else the innermost owner. -/
def endTransition (token : Token) (around : List Frame) (builder : Builder) : Builder :=
  let mode := builder.mode
  let names := builder.names
  let builder := { builder.leave .transition around with mode := .after, names := [] }
  match names, innermostOwner? around with
  | target :: origin :: receiver :: others, _ =>
    (builder.addTransition receiver origin target mode).reportAll
      (others.map PendingName.unclosed)
  | [target, origin], some owner => builder.addTransition owner origin target mode
  | _, _ => builder.reject (.unexpectedEndOfStatement token.value) token

/-- Ends a statement that is no transition, and drops the newest name of the construct. -/
def endStatement (token : Token) (builder : Builder) : Builder :=
  let builder := builder.dropModifiers
  match builder.names with
  | name :: names => { builder with names := names }.note (.nameDropped name.name)
  | [] => builder.reject (.unexpectedEndOfStatement token.value) token

def endAny (token : Token) (builder : Builder) : Builder :=
  match builder.frames with
  | .transition :: around => builder.endTransition token around
  | _ => builder.endStatement token

def addStay (token : Token) (builder : Builder) : Builder :=
  if builder.context = .transition then builder.pushName ⟨".", token.location, true⟩
  else builder.reject (.unattachedModifier token.value) token

/-! ### Driving a builder -/

def stepToken (token : Token) (builder : Builder) : Builder :=
  match token.type with
  | .comment => builder
  | .identifier => builder.pushName ⟨token.value, token.location, false⟩
  | .openGroup => builder.openBody .group token
  | .openBlock => builder.openBody .block token
  | .closeGroup => builder.closeGroup token
  | .closeBlock => builder.closeBlock token
  | .literal => builder.addLiteral token
  | .equals => builder.beginTransition
  | .star => builder.addModifier .entryPoint token
  | .colon => builder.addModifier .endPoint token
  | .caret => builder.selectMode .never token
  | .percent => builder.selectMode .before token
  | .atSign => builder.pushName ⟨"@", token.location, true⟩
  | .dot => builder.addStay token
  | .pipe => builder.reject (.reservedTokenUnused token.value) token
  | .semicolon => builder.endAny token

def stepFault (fault : Fault) (builder : Builder) : Builder :=
  if builder.recordsFaults then builder.report fault.toDiagnostic
  else builder.note (.faultDropped fault)

def step (builder : Builder) : Item → Builder
  | .token token => builder.stepToken token
  | .fault fault => builder.stepFault fault

def run (builder : Builder) (items : List Item) : Builder :=
  items.foldl step builder

@[simp] theorem run_nil (builder : Builder) : builder.run [] = builder := rfl

@[simp] theorem run_cons (builder : Builder) (item : Item) (items : List Item) :
    builder.run (item :: items) = (builder.step item).run items := rfl

@[simp] theorem run_append (builder : Builder) (first second : List Item) :
    builder.run (first ++ second) = (builder.run first).run second :=
  List.foldl_append

/-- The only refusal of a builder: a finished one takes no more items. -/
inductive Refusal
  | finished
  deriving DecidableEq

def Refusal.message : Refusal → String
  | finished => "builder has already finished; create a new one"

def feed (builder : Builder) (item : Item) : Except Refusal Builder :=
  if builder.finished then .error .finished else .ok (builder.step item)

/-- Ends the source: no modifier and no name waits any longer. -/
def close (builder : Builder) : Builder :=
  let builder := builder.dropModifiers
  let builder :=
    { builder.reportAll (builder.pending.map PendingName.unclosed) with
      names := []
      frames := builder.frames.map Frame.vacated
      finished := true }
  builder.note
    (.built builder.table.objects.length builder.table.values.length
      builder.table.diagnostics.length)

/-- Finishing once more changes nothing. -/
def finish (builder : Builder) : Builder :=
  if builder.finished then builder else builder.close

@[simp] theorem finished_close (builder : Builder) : builder.close.finished = true := rfl

@[simp] theorem finished_finish (builder : Builder) : builder.finish.finished = true := by
  unfold finish
  split
  · assumption
  · exact finished_close builder

@[simp] theorem finish_finish (builder : Builder) : builder.finish.finish = builder.finish :=
  if_pos (finished_finish builder)

/-- The builder that has taken all items and is finished. -/
def build (recordsFaults : Bool) (items : List Item) : Builder :=
  ((new recordsFaults).run items).finish

end Builder

def SymbolTable.ofItems (recordsFaults : Bool) (items : List Item) : SymbolTable :=
  (Builder.build recordsFaults items).table

end StateDescription
