import Mathlib.Data.List.Forall2
import Mathlib.Data.List.Infix
import StateDescription.Check
import StateDescription.Proofs.Constructs

/-!
The trace of a build. Every diagnostic, every new object, and every construct that is opened or
left has its event, so the lines of the trace tell the diagnostics of the table, the places of its
objects, and the constructs that are still open.
-/

namespace StateDescription

/-! ### Lines -/

/-- What stands behind a lead, if the line starts with it. -/
def behind? (lead line : String) : Option String :=
  (line.toList.dropPrefix? lead.toList).map String.ofList

theorem behind?_append (lead rest : String) : behind? lead (lead ++ rest) = some rest := by
  have found : (lead ++ rest).toList.dropPrefix? lead.toList = some rest.toList :=
    List.dropPrefix?_eq_some_iff.2 ⟨lead.toList, String.toList_append, beq_self_eq_true _⟩
  rw [behind?, found, Option.map_some, String.ofList_toList]

theorem behind?_append_of_apart {lead other : String} (apart : ¬lead.toList <+: other.toList)
    (apartToo : ¬other.toList <+: lead.toList) (rest : String) :
    behind? lead (other ++ rest) = none := by
  rw [behind?, Option.map_eq_none_iff, Option.eq_none_iff_forall_ne_some]
  intro tail found
  obtain ⟨start, whole, same⟩ := List.dropPrefix?_eq_some_iff.1 found
  rw [String.toList_append, eq_of_beq same] at whole
  have leads : lead.toList <+: other.toList ++ rest.toList := ⟨tail, whole.symm⟩
  exact (List.prefix_or_prefix_of_prefix leads (List.prefix_append _ _)).elim apart apartToo

namespace Event

/-- The words that an event starts its line with. -/
def lead : Event → String
  | opened _ _ => "Open "
  | closed _ _ => "Close "
  | declared _ _ _ => "Declared "
  | diagnosed _ => "Diagnostic: "
  | faultDropped _ => "Dropped lexical error: "
  | literalDropped _ => "Literal "
  | nameDropped _ => "Statement end dropped "
  | built _ _ _ => "Built "

def leads : List String :=
  ["Open ", "Close ", "Declared ", "Diagnostic: ", "Dropped lexical error: ", "Literal ",
    "Statement end dropped ", "Built "]

def detail : Event → String
  | opened context depth => context.name ++ depthText depth
  | closed context depth => context.name ++ depthText depth
  | declared name roles location =>
    quoted name ++ " (ObjectKind." ++ roles.name ++ ") at " ++ location.text
  | diagnosed diagnostic => diagnostic.text
  | faultDropped fault => fault.toDiagnostic.text
  | literalDropped text => quoted text ++ " in a group with no object"
  | nameDropped name => quoted name
  | built objects values diagnostics =>
    String.ofList (Decimal.digits objects) ++ " objects, " ++
      String.ofList (Decimal.digits values) ++ " values, " ++
      String.ofList (Decimal.digits diagnostics) ++ " diagnostics"

theorem text_eq (event : Event) : event.text = event.lead ++ event.detail := by
  unfold text lead detail
  cases event <;> simp only [String.append_assoc]

theorem lead_mem_leads (event : Event) : event.lead ∈ leads := by
  cases event <;> simp [lead, leads]

theorem apart_leads :
    ∀ first ∈ leads, ∀ second ∈ leads, first ≠ second → ¬first.toList <+: second.toList := by
  decide +kernel

/-- No lead starts another one, so the start of a line shows what kind of event it tells. -/
theorem behind?_text {words : String} (known : words ∈ leads) (event : Event) :
    behind? words event.text = if event.lead = words then some event.detail else none := by
  rw [text_eq]
  split
  · rename_i same
    rw [same, behind?_append]
  · rename_i other
    have member := event.lead_mem_leads
    exact behind?_append_of_apart (apart_leads _ known _ member (Ne.symm other))
      (apart_leads _ member _ known other) _

theorem behind?_lead_text (event : Event) : behind? event.lead event.text = some event.detail := by
  rw [behind?_text event.lead_mem_leads, if_pos rfl]

theorem behind?_text_of_ne {event : Event} {words : String} (known : words ∈ leads)
    (other : event.lead ≠ words) : behind? words event.text = none := by
  rw [behind?_text known, if_neg other]

theorem lines_concat_of_ne {event : Event} {words : String} (known : words ∈ leads)
    (other : event.lead ≠ words) (events : List Event) :
    ((events ++ [event]).map text).filterMap (behind? words) =
      (events.map text).filterMap (behind? words) := by
  rw [List.map_append, List.filterMap_append, List.map_singleton,
    List.filterMap_cons_none (behind?_text_of_ne known other), List.filterMap_nil,
    List.append_nil]

theorem lines_concat {event : Event} {words : String} (same : event.lead = words)
    (events : List Event) :
    ((events ++ [event]).map text).filterMap (behind? words) =
      (events.map text).filterMap (behind? words) ++ [event.detail] := by
  rw [← same, List.map_append, List.filterMap_append, List.map_singleton,
    List.filterMap_cons_some event.behind?_lead_text, List.filterMap_nil]

end Event

/-! ### Openings and closings -/

/-- The openings that wait behind a line, the latest first. A closing matches the latest of them:
it names the same context and the same depth. -/
def matchLine (waiting : List String) (line : String) : Option (List String) :=
  match behind? "Open " line with
  | some opening => some (opening :: waiting)
  | none =>
    match behind? "Close " line, waiting with
    | none, _ => some waiting
    | some _, [] => none
    | some closing, opening :: earlier => if closing = opening then some earlier else none

/-- The openings that no line matches, the latest first, if every closing matches one. -/
def unmatched (lines : List String) : Option (List String) :=
  lines.foldlM matchLine []

theorem unmatched_text_concat {events : List Event} {waiting : List String}
    (matched : unmatched (events.map Event.text) = some waiting) (event : Event) :
    unmatched ((events ++ [event]).map Event.text) = matchLine waiting event.text := by
  unfold unmatched at matched ⊢
  rw [List.map_append, List.map_singleton, List.foldlM_append, matched]
  exact bind_pure (matchLine waiting event.text)

/-- The openings of contexts that are open, the innermost first, as their lines name them. -/
def openings : List Context → List String
  | [] => []
  | context :: around =>
    (context.name ++ Event.depthText (around.length + 1)) :: openings around

theorem matchLine_opened (context : Context) (depth : Nat) (waiting : List String) :
    matchLine waiting (Event.opened context depth).text =
      some ((context.name ++ Event.depthText depth) :: waiting) := by
  have opening := (Event.opened context depth).behind?_lead_text
  rw [Event.lead] at opening
  unfold matchLine
  rw [opening]
  rfl

theorem matchLine_closed (context : Context) (depth : Nat) (waiting : List String) :
    matchLine ((context.name ++ Event.depthText depth) :: waiting)
      (Event.closed context depth).text = some waiting := by
  have closing := (Event.closed context depth).behind?_lead_text
  have notOpening : behind? "Open " (Event.closed context depth).text = none :=
    Event.behind?_text_of_ne (by decide) (by simp [Event.lead])
  rw [Event.lead] at closing
  unfold matchLine
  rw [notOpening, closing]
  exact if_pos rfl

theorem matchLine_other {event : Event} (notOpening : event.lead ≠ "Open ")
    (notClosing : event.lead ≠ "Close ") (waiting : List String) :
    matchLine waiting event.text = some waiting := by
  unfold matchLine
  rw [Event.behind?_text_of_ne (by decide) notOpening,
    Event.behind?_text_of_ne (by decide) notClosing]

/-! ### What events tell -/

/-- The name and the place of an object, which it has from its first declaration. -/
def Object.place (object : Object) : String × Option Location :=
  (object.name, object.location)

/-- The line of a declaration names an object and its place. -/
def Declares (line : String) (place : String × Option Location) : Prop :=
  ∃ (roles : Roles) (location : Location), place.2 = some location ∧
    line = quoted place.1 ++ " (ObjectKind." ++ roles.name ++ ") at " ++ location.text

/-- What events tell in their order: the diagnostics, the objects in their places, and the contexts
that are open behind them, the innermost first. -/
inductive Tells :
    List Event → List Diagnostic → List (String × Option Location) → List Context → Prop
  | nothing : Tells [] [] [] []
  | opened {events diagnostics places contexts} (context : Context)
      (told : Tells events diagnostics places contexts) :
      Tells (events ++ [.opened context (contexts.length + 1)]) diagnostics places
        (context :: contexts)
  | closed {events diagnostics places context contexts}
      (told : Tells events diagnostics places (context :: contexts)) :
      Tells (events ++ [.closed context (contexts.length + 1)]) diagnostics places contexts
  | declared {events diagnostics places contexts} (name : String) (roles : Roles)
      (location : Location) (told : Tells events diagnostics places contexts) :
      Tells (events ++ [.declared name roles location]) diagnostics
        (places ++ [(name, some location)]) contexts
  | diagnosed {events diagnostics places contexts} (diagnostic : Diagnostic)
      (told : Tells events diagnostics places contexts) :
      Tells (events ++ [.diagnosed diagnostic]) (diagnostics ++ [diagnostic]) places contexts
  | aside {events diagnostics places contexts} {event : Event}
      (silent : event.lead ∉ ["Open ", "Close ", "Declared ", "Diagnostic: "])
      (told : Tells events diagnostics places contexts) :
      Tells (events ++ [event]) diagnostics places contexts

namespace Tells

variable {events : List Event} {diagnostics : List Diagnostic}
variable {places : List (String × Option Location)} {contexts : List Context}

theorem reported (told : Tells events diagnostics places contexts) (made : List Diagnostic) :
    Tells (events ++ made.map Event.diagnosed) (diagnostics ++ made) places contexts := by
  induction made using List.reverseRecOn with
  | nil => simpa using told
  | append_singleton made diagnostic ih =>
      rw [List.map_append, ← List.append_assoc, ← List.append_assoc]
      exact ih.diagnosed diagnostic

/-! ### What the lines tell -/

theorem lines_diagnosed (told : Tells events diagnostics places contexts) :
    (events.map Event.text).filterMap (behind? "Diagnostic: ") =
      diagnostics.map Diagnostic.text := by
  induction told with
  | nothing => rfl
  | diagnosed diagnostic told ih =>
      have same : (Event.diagnosed diagnostic).lead = "Diagnostic: " := rfl
      rw [Event.lines_concat same, ih, List.map_append]
      rfl
  | aside silent told ih =>
      rw [Event.lines_concat_of_ne (by decide) (ne_of_mem_of_not_mem (by decide) silent).symm, ih]
  | _ =>
      rename_i told ih
      rw [Event.lines_concat_of_ne (by decide) (by simp [Event.lead]), ih]

theorem lines_declared (told : Tells events diagnostics places contexts) :
    List.Forall₂ Declares ((events.map Event.text).filterMap (behind? "Declared ")) places := by
  induction told with
  | nothing => exact .nil
  | declared name roles location told ih =>
      have same : (Event.declared name roles location).lead = "Declared " := rfl
      rw [Event.lines_concat same]
      exact List.rel_append ih (.cons ⟨roles, location, rfl, rfl⟩ .nil)
  | aside silent told ih =>
      rwa [Event.lines_concat_of_ne (by decide) (ne_of_mem_of_not_mem (by decide) silent).symm]
  | _ =>
      rename_i told ih
      rwa [Event.lines_concat_of_ne (by decide) (by simp [Event.lead])]

theorem unmatched_lines (told : Tells events diagnostics places contexts) :
    unmatched (events.map Event.text) = some (openings contexts) := by
  induction told with
  | nothing => rfl
  | opened context told ih => rw [unmatched_text_concat ih, matchLine_opened, openings]
  | closed told ih => rw [unmatched_text_concat ih, openings, matchLine_closed]
  | aside silent told ih =>
      rw [unmatched_text_concat ih, matchLine_other (ne_of_mem_of_not_mem (by decide) silent).symm
        (ne_of_mem_of_not_mem (by decide) silent).symm]
  | _ =>
      rename_i told ih
      rw [unmatched_text_concat ih,
        matchLine_other (by simp [Event.lead]) (by simp [Event.lead])]

end Tells

theorem Frame.context_vacated (frame : Frame) : frame.vacated.context = frame.context := by
  cases frame <;> rfl

theorem SymbolTable.map_place_modify {change : Object → Object}
    (keeps : ∀ object, (change object).place = object.place) (name : String)
    (table : SymbolTable) :
    (table.modify name change).objects.map Object.place = table.objects.map Object.place := by
  unfold modify
  rw [List.map_map]
  apply List.map_congr_left
  intro object _
  rw [Function.comp_apply]
  split
  · exact keeps object
  · rfl

namespace Builder

/-! ### The trace of a builder -/

/-- The trace of a builder tells its diagnostics, its objects and its open constructs. -/
def Traced (builder : Builder) : Prop :=
  Tells builder.trace.toList builder.table.diagnostics (builder.table.objects.map Object.place)
    (builder.frames.map Frame.context)

theorem traced_new (recordsFaults : Bool) : (new recordsFaults).Traced :=
  .nothing

namespace Traced

variable {builder : Builder}

theorem reportAll (traced : builder.Traced) (diagnostics : List Diagnostic) :
    (builder.reportAll diagnostics).Traced := by
  have told := Tells.reported traced diagnostics
  rwa [← Array.toList_appendList] at told

theorem note {event : Event}
    (silent : event.lead ∉ ["Open ", "Close ", "Declared ", "Diagnostic: "])
    (traced : builder.Traced) : (builder.note event).Traced := by
  have told := Tells.aside silent traced
  rwa [← Array.toList_push] at told

theorem enter (traced : builder.Traced) (frame : Frame) : (builder.enter frame).Traced := by
  have told := Tells.opened frame.context traced
  rwa [← Array.toList_push, List.length_map] at told

theorem leave {frame : Frame} {around : List Frame} (traced : builder.Traced)
    (innermost : builder.frames = frame :: around) : (builder.leave frame around).Traced := by
  unfold Traced at traced
  rw [innermost, List.map_cons] at traced
  have told := Tells.closed traced
  rwa [← Array.toList_push, List.length_map] at told

theorem modify (traced : builder.Traced) (name : String) (change : Object → Object)
    (keeps : ∀ object, (change object).place = object.place) :
    Traced { builder with table := builder.table.modify name change } := by
  unfold Traced
  rw [SymbolTable.map_place_modify keeps]
  exact traced

theorem declare (traced : builder.Traced) (owner : PendingName) :
    (builder.declare owner).Traced := by
  unfold Builder.declare
  split
  · have told := Tells.declared owner.name builder.roles owner.location traced
    unfold Traced SymbolTable.declare
    rwa [List.map_append, Array.toList_push]
  · exact (traced.reportAll _).modify owner.name (Object.addRoles _) fun _ => rfl

theorem addTransition (traced : builder.Traced) (receiver origin target : PendingName)
    (mode : WriteMode) : (builder.addTransition receiver origin target mode).Traced := by
  unfold Builder.addTransition
  split
  · exact traced.reportAll _
  · split
    · exact traced.modify receiver.name (Object.addTransition _) fun _ => rfl
    · exact (traced.reportAll _).modify receiver.name (Object.addTransition _) fun _ => rfl

/-- Every outcome of a step writes the events of what it does. -/
theorem outcome {item : Item} {next : Builder} (traced : builder.Traced)
    (outcome : Outcome builder item next) : next.Traced := by
  cases outcome with
  | faultRecorded records => exact traced.reportAll _
  | faultDropped drops => exact traced.note (by simp [Event.lead])
  | rejected rejects => exact traced.reportAll _
  | @opened token frame owner around type waiting =>
      have declared :
          ({ (builder.declare owner).clearModifiers with names := [] } : Builder).Traced :=
        traced.declare owner
      exact declared.enter _
  | @openedBare token frame type waiting =>
      have reported :
          (builder.reject (.expectedIdentifier token.value) token).clearModifiers.Traced :=
        traced.reportAll _
      exact reported.enter _
  | @closed token frame around type innermost =>
      rw [closeBody_eq]
      have dropped : builder.dropModifiers.Traced := traced.reportAll _
      exact (dropped.leave innermost).reportAll _
  | @valued token site around type innermost =>
      exact traced.modify site.owner.name (Object.addValue _) fun _ => rfl
  | literalDropped type innermost => exact traced.note (by simp [Event.lead])
  | began type =>
      have dropped : ({ builder.dropModifiers with mode := .after } : Builder).Traced :=
        traced.reportAll _
      exact dropped.enter _
  | received type innermost waiting =>
      have left : (builder.pastStatement _).Traced := traced.leave innermost
      exact (left.addTransition _ _ _ _).reportAll _
  | owned type innermost waiting owns =>
      have left : (builder.pastStatement _).Traced := traced.leave innermost
      exact left.addTransition _ _ _ _
  | incomplete type innermost few =>
      have left : (builder.pastStatement _).Traced := traced.leave innermost
      exact left.reportAll _
  | @nameDropped token name names type outside waiting =>
      have dropped : ({ builder.dropModifiers with names := names } : Builder).Traced :=
        traced.reportAll _
      exact dropped.note (by simp [Event.lead])
  | nothingToEnd type outside waiting =>
      have dropped : builder.dropModifiers.Traced := traced.reportAll _
      exact dropped.reportAll _
  | _ => exact traced

theorem run (traced : builder.Traced) (items : List Item) : (builder.run items).Traced := by
  induction items generalizing builder with
  | nil => exact traced
  | cons item items ih => exact ih (traced.outcome (outcome_step builder item))

theorem close (traced : builder.Traced) : builder.close.Traced := by
  have dropped : builder.dropModifiers.Traced := traced.reportAll _
  have reported := dropped.reportAll (builder.pending.map PendingName.unclosed)
  refine note (by simp [Event.lead]) ?_
  unfold Traced at reported ⊢
  rw [List.map_map, show Frame.context ∘ Frame.vacated = Frame.context from
    funext Frame.context_vacated]
  exact reported

end Traced

theorem traced_build (recordsFaults : Bool) (items : List Item) :
    (build recordsFaults items).Traced := by
  rw [build_eq_close]
  exact ((traced_new recordsFaults).run items).close

end Builder

theorem Frame.context_ne_top (frame : Frame) : frame.context ≠ .top := by
  cases frame <;> exact Context.noConfusion

/-- The lines of a trace tell the diagnostics of the table, and the name and the first place of
each of its objects. Every closing matches the latest opening that waits, and the openings that
wait at the end are those of the constructs still open. -/
theorem trace_tells_build (options : CheckOptions) (file source : String) :
    let result := check options file source
    let builder := Builder.build options.recordsFaults (scan file source)
    let lines := result.traceLines
    lines.filterMap (behind? "Diagnostic: ") = result.table.diagnostics.map Diagnostic.text ∧
      List.Forall₂ (fun line object => Declares line object.place)
        (lines.filterMap (behind? "Declared ")) result.table.objects ∧
      ∃ inner, builder.contexts = inner ++ [.top] ∧ .top ∉ inner ∧
        unmatched lines = some (openings inner) := by
  intro result builder lines
  have traced : builder.Traced := Builder.traced_build options.recordsFaults (scan file source)
  refine ⟨traced.lines_diagnosed, List.forall₂_map_right_iff.1 traced.lines_declared,
    builder.frames.map Frame.context, rfl, ?_, traced.unmatched_lines⟩
  intro outermost
  obtain ⟨frame, -, same⟩ := List.mem_map.1 outermost
  exact frame.context_ne_top same

example :
    unmatched (check {} "a.sm" "a ( b { ) } c = (").traceLines =
      some ["GROUP_BODY (depth 3)", "TRANSITION_BODY (depth 2)", "GROUP_BODY (depth 1)"] := by
  decide +kernel

end StateDescription
