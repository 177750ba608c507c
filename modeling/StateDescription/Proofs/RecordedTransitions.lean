import StateDescription.Proofs.Owners

/-!
Transitions of objects. Nothing but the end of a statement gives a transition to an object, and
it gives one, made of the two newest names and the write mode of the builder.
-/

namespace StateDescription

namespace SymbolTable

/-- The transitions of the object of that name; a name without an object has none. -/
def transitionsOf (table : SymbolTable) (name : String) : List Transition :=
  ((table.find? name).map Object.transitions).getD []

variable {table : SymbolTable} {name : String}

theorem find?_modify {change : Object → Object} (keeps : Object.KeepsName change)
    (subject name : String) (table : SymbolTable) :
    (table.modify subject change).find? name =
      (table.find? name).map fun object =>
        if object.name = subject then change object else object := by
  rw [find?, modify, List.find?_map]
  congr 2
  funext object
  change decide ((if object.name = subject then change object else object).name = name) = _
  split
  · rw [keeps]
  · rfl

theorem find?_declare (object : Object) (name : String) (table : SymbolTable) :
    (table.declare object).find? name =
      (table.find? name).or (if object.name = name then some object else none) := by
  rw [find?, declare, List.find?_append, List.find?_singleton]
  simp only [decide_eq_true_eq]
  rfl

theorem transitionsOf_modify {change : Object → Object} (keeps : Object.KeepsName change)
    (same : ∀ object, (change object).transitions = object.transitions)
    (subject name : String) (table : SymbolTable) :
    (table.modify subject change).transitionsOf name = table.transitionsOf name := by
  rw [transitionsOf, find?_modify keeps, Option.map_map, transitionsOf]
  congr 2
  funext object
  change (if object.name = subject then change object else object).transitions = _
  split
  · exact same object
  · rfl

theorem transitionsOf_addValueOf (subject text : String) (location : Option Location)
    (name : String) (table : SymbolTable) :
    (table.addValueOf subject text location).transitionsOf name = table.transitionsOf name :=
  transitionsOf_modify (Object.keepsName_addValue _) (fun _ => rfl) subject name
    (table.addValue text location)

theorem transitionsOf_declare {object : Object} (bare : object.transitions = [])
    (name : String) (table : SymbolTable) :
    (table.declare object).transitionsOf name = table.transitionsOf name := by
  rw [transitionsOf, find?_declare, transitionsOf]
  cases table.find? name with
  | some known => rfl
  | none =>
      rw [Option.none_or]
      split
      · exact bare
      · rfl

theorem transitionsOf_addTransition_cases (transition : Transition) (subject name : String)
    (table : SymbolTable) :
    (table.modify subject (Object.addTransition transition)).transitionsOf name =
        table.transitionsOf name ∨
      (table.modify subject (Object.addTransition transition)).transitionsOf name =
        table.transitionsOf name ++ [transition] := by
  simp only [transitionsOf, find?_modify (Object.keepsName_addTransition transition)]
  cases table.find? name with
  | none => exact .inl rfl
  | some object =>
      by_cases receives : object.name = subject
      · right
        simp [receives, Object.addTransition]
      · left
        simp [receives]

end SymbolTable

namespace Builder

variable {builder next : Builder} {item : Item}

theorem transitionsOf_declare (owner : PendingName) (name : String) (builder : Builder) :
    (builder.declare owner).table.transitionsOf name = builder.table.transitionsOf name := by
  rw [declare]
  split
  · exact SymbolTable.transitionsOf_declare rfl name builder.table
  · exact SymbolTable.transitionsOf_modify (Object.keepsName_addRoles _) (fun _ => rfl) _ _ _

theorem transitionsOf_closeBody (frame : Frame) (around : List Frame) (name : String)
    (builder : Builder) :
    (builder.closeBody frame around).table.transitionsOf name =
      builder.table.transitionsOf name := by
  unfold closeBody
  dsimp only
  split <;> rfl

theorem transitionsOf_addTransition_cases (receiver origin target : PendingName)
    (mode : WriteMode) (name : String) (builder : Builder) :
    (builder.addTransition receiver origin target mode).table.transitionsOf name =
        builder.table.transitionsOf name ∨
      (builder.addTransition receiver origin target mode).table.transitionsOf name =
        builder.table.transitionsOf name ++
          [⟨some origin.location, origin.name, target.name, mode⟩] := by
  rw [addTransition]
  cases builder.table.find? receiver.name with
  | none => exact .inl rfl
  | some object =>
      dsimp only
      cases object.transition? origin.name with
      | none => exact SymbolTable.transitionsOf_addTransition_cases _ receiver.name name _
      | some previous =>
          exact SymbolTable.transitionsOf_addTransition_cases _ receiver.name name
            (builder.table.addDiagnostics [_])

/-- The end of a statement whose target and origin are the two newest names of its construct. -/
structure Completes (builder : Builder) (item : Item) (next : Builder)
    (target origin : PendingName) : Prop where
  token : ∃ token : Token, item = .token token ∧ token.type = .semicolon
  frames : builder.frames = .transition :: next.frames
  names : ∃ others, builder.names = target :: origin :: others

theorem Completes.below {target origin : PendingName}
    (completes : Completes builder item next target origin) :
    .transition :: next.frames <:+ builder.frames :=
  ⟨[], completes.frames.symm⟩

theorem completes_of_innermost {token : Token} {around : List Frame} {target origin : PendingName}
    {others : List PendingName} (type : token.type = .semicolon)
    (innermost : builder.frames = .transition :: around)
    (waiting : builder.names = target :: origin :: others) (frames : next.frames = around) :
    Completes builder (.token token) next target origin where
  token := ⟨token, rfl, type⟩
  frames := by rw [innermost, frames]
  names := ⟨others, waiting⟩

/-- An item gives no transition to an object of that name, or it completes a statement and gives
the transition of that statement. -/
theorem Outcome.transitionsOf_cases (outcome : Outcome builder item next) (name : String) :
    next.table.transitionsOf name = builder.table.transitionsOf name ∨
      ∃ target origin, Completes builder item next target origin ∧
        next.table.transitionsOf name =
          builder.table.transitionsOf name ++
            [⟨some origin.location, origin.name, target.name, builder.mode⟩] := by
  cases outcome with
  | opened => exact .inl (transitionsOf_declare _ name builder)
  | closed => exact .inl (transitionsOf_closeBody _ _ name builder)
  | valued => exact .inl (SymbolTable.transitionsOf_addValueOf _ _ _ name builder.table)
  | @received token around target origin receiver others type innermost waiting =>
      have given := transitionsOf_addTransition_cases receiver origin target builder.mode name
        (builder.pastStatement around)
      refine given.imp_right fun more =>
        ⟨target, origin, completes_of_innermost type innermost waiting ?_, more⟩
      exact frames_addTransition _ _ _ _ (builder.pastStatement around)
  | @owned token around target origin owner type innermost waiting owns =>
      have given := transitionsOf_addTransition_cases owner origin target builder.mode name
        (builder.pastStatement around)
      refine given.imp_right fun more =>
        ⟨target, origin, completes_of_innermost type innermost waiting ?_, more⟩
      exact frames_addTransition _ _ _ _ (builder.pastStatement around)
  | _ => exact .inl rfl

/-- An item appends a transition to those of the object of that name. -/
def Records (builder : Builder) (item : Item) (name : String) (transition : Transition) : Prop :=
  (builder.step item).table.transitionsOf name =
    builder.table.transitionsOf name ++ [transition]

instance (builder : Builder) (item : Item) (name : String) (transition : Transition) :
    Decidable (builder.Records item name transition) :=
  inferInstanceAs (Decidable (_ = _))

theorem Records.exists_completes {name : String} {transition : Transition}
    (records : builder.Records item name transition) :
    ∃ target origin, Completes builder item (builder.step item) target origin ∧
      transition = ⟨some origin.location, origin.name, target.name, builder.mode⟩ := by
  rcases (outcome_step builder item).transitionsOf_cases name with same | given
  · rw [Records, same, List.self_eq_append_right] at records
    cases records
  · obtain ⟨target, origin, completes, more⟩ := given
    rw [Records, more, List.append_cancel_left_eq, List.cons.injEq] at records
    exact ⟨target, origin, completes, records.1.symm⟩

/-- Every transition that an object has behind a run was recorded by an item of the run. -/
theorem exists_records (recordsFaults : Bool) (items : List Item) {name : String}
    {transition : Transition}
    (has : transition ∈ ((new recordsFaults).run items).table.transitionsOf name) :
    ∃ before last after, items = before ++ last :: after ∧
      ((new recordsFaults).run before).Records last name transition := by
  have bare : transition ∉ (new recordsFaults).table.transitionsOf name := List.not_mem_nil
  obtain ⟨before, last, after, split, lacks, given⟩ :=
    exists_step_of_run (transition ∈ ·.table.transitionsOf name) bare has
  refine ⟨before, last, after, split, ?_⟩
  rcases (outcome_step _ last).transitionsOf_cases name with same | ⟨target, origin, _, more⟩
  · exact absurd (same ▸ given) lacks
  · rw [more] at given
    have new := (List.mem_append.1 given).resolve_left lacks
    rw [Records, more, List.mem_singleton.1 new]

end Builder

end StateDescription
