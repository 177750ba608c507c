import StateDescription.Proofs.Continuation
import StateDescription.Proofs.Histories

/-!
Pieces of a source that share no object. Where nothing is open and nothing waits, whatever errors
were made before, a builder holds nothing of the past but its table, so a piece whose names are
none of the objects before it gives the table that it would give alone.
-/

namespace StateDescription

namespace Builder

variable {builder next : Builder} {item : Item}

/-- What the builder has accumulated belongs to something: a write mode to an open statement, and
roles to modifiers that wait. -/
structure Accounted (builder : Builder) : Prop where
  mode : builder.mode = .after ∨ .transition ∈ builder.frames
  roles : builder.modifiers = [] → builder.roles = .through

theorem accounted_new (recordsFaults : Bool) : Accounted (new recordsFaults) where
  mode := .inl rfl
  roles := fun _ => rfl

theorem Accounted.outcome (accounted : Accounted builder)
    (outcome : Outcome builder item next) : Accounted next := by
  have ends {receiver origin target : PendingName} {around : List Frame} :
      Accounted ((builder.pastStatement around).addTransition receiver origin target
        builder.mode) := by
    refine ⟨.inl ?_, ?_⟩
    · exact mode_addTransition _ _ _ _ (builder.pastStatement around)
    · rw [modifiers_addTransition, roles_addTransition]
      exact accounted.roles
  -- A write mode is selected in an open statement only, and the end of a statement resets it.
  cases outcome with
  | @opened token frame owner around type waiting =>
      refine ⟨?_, fun _ => rfl⟩
      change (builder.declare owner).mode = _ ∨ _ ∈ _ :: (builder.declare owner).frames
      rw [declare_eq]
      exact accounted.mode.imp_right (List.mem_cons_of_mem _)
  | openedBare => exact ⟨accounted.mode.imp_right (List.mem_cons_of_mem _), fun _ => rfl⟩
  | @closed token frame around type innermost =>
      rw [closeBody_eq]
      refine ⟨accounted.mode.imp_right ?_, fun _ => rfl⟩
      rw [innermost, List.mem_cons]
      rintro (rfl | below)
      · exact absurd rfl (TokenType.ne_transition_of_closes? type)
      · exact below
  | modified => exact ⟨accounted.mode, fun none => by simp at none⟩
  | modeSelected type inside unselected =>
      obtain ⟨around, innermost⟩ := exists_transition_of_context inside
      refine ⟨.inr ?_, accounted.roles⟩
      rw [innermost]
      exact List.mem_cons_self
  | began => exact ⟨.inl rfl, fun _ => rfl⟩
  | received => exact ⟨ends.mode, ends.roles⟩
  | owned => exact ends
  | incomplete => exact ⟨.inl rfl, accounted.roles⟩
  | nameDropped => exact ⟨accounted.mode, fun _ => rfl⟩
  | nothingToEnd => exact ⟨accounted.mode, fun _ => rfl⟩
  | _ => exact ⟨accounted.mode, accounted.roles⟩

theorem Accounted.run (accounted : Accounted builder) (items : List Item) :
    Accounted (builder.run items) := by
  induction items generalizing builder with
  | nil => exact accounted
  | cons item items ih => exact ih (accounted.outcome (outcome_step builder item))

/-- Where nothing is open and nothing waits, a builder is a new one behind its own past. -/
theorem Accounted.continuedBy_new {past : Builder} (accounted : Accounted past)
    (unfinished : past.finished = false) (closed : past.contexts = [.top])
    (names : past.pending = []) (modifiers : past.modifiers = []) (recordsFaults : Bool) :
    past.continuedBy (new recordsFaults) = past := by
  have frames : past.frames = [] := by
    rw [contexts, List.append_eq_singleton_iff] at closed
    simpa using closed
  have waiting : past.names = [] := by
    rw [pending, List.append_eq_nil_iff] at names
    exact names.1
  have roles := accounted.roles modifiers
  have mode : past.mode = .after := by
    refine accounted.mode.resolve_right ?_
    rw [frames]
    exact List.not_mem_nil
  clear accounted closed names
  obtain ⟨records, table, _, _, _, _, _, _, trace⟩ := past
  subst frames waiting roles modifiers mode unfinished
  simp only [continuedBy, new, SymbolTable.append_empty, Array.append_empty]

end Builder

/-- Behind a piece that leaves nothing open and nothing waiting, a piece whose names are none of
its objects builds what it would build alone: its objects with their values numbered behind those
of the first piece, its values and its diagnostics. -/
theorem independent_pieces (recordsFaults : Bool) (first second : List Item)
    (closed : ((Builder.new recordsFaults).run first).contexts = [.top])
    (names : ((Builder.new recordsFaults).run first).pending = [])
    (modifiers : ((Builder.new recordsFaults).run first).modifiers = [])
    (apart : ∀ item ∈ second, ∀ name ∈ item.name?,
      name.name ∉ ((Builder.new recordsFaults).run first).table.names) :
    let past := SymbolTable.ofItems recordsFaults first
    let alone := SymbolTable.ofItems recordsFaults second
    let joined := SymbolTable.ofItems recordsFaults (first ++ second)
    joined.values = past.values ++ alone.values ∧
      joined.objects = past.objects ++ alone.objects.map (Object.raise past.values.length) ∧
      joined.diagnostics = past.diagnostics ++ alone.diagnostics ∧
      (Builder.new recordsFaults).run (first ++ second) =
        ((Builder.new recordsFaults).run first).continuedBy
          ((Builder.new recordsFaults).run second) := by
  intro past alone joined
  have unfinished : ((Builder.new recordsFaults).run first).finished = false :=
    Builder.finished_run _ first
  have accounted := (Builder.accounted_new recordsFaults).run first
  have begun := accounted.continuedBy_new unfinished closed names modifiers recordsFaults
  have nothing : ((Builder.new recordsFaults).run first).Apart (.new recordsFaults) :=
    fun name waits => absurd waits List.not_mem_nil
  have ran : (Builder.new recordsFaults).run (first ++ second) =
      ((Builder.new recordsFaults).run first).continuedBy
        ((Builder.new recordsFaults).run second) := by
    have same := Builder.recordsFaults_run (.new recordsFaults) first
    rw [← Builder.run_continuedBy same nothing apart, begun, Builder.run_append]
  have pastTable : past = ((Builder.new recordsFaults).run first).table := by
    have settled : ((Builder.new recordsFaults).run first).leftovers = [] := by
      rw [Builder.leftovers, names, modifiers]
      rfl
    simp only [past, Builder.ofItems_eq, settled]
    exact congrArg (SymbolTable.mk _ _) (List.append_nil _)
  have table : joined = past ++ alone := by
    simp only [joined, alone, Builder.ofItems_eq]
    rw [ran, pastTable, Builder.table_continuedBy]
    exact SymbolTable.addDiagnostics_append _ _
  rw [table]
  exact ⟨rfl, rfl, rfl, ran⟩

/-- The text `a("x"|)` leaves nothing waiting but an error, and `b("y")` behind it builds as alone,
with its value numbered behind that of `a`. -/
theorem independent_piece_behind_error :
    let first : List Item :=
      [.token (sampleToken .identifier "a" 1), .token (sampleToken .openGroup "(" 2),
        .token (sampleToken .literal "x" 3), .token (sampleToken .pipe "|" 6),
        .token (sampleToken .closeGroup ")" 7)]
    let second : List Item :=
      [.token (sampleToken .identifier "b" 8), .token (sampleToken .openGroup "(" 9),
        .token (sampleToken .literal "y" 10), .token (sampleToken .closeGroup ")" 13)]
    (SymbolTable.ofItems true first).diagnostics ≠ [] ∧
      (SymbolTable.ofItems true second).objects.map Object.values = [[0]] ∧
      (SymbolTable.ofItems true (first ++ second)).objects =
        (SymbolTable.ofItems true first).objects ++
          (SymbolTable.ofItems true second).objects.map (Object.raise 1) := by
  intro first second
  obtain ⟨_, objects, _⟩ := independent_pieces true first second (by decide) (by decide)
    (by decide) (by decide)
  exact ⟨by decide, by decide, objects⟩

end StateDescription
