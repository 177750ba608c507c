import StateDescription.Proofs.ObjectNames
import StateDescription.Proofs.Outcomes

/-!
Owners of open constructs. A group or block that belongs to a name was opened by declaring an
object of that name, and no step takes an object away, so every owner has its object.
-/

namespace StateDescription

namespace Builder

variable {builder : Builder}

/-! ### What the operations leave alone -/

theorem declare_eq (owner : PendingName) (builder : Builder) :
    builder.declare owner =
      { builder with
        table := (builder.declare owner).table
        trace := (builder.declare owner).trace } := by
  rw [declare]
  split <;> rfl

@[simp] theorem frames_declare (owner : PendingName) (builder : Builder) :
    (builder.declare owner).frames = builder.frames := by
  rw [declare_eq]

@[simp] theorem names_declare (owner : PendingName) (builder : Builder) :
    (builder.declare owner).names = builder.names := by
  rw [declare_eq]

@[simp] theorem finished_declare (owner : PendingName) (builder : Builder) :
    (builder.declare owner).finished = builder.finished := by
  rw [declare_eq]

section AddTransition

variable (receiver origin target : PendingName) (mode : WriteMode) (builder : Builder)

theorem addTransition_eq :
    builder.addTransition receiver origin target mode =
      { builder with
        table := (builder.addTransition receiver origin target mode).table
        trace := (builder.addTransition receiver origin target mode).trace } := by
  rw [addTransition]
  split
  · rfl
  · split <;> rfl

@[simp] theorem frames_addTransition :
    (builder.addTransition receiver origin target mode).frames = builder.frames := by
  rw [addTransition_eq]

@[simp] theorem names_addTransition :
    (builder.addTransition receiver origin target mode).names = builder.names := by
  rw [addTransition_eq]

@[simp] theorem roles_addTransition :
    (builder.addTransition receiver origin target mode).roles = builder.roles := by
  rw [addTransition_eq]

@[simp] theorem modifiers_addTransition :
    (builder.addTransition receiver origin target mode).modifiers = builder.modifiers := by
  rw [addTransition_eq]

@[simp] theorem mode_addTransition :
    (builder.addTransition receiver origin target mode).mode = builder.mode := by
  rw [addTransition_eq]

@[simp] theorem finished_addTransition :
    (builder.addTransition receiver origin target mode).finished = builder.finished := by
  rw [addTransition_eq]

end AddTransition

@[simp] theorem finished_closeBody (frame : Frame) (around : List Frame) (builder : Builder) :
    (builder.closeBody frame around).finished = builder.finished := by
  unfold closeBody
  dsimp only
  split <;> rfl

theorem Outcome.finished_eq {item : Item} {next : Builder}
    (outcome : Outcome builder item next) : next.finished = builder.finished := by
  cases outcome with
  | opened => exact finished_declare _ builder
  | closed => exact finished_closeBody _ _ builder
  | received => exact finished_addTransition _ _ _ _ (builder.pastStatement _)
  | owned => exact finished_addTransition _ _ _ _ (builder.pastStatement _)
  | _ => rfl

@[simp] theorem finished_run (builder : Builder) (items : List Item) :
    (builder.run items).finished = builder.finished := by
  induction items generalizing builder with
  | nil => rfl
  | cons item items ih =>
      rw [run_cons, ih]
      exact (outcome_step builder item).finished_eq

/-- The end of the source is the one thing that finishes a new builder. -/
theorem build_eq_close (recordsFaults : Bool) (items : List Item) :
    build recordsFaults items = ((new recordsFaults).run items).close := by
  rw [build, finish, finished_run]
  rfl

/-! ### Names of objects -/

theorem prefix_names_declare (owner : PendingName) (builder : Builder) :
    builder.table.names <+: (builder.declare owner).table.names := by
  rw [declare]
  split
  · simp
  · dsimp only
    rw [SymbolTable.names_modify (Object.keepsName_addRoles _)]
    exact List.prefix_refl _

theorem mem_names_declare (owner : PendingName) (builder : Builder) :
    owner.name ∈ (builder.declare owner).table.names := by
  rw [declare]
  split
  · simp
  · rename_i object found
    dsimp only
    rw [SymbolTable.names_modify (Object.keepsName_addRoles _)]
    exact SymbolTable.mem_names_of_find?_eq_some found

theorem names_table_addTransition (receiver origin target : PendingName) (mode : WriteMode)
    (builder : Builder) :
    (builder.addTransition receiver origin target mode).table.names = builder.table.names := by
  rw [addTransition]
  split
  · rfl
  · dsimp only
    rw [SymbolTable.names_modify (Object.keepsName_addTransition _)]
    split <;> rfl

theorem Outcome.prefix_names {item : Item} {next : Builder}
    (outcome : Outcome builder item next) :
    builder.table.names <+: next.table.names := by
  cases outcome with
  | opened => exact prefix_names_declare _ builder
  | closed =>
      unfold closeBody
      dsimp only
      split <;> exact List.prefix_refl _
  | valued => simp
  | received =>
      change builder.table.names <+:
        (addTransition _ _ _ builder.mode (builder.pastStatement _)).table.names
      rw [names_table_addTransition]
      exact List.prefix_refl _
  | owned =>
      rw [names_table_addTransition]
      exact List.prefix_refl _
  | _ => exact List.prefix_refl _

/-! ### Owners -/

/-- Every construct that belongs to a name belongs to an object. -/
def OwnersDeclared (builder : Builder) : Prop :=
  ∀ frame ∈ builder.frames, ∀ owner ∈ frame.owner?, owner.name ∈ builder.table.names

theorem OwnersDeclared.mono {next : Builder} (declared : OwnersDeclared builder)
    (frames : next.frames ⊆ builder.frames)
    (names : builder.table.names <+: next.table.names) : OwnersDeclared next :=
  fun frame member owner owns => names.subset (declared frame (frames member) owner owns)

theorem ownersDeclared_new (recordsFaults : Bool) : OwnersDeclared (new recordsFaults) := by
  intro frame member
  cases member

/-- An opened construct is the only new one. -/
theorem OwnersDeclared.outcome {item : Item} {next : Builder}
    (declared : OwnersDeclared builder) (outcome : Outcome builder item next) :
    OwnersDeclared next := by
  have names := outcome.prefix_names
  cases outcome with
  | @opened token frame owner around type waiting =>
      intro inner member holder owns
      cases member with
      | head =>
          have same : holder = owner := by
            rw [TokenType.owner?_of_opens? type] at owns
            cases owns
            rfl
          subst same
          exact mem_names_declare holder builder
      | tail _ older =>
          change inner ∈ (builder.declare owner).frames at older
          rw [frames_declare] at older
          exact names.subset (declared inner older holder owns)
  | @openedBare token frame type waiting =>
      intro inner member holder owns
      cases member with
      | head =>
          rw [TokenType.owner?_of_opens? type] at owns
          cases owns
      | tail _ older => exact names.subset (declared inner older holder owns)
  | @closed token frame around type innermost =>
      refine declared.mono ?_ names
      rw [innermost]
      unfold closeBody
      dsimp only
      split <;> exact List.subset_cons_self frame around
  | @began token type =>
      intro inner member holder owns
      cases member with
      | head => cases owns
      | tail _ older => exact names.subset (declared inner older holder owns)
  | received type innermost waiting =>
      refine declared.mono ?_ names
      rw [innermost]
      change (addTransition _ _ _ builder.mode (builder.pastStatement _)).frames ⊆ _
      rw [frames_addTransition]
      exact List.subset_cons_self _ _
  | owned type innermost waiting owns =>
      refine declared.mono ?_ names
      rw [innermost, frames_addTransition]
      exact List.subset_cons_self _ _
  | incomplete type innermost few =>
      refine declared.mono ?_ names
      rw [innermost]
      exact List.subset_cons_self _ _
  | _ => exact declared.mono (List.Subset.refl _) names

theorem OwnersDeclared.step (declared : OwnersDeclared builder) (item : Item) :
    OwnersDeclared (builder.step item) :=
  declared.outcome (outcome_step builder item)

theorem OwnersDeclared.run (declared : OwnersDeclared builder) (items : List Item) :
    OwnersDeclared (builder.run items) := by
  induction items generalizing builder with
  | nil => exact declared
  | cons item items ih => exact ih (declared.step item)

/-- The owner that a statement falls back on has an object. -/
theorem OwnersDeclared.exists_object {around : List Frame} {owner : PendingName}
    (declared : OwnersDeclared builder) (inside : around ⊆ builder.frames)
    (owns : innermostOwner? around = some owner) :
    ∃ object, builder.table.find? owner.name = some object := by
  obtain ⟨frame, member, owned⟩ := List.exists_of_findSome?_eq_some owns
  exact SymbolTable.exists_find?_of_mem_names (declared frame (inside member) owner owned)

end Builder

end StateDescription
