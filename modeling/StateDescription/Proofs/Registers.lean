import StateDescription.Proofs.Histories
import StateDescription.Proofs.Modifiers
import StateDescription.Proofs.WriteModes

/-!
The registers of a build, kept beside its stacks: the modifiers that wait, the roles that they give
and the write mode. They are in step with the open constructs: no modifier waits in a group or a
statement, and no write mode is selected outside of all statements.
-/

namespace StateDescription

namespace Builder

variable {builder : Builder} {item : Item} {token : Token}

/-- The registers fit each other and the open constructs. -/
structure InStep (builder : Builder) : Prop where
  roles : ∀ role, role ∈ builder.roles ↔ role ∈ builder.modifiers.map Modifier.role
  distinct : (builder.modifiers.map Modifier.role).Nodup
  inside : builder.context = .group ∨ builder.context = .transition → builder.modifiers = []
  mode : .transition ∉ builder.contexts → builder.mode = .after

theorem transition_mem_contexts_iff (builder : Builder) :
    .transition ∈ builder.contexts ↔ .transition ∈ builder.frames := by
  rw [contexts, List.mem_append, List.mem_map, or_iff_left (by decide)]
  constructor
  · rintro ⟨frame, member, same⟩
    cases frame with
    | group site => cases same
    | block site => cases same
    | transition => exact member
  · intro member
    exact ⟨.transition, member, rfl⟩

theorem head?_contexts (builder : Builder) : builder.contexts.head? = some builder.context := by
  rw [contexts, context]
  cases builder.frames <;> rfl

/-! ### Modifiers of one item -/

/-- A modifier is admitted where declarations stand, and only with a role that does not wait. -/
theorem of_handling_eq_admits {modifier : Modifier}
    (admits : builder.handling item = .admits modifier) :
    modifier.role ∉ builder.roles ∧ (builder.context = .top ∨ builder.context = .block) := by
  have handles := builder.handles_handling item
  rw [admits] at handles
  cases handles
  rw [handling_of_role? modifier.role.role?_tokenType, handlingOf] at admits
  split at admits
  · cases admits
  · cases admits
  all_goals
    rename_i outside
    split at admits
  · cases admits
  · rename_i fresh
    exact ⟨fresh, .inl outside⟩
  · cases admits
  · rename_i fresh
    exact ⟨fresh, .inr outside⟩

theorem modifiers_step_of_inside
    (inside : builder.context = .group ∨ builder.context = .transition)
    (none : builder.modifiers = []) (item : Item) : (builder.step item).modifiers = [] := by
  rw [(handled_step builder item).modifiers, none]
  cases handling : builder.handling item with
  | admits modifier =>
      obtain ⟨_, outside⟩ := of_handling_eq_admits handling
      rcases inside with inside | inside <;> rcases outside with outside | outside <;>
        exact absurd (inside.symm.trans outside) (by decide)
  | _ => rfl

theorem modifiers_step_of_begins {context : Context} (begins : token.type.begins? = some context)
    (builder : Builder) : (builder.step (.token token)).modifiers = [] := by
  rw [(handled_step builder _).modifiers]
  rcases TokenType.begins?_cases begins with ⟨frame, opens, _⟩ | ⟨type, _⟩
  · rw [handling_of_opens? opens]
    cases builder.names <;> rfl
  · rw [handling, type]
    rfl

/-! ### The invariant -/

theorem inStep_new (recordsFaults : Bool) : InStep (new recordsFaults) where
  roles := roles_cleared
  distinct := List.nodup_nil
  inside := fun _ => rfl
  mode := fun _ => rfl

namespace InStep

theorem distinct_step (inStep : InStep builder) (item : Item) :
    ((builder.step item).modifiers.map Modifier.role).Nodup := by
  rw [(handled_step builder item).modifiers]
  cases handling : builder.handling item with
  | keeps => exact inStep.distinct
  | refuses diagnostic => exact inStep.distinct
  | admits modifier =>
      have fresh := (of_handling_eq_admits handling).1
      rw [inStep.roles] at fresh
      rw [Handling.waiting, List.map_append, List.map_singleton, ← List.concat_eq_append]
      exact inStep.distinct.concat fresh
  | drops => exact List.nodup_nil
  | attaches owner => exact List.nodup_nil
  | forfeits => exact List.nodup_nil

/-- A group or statement begins without modifiers, and whatever ends inside it leaves none. -/
theorem inside_step (inStep : InStep builder) (item : Item)
    (inside : (builder.step item).context = .group ∨ (builder.step item).context = .transition) :
    (builder.step item).modifiers = [] := by
  have same (frames : (builder.step item).frames = builder.frames) :
      (builder.step item).modifiers = [] := by
    have context : (builder.step item).context = builder.context := by
      rw [Builder.context, frames, Builder.context]
    rw [context] at inside
    exact modifiers_step_of_inside inside (inStep.inside inside) item
  cases passage_step builder item with
  | names fed frames names => exact same frames
  | drops frames names => exact same frames
  | opens fed type frames names =>
      subst fed
      exact modifiers_step_of_begins type builder
  | @leaves frame frames names settled =>
      -- A group or block takes its modifiers along; a statement inside had none to leave.
      by_cases statement : frame.context = .transition
      · have within : builder.context = .transition := (context_of_frames frames).trans statement
        exact modifiers_step_of_inside (.inr within) (inStep.inside (.inr within)) item
      · rw [Settled, if_neg statement] at settled
        exact settled.2

/-- The outermost statement resets the mode when it ends, and outside of statements none is
selected. -/
theorem mode_step (inStep : InStep builder) (item : Item)
    (outside : .transition ∉ (builder.step item).contexts) :
    (builder.step item).mode = .after := by
  rw [transition_mem_contexts_iff] at outside
  by_cases within : .transition ∈ builder.frames
  · -- Only the end of the one open statement takes the last of them away.
    cases passage_step builder item with
    | names fed frames names => exact absurd (frames ▸ within) outside
    | drops frames names => exact absurd (frames ▸ within) outside
    | opens fed type frames names =>
        rw [frames] at outside
        exact absurd (List.mem_cons_of_mem _ within) outside
    | leaves frames names settled =>
        rw [frames, List.mem_cons] at within
        rcases within with rfl | older
        · exact settled
        · exact absurd older outside
  · have quiet : item.isEquals = false := by
      cases item with
      | fault fault => rfl
      | token token =>
          rw [Item.isEquals, decide_eq_false_iff_not]
          intro type
          rw [(step_equals type builder).1] at outside
          exact outside List.mem_cons_self
    have elsewhere : builder.context ≠ .transition := by
      intro inside
      obtain ⟨around, innermost⟩ := exists_transition_of_context inside
      rw [innermost] at within
      exact within List.mem_cons_self
    rw [(outcome_step builder item).mode_eq quiet fun inside => absurd inside elsewhere]
    rw [← transition_mem_contexts_iff] at within
    exact inStep.mode within

theorem step (inStep : InStep builder) (item : Item) : InStep (builder.step item) where
  roles := (handled_step builder item).roles inStep.roles
  distinct := inStep.distinct_step item
  inside := inStep.inside_step item
  mode := inStep.mode_step item

theorem run (inStep : InStep builder) (items : List Item) : InStep (builder.run items) := by
  induction items generalizing builder with
  | nil => exact inStep
  | cons item items ih => exact ih (inStep.step item)

theorem close (inStep : InStep builder) : InStep builder.close where
  roles := roles_cleared
  distinct := List.nodup_nil
  inside := fun _ => rfl
  mode := by
    rw [Stacks.contexts_close]
    exact inStep.mode

theorem after (inStep : InStep builder) (unfinished : builder.finished = false)
    (calls : List Call) : InStep (builder.after calls) := by
  rw [after_eq unfinished]
  split
  · exact (inStep.run _).close
  · exact inStep.run _

end InStep

end Builder

namespace Stacks

variable {machine : Stacks} {builder : Builder}

theorem Agrees.roles (agrees : Agrees machine builder) : machine.roles = builder.roles := by
  rw [agrees.rest]
  rfl

theorem Agrees.mode (agrees : Agrees machine builder) : machine.mode = builder.mode := by
  rw [agrees.rest]
  rfl

theorem Agrees.modifiers (agrees : Agrees machine builder) :
    machine.modifiers = builder.modifiers.map Modifier.toToken := by
  rw [agrees.rest]
  rfl

/-- Every modifier that waits gives a role, as the builder has it. -/
theorem Agrees.map_role?_modifiers (agrees : Agrees machine builder) :
    (machine.modifiers.map fun token => token.type.role?) =
      (builder.modifiers.map Modifier.role).map some := by
  rw [agrees.modifiers, List.map_map, List.map_map]
  exact List.map_congr_left fun modifier _ => modifier.role.role?_tokenType

theorem Agrees.exists_innermost (agrees : Agrees machine builder) :
    ∃ innermost around, machine.frames = innermost :: around ∧
      innermost.context = builder.context := by
  have head := builder.head?_contexts
  rw [← agrees.contexts, List.head?_map, Option.map_eq_some_iff] at head
  obtain ⟨innermost, first, context⟩ := head
  obtain ⟨around, frames⟩ := List.head?_eq_some_iff.1 first
  exact ⟨innermost, around, frames, context⟩

end Stacks

/-- After any calls the roles are just those that the waiting modifiers give, which are `*` and `:`
tokens of different roles. None waits where a group or a statement is innermost, and where no
statement is open the write mode is the one without a selection. -/
theorem registers_in_step (recordsFaults : Bool) (calls : List Call) :
    let machine := (Stacks.new recordsFaults).after calls
    (∀ role, role ∈ machine.roles ↔ ∃ token ∈ machine.modifiers, token.type.role? = some role) ∧
      (∀ token ∈ machine.modifiers, token.type = .star ∨ token.type = .colon) ∧
      (machine.modifiers.map fun token => token.type.role?).Nodup ∧
      (∃ innermost around, machine.frames = innermost :: around ∧
        (innermost.context = .group ∨ innermost.context = .transition →
          machine.modifiers = [])) ∧
      ((∀ frame ∈ machine.frames, frame.context ≠ .transition) → machine.mode = .after) := by
  intro machine
  have agrees : machine.Agrees ((Builder.new recordsFaults).after calls) :=
    ((Stacks.agrees_ofBuilder _).after (Builder.ownersDeclared_new recordsFaults) calls).1
  have inStep := (Builder.inStep_new recordsFaults).after rfl calls
  have given := agrees.map_role?_modifiers
  refine ⟨?_, ?_, ?_, ?_, ?_⟩
  · intro role
    rw [agrees.roles, inStep.roles, ← List.mem_map, given]
    exact (List.mem_map_of_injective fun _ _ => Option.some.inj).symm
  · intro token member
    rw [agrees.modifiers] at member
    obtain ⟨⟨role, text, location⟩, _, rfl⟩ := List.mem_map.1 member
    cases role with
    | entryPoint => exact .inl rfl
    | endPoint => exact .inr rfl
  · rw [given]
    exact inStep.distinct.map fun _ _ => Option.some.inj
  · obtain ⟨innermost, around, frames, context⟩ := agrees.exists_innermost
    refine ⟨innermost, around, frames, ?_⟩
    intro inside
    rw [context] at inside
    rw [agrees.modifiers, inStep.inside inside, List.map_nil]
  · intro outside
    rw [agrees.mode]
    apply inStep.mode
    rw [← agrees.contexts, List.mem_map]
    rintro ⟨frame, member, statement⟩
    exact outside frame member statement

/-- The text `a{x=^b{*:`: a block inside a statement. Both modifiers wait in the block, and the mode
that the statement around it has selected is kept. -/
theorem registers_of_nested_block :
    let words := [sampleToken .identifier "a" 1, sampleToken .openBlock "\x7b" 2,
      sampleToken .identifier "x" 3, sampleToken .equals "=" 4, sampleToken .caret "^" 5,
      sampleToken .identifier "b" 6, sampleToken .openBlock "\x7b" 7]
    let modifiers := [sampleToken .star "*" 8, sampleToken .colon ":" 9]
    let machine := (Stacks.new true).after ((words ++ modifiers).map fun word => .feed (.token word))
    machine.modifiers = modifiers ∧ machine.roles = .hub ∧ machine.mode = .never ∧
      (modifiers.map fun token => token.type.role?).Nodup := by
  intro words modifiers machine
  obtain ⟨_, _, distinct, _⟩ :=
    registers_in_step true ((words ++ modifiers).map fun word => .feed (.token word))
  exact ⟨rfl, rfl, rfl, distinct⟩

end StateDescription
