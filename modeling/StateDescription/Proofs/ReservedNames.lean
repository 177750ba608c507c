import StateDescription.Proofs.Feeders
import StateDescription.Proofs.RepeatedOrigins
import StateDescription.Proofs.ScannedNames
import StateDescription.Proofs.Unclosed

/-!
Reserved names among the others. They wait on the same stack as identifiers, and what takes a name
takes whatever is newest. So a reserved name that is newest where a group or block opens becomes an
object, and this is the only way to one. A transition leaves the stay name only where the name of
its target was read behind the stay name and both were read behind one `=`.
-/

namespace StateDescription

/-- The name that a `.` adds. -/
def PendingName.IsStay (name : PendingName) : Prop :=
  name.reserved = true ∧ name.name = "."

namespace Builder

variable {builder : Builder} {item : Item} {items : List Item}

/-! ### Declarations -/

/-- The item opens a group or block, and this is the name that it takes. -/
def OpensFor (builder : Builder) (item : Item) (owner : PendingName) : Prop :=
  ∃ token, item = .token token ∧ token.type.opens?.isSome ∧ builder.names.head? = some owner

theorem mem_names_declare_iff {owner : PendingName} {name : String} :
    name ∈ (builder.declare owner).table.names ↔
      name ∈ builder.table.names ∨ owner.name = name := by
  rw [declare]
  cases found : builder.table.find? owner.name with
  | none =>
      dsimp only
      rw [SymbolTable.names_declare, List.mem_append, List.mem_singleton, eq_comm (a := name)]
  | some object =>
      dsimp only
      rw [SymbolTable.names_modify (Object.keepsName_addRoles _)]
      refine ⟨.inl, ?_⟩
      rintro (known | rfl)
      · exact known
      · exact SymbolTable.mem_names_of_find?_eq_some found

theorem Outcome.names_table {next : Builder} (outcome : Outcome builder item next)
    (quiet : ∀ owner, ¬ builder.OpensFor item owner) :
    next.table.names = builder.table.names := by
  cases outcome with
  | @opened token frame owner around type waiting =>
      refine absurd ⟨token, rfl, ?_, ?_⟩ (quiet owner)
      · rw [type]
        rfl
      · rw [waiting]
        rfl
  | closed => rw [closeBody_eq]; rfl
  | valued => exact SymbolTable.names_addValueOf _ _ _ _
  | received => exact names_table_addTransition _ _ _ _ (builder.pastStatement _)
  | owned => exact names_table_addTransition _ _ _ _ (builder.pastStatement _)
  | _ => rfl

theorem OpensFor.mem_names_iff {owner : PendingName} (opens : builder.OpensFor item owner)
    {name : String} :
    name ∈ (builder.step item).table.names ↔ name ∈ builder.table.names ∨ owner.name = name := by
  obtain ⟨token, rfl, type, newest⟩ := opens
  obtain ⟨frame, type⟩ := Option.isSome_iff_exists.1 type
  obtain ⟨around, waiting⟩ := List.head?_eq_some_iff.1 newest
  rw [step_of_opens? type, openBody, waiting]
  exact mem_names_declare_iff

theorem prefix_names_run (builder : Builder) (items : List Item) :
    builder.table.names <+: (builder.run items).table.names := by
  induction items generalizing builder with
  | nil => exact List.prefix_refl _
  | cons item items ih => exact (outcome_step builder item).prefix_names.trans (ih _)

/-- A name is the name of an object just where a group or block was opened for it. -/
theorem mem_names_run_iff {recordsFaults : Bool} {name : String} :
    name ∈ ((new recordsFaults).run items).table.names ↔
      ∃ before opening after owner, items = before ++ opening :: after ∧
        ((new recordsFaults).run before).OpensFor opening owner ∧ owner.name = name := by
  constructor
  · intro known
    have unknown : name ∉ (new recordsFaults).table.names := List.not_mem_nil
    obtain ⟨before, opening, after, split, older, declared⟩ :=
      exists_step_of_run (name ∈ ·.table.names) unknown known
    by_cases opens : ∃ owner, ((new recordsFaults).run before).OpensFor opening owner
    · obtain ⟨owner, opens⟩ := opens
      have same := (opens.mem_names_iff.1 declared).resolve_left older
      exact ⟨before, opening, after, owner, split, opens, same⟩
    · rw [(outcome_step _ opening).names_table (not_exists.1 opens)] at declared
      exact absurd declared older
  · rintro ⟨before, opening, after, owner, rfl, opens, same⟩
    rw [run_append, run_cons]
    exact (prefix_names_run _ after).subset (opens.mem_names_iff.2 (.inr same))

/-! ### Stay names -/

theorem eq_stay_of_name? {name : PendingName} (fed : item.name? = some name) (stay : name.IsStay) :
    ∃ token, item = .token token ∧ token.type = .dot := by
  obtain ⟨reserved, same⟩ := stay
  unfold Item.name? at fed
  split at fed <;> cases fed
  · cases reserved
  · have other : "@" ≠ "." := by decide
    exact absurd same other
  · exact ⟨_, rfl, rfl⟩

/-- A `.` outside of a transition adds no name. -/
theorem context_of_dot {token : Token} (type : token.type = .dot)
    (fed : (builder.step (.token token)).names ≠ builder.names) :
    builder.context = .transition := by
  by_contra elsewhere
  have rejected : builder.step (.token token) = builder.reject (.unattachedModifier token.value)
      token := by
    change builder.stepToken token = _
    rw [stepToken, type]
    exact if_neg elsewhere
  rw [rejected] at fed
  exact fed rfl

/-- Every stay name waits in a transition: right in it, or around a construct that was opened
there. -/
structure StaysInside (builder : Builder) : Prop where
  waiting : ∀ name ∈ builder.names, name.IsStay → builder.context = .transition
  kept : ∀ frame around, frame :: around <:+ builder.frames →
    ∀ name ∈ frame.names, name.IsStay → around.head? = some .transition

theorem staysInside_new (recordsFaults : Bool) : StaysInside (new recordsFaults) where
  waiting := fun _ none => absurd none List.not_mem_nil
  kept := fun _ _ inside => absurd inside.length_le (Nat.not_succ_le_zero _)

theorem context_eq_transition_iff :
    builder.context = .transition ↔ builder.frames.head? = some .transition := by
  rw [context]
  split
  · rename_i innermost
    rw [innermost]
    exact iff_of_false (by rintro ⟨⟩) (by rintro ⟨⟩)
  · rename_i frame around innermost
    rw [innermost, List.head?_cons, Option.some_inj]
    cases frame <;> simp [Frame.context]

theorem StaysInside.step (inside : StaysInside builder) (item : Item) :
    StaysInside (builder.step item) := by
  cases passage_step builder item with
  | @names name fed frames names =>
      refine ⟨?_, by rw [frames]; exact inside.kept⟩
      rw [names, context_eq_transition_iff, frames, ← context_eq_transition_iff]
      refine List.forall_mem_cons.2 ⟨?_, inside.waiting⟩
      intro stay
      obtain ⟨token, rfl, type⟩ := eq_stay_of_name? fed stay
      apply context_of_dot type
      rw [names]
      exact List.cons_ne_self _ _
  | drops frames names =>
      refine ⟨?_, by rw [frames]; exact inside.kept⟩
      rw [context_eq_transition_iff, frames, ← context_eq_transition_iff]
      exact fun name member => inside.waiting name (names.subset member)
  | @opens token frame fed type frames names =>
      subst fed
      have kept : ∀ name ∈ frame.names, name.IsStay → builder.frames.head? = some .transition := by
        intro name member stay
        rw [← context_eq_transition_iff]
        refine inside.waiting name ?_ stay
        rw [← names]
        exact List.mem_append_right _ member
      constructor
      · -- A group or block takes all names along, so a name still waits only behind a `=`.
        intro name member _
        obtain ⟨opened, framesOpened, same, _, emptied⟩ := step_begins type builder
        rw [framesOpened, List.cons.injEq] at frames
        obtain ⟨rfl, _⟩ := frames
        by_contra body
        rw [context, framesOpened] at body
        rw [emptied body] at member
        cases member
      · intro other around below
        rw [frames, List.suffix_cons_iff] at below
        rcases below with first | older
        · cases first
          exact kept
        · exact inside.kept other around older
  | @leaves frame frames names settled =>
      have below : frame :: (builder.step item).frames <:+ builder.frames := ⟨[], frames.symm⟩
      refine ⟨?_, fun other around older => ?_⟩
      · intro name member stay
        rw [context_eq_transition_iff]
        refine inside.kept frame _ below name ?_ stay
        rw [frame.names_eq, ← names]
        exact List.mem_append_right _ member
      · exact inside.kept other around (older.trans ((List.suffix_cons _ _).trans below))

theorem StaysInside.run (inside : StaysInside builder) (items : List Item) :
    StaysInside (builder.run items) := by
  induction items generalizing builder with
  | nil => exact inside
  | cons item items ih => exact ih (inside.step item)

/-! ### The statement of a stay name -/

/-- Below a transition lie further ones, down to the first construct of another kind. -/
theorem exists_outermost (around : List Frame) :
    ∃ above outer, Frame.transition :: around = above ++ .transition :: outer ∧
      above.flatMap Frame.names = [] ∧ outer.head? ≠ some .transition := by
  induction around with
  | nil => exact ⟨[], [], rfl, rfl, by rintro ⟨⟩⟩
  | cons frame around ih =>
      by_cases nested : frame = .transition
      · obtain ⟨above, outer, whole, bare, elsewhere⟩ := ih
        refine ⟨.transition :: above, outer, ?_, bare, elsewhere⟩
        rw [nested, whole, List.cons_append]
      · refine ⟨[], frame :: around, rfl, rfl, ?_⟩
        rw [List.head?_cons, ne_eq, Option.some_inj]
        exact nested

/-- Two names on top of a stack are both above what waited before, if the second did not wait. -/
theorem prefix_of_not_mem_waiting {first second : PendingName}
    {rest base before fed kept : List PendingName}
    (whole : first :: second :: rest ++ base = fed ++ kept) (older : kept <:+ before ++ base)
    (fresh : second ∉ before) : [first, second] <+: fed := by
  have long : 2 ≤ fed.length := by
    by_contra short
    have lengths := congrArg List.length whole
    simp only [List.length_append, List.length_cons] at lengths
    have shorter : (second :: rest ++ base).length ≤ kept.length := by
      simp only [List.length_append, List.length_cons]
      omega
    have inside : second :: rest ++ base <:+ kept :=
      List.suffix_of_suffix_length_le ⟨[first], rfl⟩ ⟨fed, whole.symm⟩ shorter
    obtain ⟨dropped, split⟩ := inside.trans older
    rw [← List.append_assoc, List.append_cancel_right_eq] at split
    apply fresh
    rw [← split]
    exact List.mem_append_right _ List.mem_cons_self
  have top : [first, second] = fed.take 2 := by
    rw [← List.take_append_of_le_length long, ← whole]
    rfl
  rw [top]
  exact List.take_prefix 2 fed

/-- Where a stay name is the second newest name of a statement, it and the newest one were read
behind a `=` whose transition is still open. -/
theorem exists_equals_of_stay {recordsFaults : Bool} {around : List Frame}
    {target origin : PendingName} {others : List PendingName}
    (innermost : ((new recordsFaults).run items).frames = .transition :: around)
    (waiting : ((new recordsFaults).run items).names = target :: origin :: others)
    (stay : origin.IsStay) :
    ∃ before equals inside, items = before ++ .token equals :: inside ∧
      equals.type = .equals ∧ ((new recordsFaults).run before).StaysOpen equals inside ∧
        [origin, target].Sublist (Item.namesOf inside) := by
  -- The outermost of the transitions on top began outside of any, where no stay name waited.
  obtain ⟨above, outer, whole, bare, elsewhere⟩ := exists_outermost around
  have below : .transition :: outer <:+ ((new recordsFaults).run items).frames := by
    rw [innermost, whole]
    exact List.suffix_append _ _
  obtain ⟨before, equals, inside, rfl, begins, frames, stays⟩ :=
    exists_opening recordsFaults items below
  refine ⟨before, equals, inside, rfl, TokenType.eq_equals_of_begins? begins, stays, ?_⟩
  obtain ⟨fed, kept, pending, read, older⟩ :=
    exists_pending_run ((new recordsFaults).run before) (.token equals :: inside)
  rw [Item.namesOf, List.filterMap_cons_none (Item.name?_of_begins? begins)] at read
  rw [← run_append, Builder.pending, waiting, innermost, whole, List.flatMap_append, bare,
    List.nil_append, List.flatMap_cons] at pending
  rw [Builder.pending, frames] at older
  have unstayed : origin ∉ ((new recordsFaults).run before).names := by
    intro member
    have inTransition := ((staysInside_new recordsFaults).run before).waiting origin member stay
    rw [context_eq_transition_iff, frames] at inTransition
    exact elsewhere inTransition
  have newest : [target, origin] <+: fed := prefix_of_not_mem_waiting pending older unstayed
  exact newest.sublist.reverse.trans read

theorem mem_namesOf_of_waiting {recordsFaults : Bool} {before after : List Item}
    {name : PendingName} (waiting : name ∈ ((new recordsFaults).run before).names) :
    name ∈ Item.namesOf (before ++ after) := by
  have pending : name ∈ ((new recordsFaults).run before).pending :=
    List.mem_append_left _ waiting
  have read : name ∈ Item.namesOf before :=
    (pending_sublist_names recordsFaults before).subset (List.mem_reverse.2 pending)
  rw [Item.namesOf, List.filterMap_append]
  exact List.mem_append_left _ read

end Builder

theorem PendingName.Proper.isStay {name : PendingName} (proper : name.Proper)
    (same : name.name = ".") : name.IsStay := by
  cases proper with
  | @identifier text location admits =>
      change text = "." at same
      subst same
      exact absurd admits (TokenType.not_admits_symbol (c := '.') (by decide) (by decide))
  | broadcast =>
      have other : "@" ≠ "." := by decide
      exact absurd same other
  | stay => exact ⟨rfl, rfl⟩

theorem SymbolTable.transitionsOf_of_mem_ofItems {recordsFaults : Bool} {items : List Item}
    {object : Object} (member : object ∈ (ofItems recordsFaults items).objects) :
    ((Builder.new recordsFaults).run items).table.transitionsOf object.name =
      object.transitions := by
  have edits := Builder.edits_run (Builder.ownersDeclared_new recordsFaults) List.nodup_nil items
  rw [Builder.ofItems_eq] at member
  exact transitionsOf_of_find? (find?_of_mem_objects (edits.nodup_names List.nodup_nil) member)

/-- An object of some name is there just where a group or block was opened for that name, and the
name is an identifier or one of the two reserved names. A transition from the stay name was recorded
where this name and then its target had been read behind one `=` whose transition was still open. -/
theorem reserved_names_taken (recordsFaults : Bool) (file source : String) :
    let items := scan file source
    let start := Builder.new recordsFaults
    let table := SymbolTable.ofItems recordsFaults items
    (∀ name, name ∈ table.names ↔ ∃ before opening after owner,
      items = before ++ opening :: after ∧ (start.run before).OpensFor opening owner ∧
        owner.name = name) ∧
      (∀ object ∈ table.objects, TokenType.identifier.Admits object.name ∨
        object.name = "@" ∨ object.name = ".") ∧
      ∀ object ∈ table.objects, ∀ transition ∈ object.transitions, transition.origin = "." →
        ∃ before equals inside last after origin target,
          items = before ++ .token equals :: inside ++ last :: after ∧
            equals.type = .equals ∧ (start.run before).StaysOpen equals inside ∧
            (start.run (before ++ .token equals :: inside)).Records last object.name transition ∧
            [origin, target].Sublist (Item.namesOf inside) ∧
            transition = ⟨some origin.location, origin.name, target.name, transition.mode⟩ := by
  intro items start table
  have declared (name : String) : name ∈ table.names ↔ ∃ before opening after owner,
      items = before ++ opening :: after ∧ (start.run before).OpensFor opening owner ∧
        owner.name = name := by
    rw [← Builder.mem_names_run_iff, show table = _ from Builder.ofItems_eq recordsFaults items]
    rfl
  refine ⟨declared, ?_, ?_⟩
  · intro object member
    obtain ⟨before, opening, after, owner, split, ⟨_, _, _, newest⟩, same⟩ :=
      (declared object.name).1 (List.mem_map_of_mem member)
    have read : owner ∈ Item.namesOf items := by
      rw [split]
      exact Builder.mem_namesOf_of_waiting (List.mem_of_head? newest)
    rw [← same]
    exact (proper_of_mem_namesOf_scan read).name_cases
  · intro object member transition has stay
    rw [← SymbolTable.transitionsOf_of_mem_ofItems member] at has
    obtain ⟨read, last, after, split, records⟩ := Builder.exists_records recordsFaults items has
    obtain ⟨target, origin, completes, rfl⟩ := records.exists_completes
    obtain ⟨others, waiting⟩ := completes.names
    have proper : origin.Proper := by
      apply proper_of_mem_namesOf_scan
      change origin ∈ Item.namesOf items
      rw [split]
      apply Builder.mem_namesOf_of_waiting
      rw [waiting]
      exact List.mem_cons_of_mem _ List.mem_cons_self
    obtain ⟨before, equals, inside, rfl, type, stays, ordered⟩ :=
      Builder.exists_equals_of_stay completes.frames waiting (proper.isStay stay)
    exact ⟨before, equals, inside, last, after, origin, target, split, type, stays, records, ordered,
      rfl⟩

/-- In `a{=.y;=.(` the stay name is the origin of a transition and then the name of an object. -/
theorem reserved_names_taken_of_stay :
    let items := scan "sample" "a\x7b=.y;=.("
    let start := Builder.new true
    let table := SymbolTable.ofItems true items
    table.names = ["a", "."] ∧
      (∃ before opening after owner, items = before ++ opening :: after ∧
        (start.run before).OpensFor opening owner ∧ owner.name = ".") ∧
      ∃ object ∈ table.objects, ∃ before equals inside last after,
        items = before ++ .token equals :: inside ++ last :: after ∧
          (start.run before).StaysOpen equals inside ∧
          (start.run (before ++ .token equals :: inside)).Records last object.name
            ⟨some ⟨"sample", 1, 4⟩, ".", "y", .after⟩ := by
  intro items start table
  have names : table.names = ["a", "."] := by decide +kernel
  obtain ⟨declared, _, left⟩ := reserved_names_taken true "sample" "a\x7b=.y;=.("
  refine ⟨names, (declared ".").1 ?_, ?_⟩
  · change "." ∈ table.names
    rw [names]
    decide
  · have first : table.objects.head? = some ⟨"a", some ⟨"sample", 1, 1⟩, .through, [],
        [⟨some ⟨"sample", 1, 4⟩, ".", "y", .after⟩]⟩ := by decide +kernel
    have member := List.mem_of_head? first
    obtain ⟨before, equals, inside, last, after, _, _, split, _, stays, records, _⟩ :=
      left _ member _ List.mem_cons_self rfl
    exact ⟨_, member, before, equals, inside, last, after, split, stays, records⟩

/-- The text `@{=.y;}` has no problem, declares an object of a reserved name and gives it a
transition from the stay name. -/
theorem reserved_names_out_of_place :
    let table := SymbolTable.ofItems true (scan "sample" "@\x7b=.y;\x7d")
    table.diagnostics = [] ∧ ∃ object ∈ table.objects,
      ¬ TokenType.identifier.Admits object.name ∧
        ∃ transition ∈ object.transitions, transition.origin = "." := by
  intro table
  have objects : table.objects = [⟨"@", some ⟨"sample", 1, 1⟩, .through, [],
      [⟨some ⟨"sample", 1, 4⟩, ".", "y", .after⟩]⟩] := by decide +kernel
  refine ⟨by decide +kernel, ?_⟩
  rw [objects]
  refine ⟨_, List.mem_cons_self, ?_, _, List.mem_cons_self, rfl⟩
  exact TokenType.not_admits_symbol (c := '@') (by decide) (by decide)

end StateDescription
