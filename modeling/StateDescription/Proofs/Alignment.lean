import Mathlib.Data.List.Chain
import StateDescription.Proofs.Constructs
import StateDescription.Proofs.StackCalls
import StateDescription.Proofs.TableEdits

/-!
How the flat stacks lie to each other while a build is running. The owner of a construct is the
name right below it, so the owner that a statement falls back on is that of the nearest construct
with an owner.
-/

namespace StateDescription

namespace Stacks

/-- The stack of frames, the innermost first, fits the stack of names and the table. -/
structure Aligned (machine : Stacks) : Prop where
  bottom : ∃ inner, machine.frames = inner ++ [⟨.top, none, 0⟩] ∧
    ∀ frame ∈ inner, frame.context ≠ .top
  bases : machine.frames.Pairwise fun upper lower => lower.base ≤ upper.base
  depth : ∀ frame ∈ machine.frames, frame.base ≤ machine.names.length
  owners : ∀ frame ∈ machine.frames, ∀ owner ∈ frame.owner,
    (machine.names.rtake frame.base).head? = some owner ∧
      ∃ object, machine.table.find? owner.name = some object ∧ object.name = owner.name
  ownerless : machine.frames.IsChain fun upper lower =>
    upper.owner = none → upper.base = lower.base

/-! ### The frames of a builder -/

theorem mem_ofFrames {frame : StackFrame} {frames : List Frame} :
    frame ∈ ofFrames frames ↔ ∃ below, below <:+ frames ∧ frame = topFrame below := by
  induction frames with
  | nil => simp [ofFrames]
  | cons first around ih =>
      rw [ofFrames, List.mem_cons, ih]
      constructor
      · rintro (rfl | ⟨below, inside, rfl⟩)
        · exact ⟨_, List.suffix_refl _, rfl⟩
        · exact ⟨below, inside.trans (List.suffix_cons first around), rfl⟩
      · rintro ⟨below, inside, rfl⟩
        rcases List.suffix_cons_iff.1 inside with rfl | inside
        · exact .inl rfl
        · exact .inr ⟨below, inside, rfl⟩

theorem exists_bottom (frames : List Frame) :
    ∃ inner, ofFrames frames = inner ++ [⟨.top, none, 0⟩] ∧
      ∀ frame ∈ inner, frame.context ≠ .top := by
  induction frames with
  | nil => exact ⟨[], rfl, fun _ none => absurd none List.not_mem_nil⟩
  | cons frame around ih =>
      obtain ⟨inner, split, inside⟩ := ih
      refine ⟨topFrame (frame :: around) :: inner, by rw [ofFrames, split]; rfl, ?_⟩
      rw [List.forall_mem_cons]
      refine ⟨?_, inside⟩
      cases frame <;> rintro ⟨⟩

theorem base_le_of_suffix {below frames : List Frame} (inside : below <:+ frames) :
    (topFrame below).base ≤ (topFrame frames).base := by
  obtain ⟨above, rfl⟩ := inside
  rw [base_topFrame, base_topFrame, List.flatMap_append, List.length_append]
  exact Nat.le_add_left _ _

theorem pairwise_bases (frames : List Frame) :
    (ofFrames frames).Pairwise fun upper lower => lower.base ≤ upper.base := by
  induction frames with
  | nil => exact List.pairwise_singleton _ _
  | cons frame around ih =>
      rw [ofFrames, List.pairwise_cons]
      refine ⟨?_, ih⟩
      intro lower member
      obtain ⟨below, inside, rfl⟩ := mem_ofFrames.1 member
      exact base_le_of_suffix (inside.trans (List.suffix_cons frame around))

theorem isChain_ownerless (frames : List Frame) :
    (ofFrames frames).IsChain fun upper lower =>
      upper.owner = none → upper.base = lower.base := by
  induction frames with
  | nil => exact List.isChain_singleton _
  | cons frame around ih =>
      obtain ⟨below, top⟩ := exists_ofFrames_eq_cons around
      rw [top] at ih
      rw [ofFrames, top, List.isChain_cons_cons]
      refine ⟨?_, ih⟩
      intro bare
      have site : frame.site? = none := Option.map_eq_none_iff.1 bare
      rw [base_topFrame, base_topFrame, List.flatMap_cons, Frame.names, site]
      rfl

theorem findSome?_owner_ofFrames (frames : List Frame) :
    (ofFrames frames).findSome? StackFrame.owner = Builder.innermostOwner? frames := by
  induction frames with
  | nil => rfl
  | cons frame around ih =>
      rw [ofFrames, List.findSome?_cons, ih, Builder.innermostOwner?, Builder.innermostOwner?,
        List.findSome?_cons]
      rfl

theorem aligned_ofBuilder {builder : Builder} (declared : builder.OwnersDeclared) :
    Aligned (ofBuilder builder) where
  bottom := exists_bottom builder.frames
  bases := pairwise_bases builder.frames
  depth := by
    intro frame member
    obtain ⟨below, inside, rfl⟩ := mem_ofFrames.1 member
    have least := base_le_of_suffix inside
    rw [base_topFrame builder.frames] at least
    rw [length_names_ofBuilder]
    omega
  owners := by
    intro frame member owner owns
    obtain ⟨below, inside, rfl⟩ := mem_ofFrames.1 member
    cases below with
    | nil => cases owns
    | cons frame around =>
        have owns : frame.owner? = some owner := owns
        refine ⟨?_, ?_⟩
        · change (builder.pending.rtake _).head? = _
          rw [Builder.rtake_pending inside, List.flatMap_cons, frame.names_eq, owns]
          rfl
        · have known := declared frame (inside.subset List.mem_cons_self) owner owns
          obtain ⟨object, found⟩ := SymbolTable.exists_find?_of_mem_names known
          exact ⟨object, found, SymbolTable.name_of_find?_eq_some found⟩
  ownerless := isChain_ownerless builder.frames

/-- A statement with two names of its own, inside a construct that has names below it, stands in a
construct with an owner. -/
theorem exists_owner_of_two_names {builder : Builder} {top lower : StackFrame}
    {below : List StackFrame} (frames : (ofBuilder builder).frames = top :: lower :: below)
    (inside : top.context = .transition) (based : lower.base ≠ 0)
    (two : (ofBuilder builder).names.length = lower.base + 2) :
    ∃ around target origin owner names,
      builder.frames = .transition :: around ∧ builder.names = [target, origin] ∧
        Builder.innermostOwner? around = some owner ∧
        (ofBuilder builder).names = target :: origin :: owner :: names := by
  have frames : ofFrames builder.frames = top :: lower :: below := frames
  cases opened : builder.frames with
  | nil =>
      rw [opened] at frames
      cases frames
  | cons frame around =>
      obtain ⟨others, next⟩ := exists_ofFrames_eq_cons around
      rw [opened, ofFrames, next, List.cons.injEq, List.cons.injEq] at frames
      obtain ⟨rfl, rfl, rfl⟩ := frames
      cases frame with
      | group site => cases inside
      | block site => cases inside
      | transition =>
          have base : (topFrame around).base = (builder.frames.flatMap Frame.names).length := by
            rw [base_topFrame, opened]
            rfl
          rw [length_names_ofBuilder, base] at two
          obtain ⟨target, origin, waiting⟩ : ∃ target origin, builder.names = [target, origin] :=
            List.length_eq_two.1 (by omega)
          rw [base_topFrame, ne_eq, List.length_eq_zero_iff] at based
          obtain ⟨owner, names, kept⟩ := List.exists_cons_of_ne_nil based
          refine ⟨around, target, origin, owner, names, rfl, waiting, ?_, ?_⟩
          · rw [← head?_flatMap_names, kept]
            rfl
          · change builder.names ++ builder.frames.flatMap Frame.names = _
            rw [waiting, opened, List.flatMap_cons, kept]
            rfl

end Stacks

namespace Builder

variable {builder : Builder}

/-- A receiver with an object gains the transition, and no other object gains any. -/
theorem transitionsOf_addTransition {receiver : PendingName} {object : Object}
    (found : builder.table.find? receiver.name = some object) (origin target : PendingName)
    (mode : WriteMode) (name : String) :
    (builder.addTransition receiver origin target mode).table.transitionsOf name =
      builder.table.transitionsOf name ++
        if receiver.name = name then [⟨some origin.location, origin.name, target.name, mode⟩]
        else [] := by
  rw [addTransition, found]
  dsimp only
  split
  · exact SymbolTable.transitionsOf_addTransition found [] _ name
  · exact SymbolTable.transitionsOf_addTransition found [_] _ name

end Builder

/-- While a build is running its stacks are aligned. So where a `;` completes a statement with two
names of its own, inside a construct that has names below it, the owner of the nearest construct
with one receives the transition, and it has an object. -/
theorem stacks_stay_aligned (recordsFaults : Bool) (calls : List Call)
    (unfinished : .finish ∉ calls) :
    let machine := (Stacks.new recordsFaults).after calls
    machine.Agrees ((Builder.new recordsFaults).after calls) ∧ machine.Aligned ∧
      ∀ token top lower below, token.type = .semicolon →
        machine.frames = top :: lower :: below → top.context = .transition →
        lower.base ≠ 0 → machine.names.length = lower.base + 2 →
        ∃ target origin owner names object next,
          machine.names = target :: origin :: owner :: names ∧
            machine.frames.findSome? StackFrame.owner = some owner ∧
            machine.table.find? owner.name = some object ∧
            Stacks.perform (.feed (.token token)) machine = .ok () next ∧
            ∀ name, next.table.transitionsOf name =
              machine.table.transitionsOf name ++
                if owner.name = name then
                  [⟨some origin.location, origin.name, target.name, machine.mode⟩]
                else [] := by
  intro machine
  obtain ⟨agrees, declared⟩ :=
    (Stacks.agrees_ofBuilder (Builder.new recordsFaults)).after
      (Builder.ownersDeclared_new recordsFaults) calls
  have running : ((Builder.new recordsFaults).after calls).finished = false := by
    rw [← Bool.not_eq_true, Builder.finished_after]
    exact not_or.2 ⟨Bool.false_ne_true, unfinished⟩
  have same : machine = Stacks.ofBuilder ((Builder.new recordsFaults).after calls) :=
    agrees.eq_ofBuilder running
  refine ⟨agrees, ?_, ?_⟩
  · rw [same]
    exact Stacks.aligned_ofBuilder declared
  · intro token top lower below type frames inside based two
    rw [same] at frames two ⊢
    generalize (Builder.new recordsFaults).after calls = builder at declared running frames two ⊢
    obtain ⟨around, target, origin, owner, names, opened, waiting, owns, newest⟩ :=
      Stacks.exists_owner_of_two_names frames inside based two
    have within : around ⊆ builder.frames := opened ▸ List.subset_cons_self _ _
    obtain ⟨object, found⟩ := declared.exists_object within owns
    obtain ⟨next, returned, follows⟩ :=
      Stacks.perform_ofBuilder declared running (.feed (.token token))
    refine ⟨target, origin, owner, names, object, next, newest, ?_, found, returned, ?_⟩
    · change (Stacks.ofFrames builder.frames).findSome? StackFrame.owner = some owner
      rw [Stacks.findSome?_owner_ofFrames, opened]
      exact owns
    · intro name
      have ends : builder.call (.feed (.token token)) =
          (builder.pastStatement around).addTransition owner origin target builder.mode := by
        rw [Builder.call, Builder.perform_feed_of_unfinished running]
        change builder.stepToken token = _
        rw [Builder.stepToken, type]
        change builder.endAny token = _
        rw [Builder.endAny, opened]
        change builder.endTransition token around = _
        rw [Builder.endTransition, waiting, owns]
        rfl
      have table : next.table =
          ((builder.pastStatement around).addTransition owner origin target
            builder.mode).table := by
        rw [follows.rest, ends]
        rfl
      have known : (builder.pastStatement around).table.find? owner.name = some object := found
      rw [table]
      exact Builder.transitionsOf_addTransition known origin target builder.mode name

/-- The text `a{(x=y;`: the group has no owner, so the block's owner receives the transition. -/
theorem stacks_aligned_in_ownerless_group :
    let words := [sampleToken .identifier "a" 1, sampleToken .openBlock "\x7b" 2,
      sampleToken .openGroup "(" 3, sampleToken .identifier "x" 4, sampleToken .equals "=" 5,
      sampleToken .identifier "y" 6]
    let calls := words.map fun word => Call.feed (.token word)
    let machine := (Stacks.new true).after calls
    let semicolon : Call := .feed (.token (sampleToken .semicolon ";" 7))
    .finish ∉ calls ∧ machine.Aligned ∧
      machine.frames.map StackFrame.base = [1, 1, 1, 0] ∧
      ∃ next, Stacks.perform semicolon machine = .ok () next ∧
        next.table.transitionsOf "a" = [⟨some ⟨"sample", 1, 4⟩, "x", "y", .after⟩] := by
  intro words calls machine semicolon
  have unfinished : .finish ∉ calls := by decide
  obtain ⟨_, aligned, receives⟩ := stacks_stay_aligned true calls unfinished
  obtain ⟨target, origin, owner, names, object, next, newest, _, _, returned, given⟩ :=
    receives (sampleToken .semicolon ";" 7) ⟨.transition, none, 1⟩ ⟨.group, none, 1⟩
      [⟨.block, some ⟨"a", ⟨"sample", 1, 1⟩, false⟩, 1⟩, ⟨.top, none, 0⟩]
      rfl rfl rfl (by decide) rfl
  have held : ((Stacks.new true).after calls).names =
      [⟨"y", ⟨"sample", 1, 6⟩, false⟩, ⟨"x", ⟨"sample", 1, 4⟩, false⟩,
        ⟨"a", ⟨"sample", 1, 1⟩, false⟩] := rfl
  rw [held] at newest
  cases newest
  refine ⟨unfinished, aligned, rfl, next, returned, ?_⟩
  rw [given]
  rfl

end StateDescription
