import StateDescription.Proofs.StackAgreement

/-!
Calls in any order. A caller may feed and finish as it likes and go on after a refusal; the flat
stacks follow the builder call by call, so no access to them ever fails.
-/

namespace StateDescription

inductive Call
  | feed (item : Item)
  | finish
  deriving DecidableEq

namespace Builder

def perform (builder : Builder) : Call → Except Refusal Builder
  | .feed item => builder.feed item
  | .finish => .ok builder.finish

/-- A refused call leaves the builder as it was. -/
def call (builder : Builder) (call : Call) : Builder :=
  match builder.perform call with
  | .ok next => next
  | .error _ => builder

def after (builder : Builder) (calls : List Call) : Builder :=
  calls.foldl call builder

end Builder

namespace Stacks

def perform : Call → Action Unit
  | .feed item => feed item
  | .finish => finish

/-- The stacks that a call leaves, whether it returns or raises. -/
def call (machine : Stacks) (call : Call) : Stacks :=
  match perform call machine with
  | .ok _ next => next
  | .error _ next => next

def after (machine : Stacks) (calls : List Call) : Stacks :=
  calls.foldl call machine

end Stacks

/-! ### Finishing -/

namespace Builder

variable {builder : Builder}

theorem perform_feed_of_finished (finished : builder.finished = true) (item : Item) :
    builder.perform (.feed item) = .error .finished :=
  if_pos finished

theorem perform_finish_of_finished (finished : builder.finished = true) :
    builder.perform .finish = .ok builder := by
  rw [perform, finish, if_pos finished]

theorem perform_feed_of_unfinished (unfinished : builder.finished = false) (item : Item) :
    builder.perform (.feed item) = .ok (builder.step item) := by
  rw [perform, feed, unfinished]
  rfl

theorem perform_finish_of_unfinished (unfinished : builder.finished = false) :
    builder.perform .finish = .ok builder.close := by
  rw [perform, finish, unfinished]
  rfl

theorem call_of_finished (finished : builder.finished = true) (call : Call) :
    builder.call call = builder := by
  cases call with
  | feed item => rw [Builder.call, perform_feed_of_finished finished]
  | finish => rw [Builder.call, perform_finish_of_finished finished]

theorem finished_call (builder : Builder) (call : Call) :
    (builder.call call).finished = true ↔ builder.finished = true ∨ call = .finish := by
  cases state : builder.finished with
  | true => simp [call_of_finished state, state]
  | false =>
      cases call with
      | feed item =>
          rw [Builder.call, perform_feed_of_unfinished state]
          simp [(outcome_step builder item).finished_eq, state]
      | finish =>
          rw [Builder.call, perform_finish_of_unfinished state]
          simp

/-- A build is finished as soon as one call has finished it. -/
theorem finished_after (builder : Builder) (calls : List Call) :
    (builder.after calls).finished = true ↔ builder.finished = true ∨ .finish ∈ calls := by
  induction calls generalizing builder with
  | nil => simp [after]
  | cons call calls ih =>
      have split : builder.after (call :: calls) = (builder.call call).after calls := rfl
      rw [split, ih, finished_call, List.mem_cons, or_assoc, eq_comm (a := Call.finish)]

theorem ownersDeclared_close (builder : Builder) : OwnersDeclared builder.close := by
  intro frame member owner owns
  obtain ⟨vacated, _, rfl⟩ := List.mem_map.1 member
  cases vacated <;> cases owns

theorem OwnersDeclared.call (declared : OwnersDeclared builder) (call : Call) :
    OwnersDeclared (builder.call call) := by
  cases state : builder.finished with
  | true => rwa [call_of_finished state]
  | false =>
      cases call with
      | feed item =>
          rw [Builder.call, perform_feed_of_unfinished state]
          exact declared.step item
      | finish =>
          rw [Builder.call, perform_finish_of_unfinished state]
          exact ownersDeclared_close builder

end Builder

/-! ### Agreement -/

namespace Stacks

variable {machine : Stacks} {builder : Builder}

/-- The stacks hold what the builder holds. Once it is finished its frames have lost their
owners, which nothing reads any more. -/
structure Agrees (machine : Stacks) (builder : Builder) : Prop where
  rest : machine = { ofBuilder builder with frames := machine.frames }
  contexts : machine.frames.map StackFrame.context = builder.contexts
  frames : builder.finished = false → machine.frames = ofFrames builder.frames

theorem agrees_ofBuilder (builder : Builder) : Agrees (ofBuilder builder) builder where
  rest := rfl
  contexts := map_context_ofFrames builder.frames
  frames := fun _ => rfl

theorem Agrees.eq_ofBuilder (agrees : Agrees machine builder)
    (unfinished : builder.finished = false) : machine = ofBuilder builder := by
  rw [agrees.rest, agrees.frames unfinished]
  rfl

theorem Agrees.finished (agrees : Agrees machine builder) :
    machine.finished = builder.finished := by
  rw [agrees.rest]
  rfl

theorem contexts_close (builder : Builder) : builder.close.contexts = builder.contexts := by
  change (builder.frames.map Frame.vacated).map Frame.context ++ [.top] = _
  rw [List.map_map, Builder.contexts]
  congr 2
  funext frame
  cases frame <;> rfl

theorem agrees_close (builder : Builder) :
    Agrees { ofBuilder builder.close with frames := ofFrames builder.frames }
      builder.close where
  rest := rfl
  contexts := by rw [contexts_close, Builder.contexts, map_context_ofFrames]
  frames := by
    intro unfinished
    rw [Builder.finished_close] at unfinished
    cases unfinished

theorem perform_feed_of_finished (finished : machine.finished = true) (item : Item) :
    perform (.feed item) machine = .error (.refused .finished) machine := by
  simp only [perform, feed, bind_apply, get_apply]
  rw [if_pos finished]
  rfl

theorem perform_finish_of_finished (finished : machine.finished = true) :
    perform .finish machine = .ok () machine := by
  simp only [perform, finish, bind_apply, get_apply]
  rw [if_pos finished]
  rfl

/-- Until a build is finished every call returns. -/
theorem perform_ofBuilder (declared : builder.OwnersDeclared)
    (unfinished : builder.finished = false) (call : Call) :
    ∃ next, perform call (ofBuilder builder) = .ok () next ∧
      Agrees next (builder.call call) := by
  have running : ¬ (ofBuilder builder).finished = true := by
    change ¬ builder.finished = true
    rw [unfinished]
    decide
  cases call with
  | feed item =>
      rw [Builder.call, Builder.perform_feed_of_unfinished unfinished]
      refine ⟨ofBuilder (builder.step item), ?_, agrees_ofBuilder _⟩
      simp only [perform, feed, bind_apply, get_apply]
      rw [if_neg running]
      exact step_ofBuilder builder declared item
  | finish =>
      rw [Builder.call, Builder.perform_finish_of_unfinished unfinished]
      refine ⟨_, ?_, agrees_close builder⟩
      simp only [perform, finish, bind_apply, get_apply]
      rw [if_neg running]
      exact close_ofBuilder builder

theorem call_of_finished (finished : machine.finished = true) (call : Call) :
    machine.call call = machine := by
  cases call with
  | feed item => rw [Stacks.call, perform_feed_of_finished finished]
  | finish => rw [Stacks.call, perform_finish_of_finished finished]

theorem Agrees.call (agrees : Agrees machine builder) (declared : builder.OwnersDeclared)
    (call : Call) : Agrees (machine.call call) (builder.call call) := by
  cases state : builder.finished with
  | true =>
      rw [call_of_finished (agrees.finished.trans state), Builder.call_of_finished state]
      exact agrees
  | false =>
      obtain rfl := agrees.eq_ofBuilder state
      obtain ⟨next, returned, follows⟩ := perform_ofBuilder declared state call
      rw [Stacks.call, returned]
      exact follows

theorem Agrees.after (agrees : Agrees machine builder) (declared : builder.OwnersDeclared)
    (calls : List Call) :
    Agrees (machine.after calls) (builder.after calls) ∧
      (builder.after calls).OwnersDeclared := by
  induction calls generalizing machine builder with
  | nil => exact ⟨agrees, declared⟩
  | cons call calls ih =>
      apply ih
      · exact agrees.call declared call
      · exact declared.call call

end Stacks

/-- After any calls the stacks hold what the builder holds. The next call returns, unless it
feeds an item to a finished build: that is refused and changes nothing. To finish once more
changes nothing either. -/
theorem calls_never_fail (recordsFaults : Bool) (calls : List Call) :
    let machine := (Stacks.new recordsFaults).after calls
    machine.Agrees ((Builder.new recordsFaults).after calls) ∧
      (.finish ∉ calls → ∀ call, ∃ next, Stacks.perform call machine = .ok () next) ∧
      (.finish ∈ calls →
        Stacks.perform .finish machine = .ok () machine ∧
          ∀ item, Stacks.perform (.feed item) machine =
            .error (.refused .finished) machine) := by
  intro machine
  obtain ⟨agrees, declared⟩ :=
    (Stacks.agrees_ofBuilder (Builder.new recordsFaults)).after
      (Builder.ownersDeclared_new recordsFaults) calls
  have finished_iff : ((Builder.new recordsFaults).after calls).finished = true ↔
      .finish ∈ calls := by
    rw [Builder.finished_after]
    exact or_iff_right Bool.false_ne_true
  refine ⟨agrees, ?_, ?_⟩
  · intro unfinished call
    rw [← finished_iff, Bool.not_eq_true] at unfinished
    obtain ⟨next, returned, _⟩ := Stacks.perform_ofBuilder declared unfinished call
    refine ⟨next, ?_⟩
    rw [← returned]
    exact congrArg (Stacks.perform call) (agrees.eq_ofBuilder unfinished)
  · intro finished
    have ended : machine.finished = true := agrees.finished.trans (finished_iff.2 finished)
    exact ⟨Stacks.perform_finish_of_finished ended, Stacks.perform_feed_of_finished ended⟩

end StateDescription
