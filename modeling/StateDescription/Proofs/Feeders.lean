import Mathlib.Data.List.Forall2
import StateDescription.Proofs.Constructs
import StateDescription.Proofs.RecordedTransitions

/-!
The items that fed the names. A followed build counts its items and keeps, for each name that
waits, the number of the item that fed it. This tells on which side of a `=` a name was read.
-/

namespace StateDescription

theorem Item.name?_of_begins? {token : Token} {context : Context}
    (begins : token.type.begins? = some context) : (Item.token token).name? = none := by
  obtain ⟨type, value, location⟩ := token
  unfold TokenType.begins? at begins
  split at begins <;> cases begins <;> rename_i same <;> cases same <;> rfl

/-- A build with the number of items that it has read. `feeders` are the numbers of the items
that fed the waiting names, the newest first. -/
structure Followed where
  builder : Builder
  read : Nat
  feeders : List Nat

namespace Followed

def new (recordsFaults : Bool) : Followed :=
  ⟨.new recordsFaults, 0, []⟩

/-- A name that is added brings the number of its item, and names that go take theirs along. -/
def step (followed : Followed) (item : Item) : Followed :=
  let next := followed.builder.step item
  { builder := next
    read := followed.read + 1
    feeders :=
      if followed.builder.pending.length < next.pending.length then
        followed.read :: followed.feeders
      else followed.feeders.rtake next.pending.length }

def run (followed : Followed) (items : List Item) : Followed :=
  items.foldl step followed

@[simp] theorem builder_run (followed : Followed) (items : List Item) :
    (followed.run items).builder = followed.builder.run items := by
  induction items generalizing followed with
  | nil => rfl
  | cons item items ih => exact ih (followed.step item)

theorem run_concat (followed : Followed) (items : List Item) (item : Item) :
    followed.run (items ++ [item]) = (followed.run items).step item :=
  List.foldl_concat _ _ _ _

/-- Every waiting name was fed by the item of its number, and the newer name by the later item. -/
structure Sound (items : List Item) (followed : Followed) : Prop where
  read_eq : followed.read = items.length
  feeds : List.Forall₂ (fun number name => items[number]?.bind Item.name? = some name)
    followed.feeders followed.builder.pending
  latest_first : followed.feeders.Pairwise (· > ·)

variable {items : List Item} {followed : Followed} {item : Item}

theorem sound_new (recordsFaults : Bool) : Sound [] (new recordsFaults) where
  read_eq := rfl
  feeds := .nil
  latest_first := .nil

theorem Sound.lt_of_mem (sound : Sound items followed) {number : Nat}
    (member : number ∈ followed.feeders) : number < items.length := by
  obtain ⟨index, inside, rfl⟩ := List.getElem_of_mem member
  have waits : index < followed.builder.pending.length := by
    rwa [← sound.feeds.length_eq]
  have fed := sound.feeds.get inside waits
  obtain ⟨feeder, found, _⟩ := Option.bind_eq_some_iff.1 fed
  exact (List.getElem?_eq_some_iff.1 found).1

theorem Sound.step (sound : Sound items followed) (item : Item) :
    Sound (items ++ [item]) (followed.step item) := by
  have kept : List.Forall₂
      (fun number name => (items ++ [item])[number]?.bind Item.name? = some name)
      followed.feeders followed.builder.pending := by
    refine sound.feeds.imp ?_
    intro number name fed
    obtain ⟨feeder, found, named⟩ := Option.bind_eq_some_iff.1 fed
    rw [List.getElem?_append_left (List.getElem?_eq_some_iff.1 found).1]
    exact fed
  have read : (followed.step item).read = (items ++ [item]).length := by
    rw [List.length_append, ← sound.read_eq]
    rfl
  rcases (Builder.passage_step followed.builder item).pending_cases with
    ⟨name, fed, pushed⟩ | popped
  · have feeders : (followed.step item).feeders = followed.read :: followed.feeders := by
      rw [Followed.step, if_pos]
      rw [pushed, List.length_cons]
      exact Nat.lt_succ_self _
    refine ⟨read, ?_, ?_⟩
    · rw [feeders]
      change List.Forall₂ _ _ (followed.builder.step item).pending
      rw [pushed, sound.read_eq]
      refine .cons ?_ kept
      rw [List.getElem?_concat_length]
      exact fed
    · rw [feeders, List.pairwise_cons]
      refine ⟨?_, sound.latest_first⟩
      intro number member
      rw [sound.read_eq]
      exact sound.lt_of_mem member
  · -- Names and feeders are as many, so the same number of each goes from the top.
    have feeders : (followed.step item).feeders =
        followed.feeders.drop (followed.feeders.length -
          (followed.builder.step item).pending.length) := by
      rw [Followed.step, if_neg (Nat.not_lt.2 popped.length_le)]
      rfl
    refine ⟨read, ?_, ?_⟩
    · have rest := List.forall₂_drop (followed.builder.pending.length -
        (followed.builder.step item).pending.length) kept
      rw [← List.suffix_iff_eq_drop.1 popped] at rest
      rw [feeders, sound.feeds.length_eq]
      exact rest
    · rw [feeders]
      exact sound.latest_first.sublist (List.drop_sublist _ _)

theorem sound_run (recordsFaults : Bool) (items : List Item) :
    Sound items ((new recordsFaults).run items) := by
  induction items using List.reverseRecOn with
  | nil => exact sound_new recordsFaults
  | append_singleton items item ih =>
      rw [run_concat]
      exact ih.step item

/-- The two newest names of a construct have the two latest feeders. -/
theorem Sound.newest (sound : Sound items followed) {target origin : PendingName}
    {names : List PendingName} (waiting : followed.builder.names = target :: origin :: names) :
    ∃ targetFeeder originFeeder others,
      followed.feeders = targetFeeder :: originFeeder :: others ∧
        items[targetFeeder]?.bind Item.name? = some target ∧
        items[originFeeder]?.bind Item.name? = some origin ∧
        (targetFeeder :: originFeeder :: others).Pairwise (· > ·) := by
  have feeds := sound.feeds
  rw [Builder.pending, waiting, List.cons_append, List.cons_append] at feeds
  obtain ⟨targetFeeder, _, fedTarget, feeds, newest⟩ := List.forall₂_cons_right_iff.1 feeds
  obtain ⟨originFeeder, others, fedOrigin, _, rfl⟩ := List.forall₂_cons_right_iff.1 feeds
  refine ⟨targetFeeder, originFeeder, others, newest, fedTarget, fedOrigin, ?_⟩
  rw [← newest]
  exact sound.latest_first

/-- Where the two newest of some feeders stand shows in how many of them are behind a place. -/
theorem countP_behind {target origin : Nat} {others : List Nat}
    (latest_first : (target :: origin :: others).Pairwise (· > ·)) (place : Nat) :
    let behind := (target :: origin :: others).countP (place < ·)
    (behind = 0 ↔ target ≤ place) ∧
      (behind = 1 ↔ origin ≤ place ∧ place < target) ∧
      (2 ≤ behind ↔ place < origin) := by
  intro behind
  obtain ⟨newest, older⟩ := List.pairwise_cons.1 latest_first
  have ordered : origin < target := newest origin List.mem_cons_self
  have split : behind = others.countP (place < ·) + (if place < origin then 1 else 0) +
      (if place < target then 1 else 0) := by
    simp only [behind, List.countP_cons, decide_eq_true_eq]
  by_cases right : place < origin
  · rw [if_pos right, if_pos (right.trans ordered)] at split
    omega
  · -- The others are older than the origin, so none of them is behind the place either.
    have none : others.countP (place < ·) = 0 := by
      rw [List.countP_eq_zero]
      intro number member
      have before := (List.pairwise_cons.1 older).1 number member
      rw [decide_eq_true_eq]
      omega
    rw [none, if_neg right] at split
    split_ifs at split <;> omega

end Followed

/-- A recorded transition is made of the two newest names that wait, the origin read before the
target. They stand on the two sides of the `=` of their statement just where one of the names
that wait was read behind it: with none both stand before it, and with more both stand behind. -/
theorem sides_of_recorded_transition (recordsFaults : Bool) (items : List Item) (item : Item)
    (name : String) (transition : Transition)
    (records : ((Builder.new recordsFaults).run items).Records item name transition) :
    ∃ before equals inside, items = before ++ .token equals :: inside ∧ equals.type = .equals ∧
      let outer := (Builder.new recordsFaults).run before
      let current := (Followed.new recordsFaults).run items
      outer.StaysOpen equals inside ∧
        ((Builder.new recordsFaults).run items).frames = .transition :: outer.frames ∧
        (((Builder.new recordsFaults).run items).step item).frames = outer.frames ∧
        ∃ target targetName origin originName others,
          current.feeders = target :: origin :: others ∧ origin < target ∧
          items[target]?.bind Item.name? = some targetName ∧
          items[origin]?.bind Item.name? = some originName ∧
          transition.target = targetName.name ∧ transition.origin = originName.name ∧
          transition.location = some originName.location ∧
          let behind := current.feeders.countP (before.length < ·)
          (behind = 1 ↔ origin < before.length ∧ before.length < target) ∧
            (behind = 0 ↔ target < before.length) ∧
            (2 ≤ behind ↔ before.length < origin) := by
  obtain ⟨targetName, originName, completes, rfl⟩ := records.exists_completes
  have innermost := completes.frames
  obtain ⟨before, equals, inside, split, begins, same, stays⟩ :=
    Builder.exists_opening recordsFaults items completes.below
  rw [← same] at innermost
  refine ⟨before, equals, inside, split, TokenType.eq_equals_of_begins? begins, stays, innermost,
    same.symm, ?_⟩
  obtain ⟨names, waiting⟩ := completes.names
  have follows : ((Followed.new recordsFaults).run items).builder =
      (Builder.new recordsFaults).run items := Followed.builder_run _ items
  obtain ⟨target, origin, others, newest, fedTarget, fedOrigin, latest_first⟩ :=
    (Followed.sound_run recordsFaults items).newest (follows ▸ waiting)
  have apart {number : Nat} {fed : PendingName}
      (feeds : items[number]?.bind Item.name? = some fed) : number ≠ before.length := by
    rintro rfl
    rw [split, List.getElem?_append_right (Nat.le_refl _), Nat.sub_self,
      List.getElem?_cons_zero, Option.bind_some, Item.name?_of_begins? begins] at feeds
    cases feeds
  refine ⟨target, targetName, origin, originName, others, newest, ?_, fedTarget, fedOrigin, rfl,
    rfl, rfl, ?_⟩
  · exact (List.pairwise_cons.1 latest_first).1 origin List.mem_cons_self
  · obtain ⟨none, one, more⟩ := Followed.countP_behind latest_first before.length
    rw [newest]
    dsimp only
    rw [none, one, more]
    have targetApart := apart fedTarget
    have originApart := apart fedOrigin
    refine ⟨?_, ?_, Iff.rfl⟩ <;> omega

/-- The text `a{x=b{y=c;}z;`: of the waiting names `z`, `x` and `a` only `z` was read behind the
first `=`. -/
theorem sides_of_nested_statement :
    let items : List Item :=
      [.token (sampleToken .identifier "a" 1), .token (sampleToken .openBlock "\x7b" 2),
        .token (sampleToken .identifier "x" 3), .token (sampleToken .equals "=" 4),
        .token (sampleToken .identifier "b" 5), .token (sampleToken .openBlock "\x7b" 6),
        .token (sampleToken .identifier "y" 7), .token (sampleToken .equals "=" 8),
        .token (sampleToken .identifier "c" 9), .token (sampleToken .semicolon ";" 10),
        .token (sampleToken .closeBlock "\x7d" 11), .token (sampleToken .identifier "z" 12)]
    let item : Item := .token (sampleToken .semicolon ";" 13)
    let transition : Transition := ⟨some ⟨"sample", 1, 3⟩, "x", "z", .after⟩
    ((Builder.new true).run items).Records item "a" transition ∧
      ((Followed.new true).run items).feeders = [11, 2, 0] ∧
      ∃ before equals inside, items = before ++ .token equals :: inside ∧
        ((Builder.new true).run before).StaysOpen equals inside := by
  intro items item transition
  have records : ((Builder.new true).run items).Records item "a" transition := by decide
  obtain ⟨before, equals, inside, split, _, stays, _⟩ :=
    sides_of_recorded_transition true items item "a" transition records
  exact ⟨records, by decide, before, equals, inside, split, stays⟩

/-- The text `a{x y=;`: both names of the recorded transition stand before the `=`. -/
theorem both_names_before_equals :
    let before : List Item :=
      [.token (sampleToken .identifier "a" 1), .token (sampleToken .openBlock "\x7b" 2),
        .token (sampleToken .identifier "x" 3), .token (sampleToken .identifier "y" 5)]
    let equals := sampleToken .equals "=" 6
    let last : Item := .token (sampleToken .semicolon ";" 7)
    let outer := (Builder.new true).run before
    let opened := outer.step (.token equals)
    before.length = 4 ∧
      ((Followed.new true).run (before ++ [.token equals])).feeders = [3, 2, 0] ∧
      opened.frames = .transition :: outer.frames ∧ (opened.step last).frames = outer.frames ∧
      opened.Records last "a" ⟨some ⟨"sample", 1, 3⟩, "x", "y", .after⟩ ∧
      (opened.step last).table.diagnostics = [] := by
  decide

end StateDescription
