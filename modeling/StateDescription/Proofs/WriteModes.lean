import StateDescription.Proofs.Constructs
import StateDescription.Proofs.RecordedTransitions

/-!
Write modes of statements. A builder keeps one write mode, which every `=` and every end of a
statement resets. So a transition is recorded with the first mode that its own statement selects
since the latest `=`, be that its own or that of a statement inside it.
-/

namespace StateDescription

def Item.mode? : Item → Option WriteMode
  | .token t => t.type.mode?
  | .fault _ => none

def Item.isEquals : Item → Bool
  | .token t => t.type = .equals
  | .fault _ => false

theorem TokenType.ne_after_of_mode? {type : TokenType} {mode : WriteMode}
    (selects : type.mode? = some mode) : mode ≠ .after := by
  unfold mode? at selects
  split at selects <;> cases selects <;> decide

theorem Item.ne_after_of_mode? {item : Item} {mode : WriteMode} (selects : item.mode? = some mode) :
    mode ≠ .after := by
  cases item with
  | token token => exact TokenType.ne_after_of_mode? selects
  | fault fault => cases selects

namespace Builder

variable {builder next : Builder} {item : Item} {items : List Item}

/-- The write mode that the first `^` or `%` selects that is read while just `depth` constructs
are open. -/
def selection? (depth : Nat) (builder : Builder) : List Item → Option WriteMode
  | [] => none
  | item :: items =>
    (if builder.frames.length = depth then item.mode? else none).or
      ((builder.step item).selection? depth items)

theorem ne_after_of_selection? {depth : Nat} {mode : WriteMode}
    (selects : builder.selection? depth items = some mode) : mode ≠ .after := by
  induction items generalizing builder with
  | nil => cases selects
  | cons item items ih =>
      rw [selection?, Option.or_eq_some_iff] at selects
      rcases selects with here | ⟨_, later⟩
      · split at here
        · exact Item.ne_after_of_mode? here
        · cases here
      · exact ih later

theorem selection?_of_own {around : List Frame} {mode : WriteMode}
    (innermost : builder.frames = .transition :: around) (selects : item.mode? = some mode) :
    builder.selection? (around.length + 1) (item :: items) = some mode := by
  rw [selection?, innermost, List.length_cons, if_pos rfl, selects, Option.some_or]

theorem selection?_of_foreign {above around : List Frame}
    (frames : builder.frames = above ++ .transition :: around)
    (foreign : above = [] → item.mode? = none) :
    builder.selection? (around.length + 1) (item :: items) =
      (builder.step item).selection? (around.length + 1) items := by
  rw [selection?]
  split
  · rename_i shallow
    rw [frames, List.length_append, List.length_cons] at shallow
    rw [foreign (List.eq_nil_of_length_eq_zero (by omega)), Option.none_or]
  · rw [Option.none_or]

/-! ### One item -/

theorem context_of_frames {frame : Frame} {around : List Frame}
    (innermost : builder.frames = frame :: around) : builder.context = frame.context := by
  rw [context, innermost]

theorem step_mode {token : Token} {mode : WriteMode} (selects : token.type.mode? = some mode)
    (inside : builder.context = .transition) :
    builder.step (.token token) =
      if builder.mode = .after then { builder with mode := mode }
      else builder.reject (.duplicateWriteMode token.value) token := by
  have read : builder.step (.token token) = builder.selectMode mode token := by
    change builder.stepToken token = _
    unfold stepToken
    unfold TokenType.mode? at selects
    split at selects <;> rename_i type <;> cases selects <;> rw [type]
  rw [read, selectMode, if_pos inside]

/-- The mode changes in statements only: by a selection, or when one begins or ends. -/
theorem Outcome.mode_eq (outcome : Outcome builder item next) (quiet : item.isEquals = false)
    (idle : builder.context = .transition →
      item.mode? = none ∧ builder.frames.length ≤ next.frames.length) :
    next.mode = builder.mode := by
  -- The end of a statement leaves a transition.
  have ends {around : List Frame} (innermost : builder.frames = .transition :: around)
      (frames : next.frames = around) : next.mode = builder.mode := by
    have deep := (idle (context_of_frames innermost)).2
    rw [innermost, frames, List.length_cons] at deep
    omega
  cases outcome with
  | opened =>
      change (builder.declare _).mode = _
      rw [declare_eq]
  | closed => rw [closeBody_eq]; rfl
  | modeSelected type inside unselected =>
      have none := (idle inside).1
      rw [Item.mode?, type] at none
      cases none
  | began type =>
      rw [Item.isEquals, type] at quiet
      cases quiet
  | received type innermost waiting =>
      exact ends innermost (frames_addTransition _ _ _ _ (builder.pastStatement _))
  | owned type innermost waiting owns =>
      exact ends innermost (frames_addTransition _ _ _ _ (builder.pastStatement _))
  | incomplete type innermost few => exact ends innermost rfl
  | _ => rfl

/-! ### Inside one statement -/

/-- With the constructs `above` open in it, a statement may yet select its mode: none is selected,
or another statement is open inside, which resets the mode when it ends. -/
def Unselected (builder : Builder) (above : List Frame) : Prop :=
  builder.mode = .after ∨ .transition ∈ above

/-- Only a `=` opens a statement among the constructs `above`, and only its end takes it away. -/
theorem exists_frames_above {above around : List Frame}
    (frames : builder.frames = above ++ .transition :: around)
    (quiet : item.isEquals = false) (deep : around.length < (builder.step item).frames.length) :
    ∃ inner, (builder.step item).frames = inner ++ .transition :: around ∧
      ((.transition ∈ inner ↔ .transition ∈ above) ∨
        .transition ∈ above ∧ (builder.step item).mode = .after) := by
  cases passage_step builder item with
  | names fed same names => exact ⟨above, same.trans frames, .inl Iff.rfl⟩
  | drops same names => exact ⟨above, same.trans frames, .inl Iff.rfl⟩
  | @opens token frame fed type opened names =>
      subst fed
      have body : .transition ≠ frame := by
        rintro rfl
        rw [Item.isEquals, TokenType.eq_equals_of_begins? type] at quiet
        exact absurd quiet (by decide)
      refine ⟨frame :: above, ?_, .inl ?_⟩
      · rw [opened, frames, List.cons_append]
      · rw [List.mem_cons, or_iff_right body]
  | @leaves frame left names settled =>
      cases above with
      | nil =>
          rw [left, List.nil_append, List.cons.injEq] at frames
          rw [frames.2] at deep
          exact absurd deep (Nat.lt_irrefl _)
      | cons innermost above =>
          rw [left, List.cons_append, List.cons.injEq] at frames
          obtain ⟨rfl, rest⟩ := frames
          refine ⟨above, rest, ?_⟩
          cases frame with
          | group site => exact .inl (by simp)
          | block site => exact .inl (by simp)
          | transition => exact .inr ⟨List.mem_cons_self, settled⟩

/-- An item that is not for a statement itself changes nothing about its selection. -/
theorem unselected_step {above around : List Frame}
    (frames : builder.frames = above ++ .transition :: around)
    (quiet : item.isEquals = false) (foreign : above = [] → item.mode? = none)
    (deep : around.length < (builder.step item).frames.length) :
    ∃ inner, (builder.step item).frames = inner ++ .transition :: around ∧
      ((builder.step item).Unselected inner ↔ builder.Unselected above) ∧
        (¬ builder.Unselected above → (builder.step item).mode = builder.mode) := by
  obtain ⟨inner, framesInner, kinds⟩ := exists_frames_above frames quiet deep
  refine ⟨inner, framesInner, ?_⟩
  by_cases nested : .transition ∈ above
  · have unselected : builder.Unselected above := .inr nested
    refine ⟨?_, fun selected => absurd unselected selected⟩
    refine iff_of_true ?_ unselected
    rcases kinds with same | ⟨_, reset⟩
    · exact .inr (same.2 nested)
    · exact .inl reset
  · have mode : (builder.step item).mode = builder.mode := by
      apply (outcome_step builder item).mode_eq quiet
      intro inside
      cases above with
      | nil =>
          rw [frames]
          exact ⟨foreign rfl, deep⟩
      | cons frame above =>
          rw [context_of_frames frames] at inside
          cases frame with
          | group site => cases inside
          | block site => cases inside
          | transition => exact absurd List.mem_cons_self nested
    have same : .transition ∈ inner ↔ .transition ∈ above := by
      rcases kinds with same | ⟨inside, _⟩
      · exact same
      · exact absurd inside nested
    refine ⟨?_, fun _ => mode⟩
    rw [Unselected, Unselected, mode, same]

theorem step_own {around : List Frame} {mode : WriteMode}
    (innermost : builder.frames = .transition :: around) (selects : item.mode? = some mode) :
    (builder.step item).frames = .transition :: around ∧
      (builder.step item).mode = if builder.mode = .after then mode else builder.mode := by
  cases item with
  | fault fault => cases selects
  | token token =>
      rw [step_mode selects (context_of_frames innermost)]
      split
      · exact ⟨innermost, rfl⟩
      · exact ⟨innermost, rfl⟩

theorem unselected_nil : builder.Unselected [] ↔ builder.mode = .after :=
  or_iff_left List.not_mem_nil

/-- Where a statement is innermost again, its mode is the first that it selected on the way, unless
one was selected before. -/
theorem mode_run {above around : List Frame}
    (frames : builder.frames = above ++ .transition :: around)
    (deep : ∀ read, read <+: items → around.length < (builder.run read).frames.length)
    (quiet : ∀ item ∈ items, item.isEquals = false)
    (last : (builder.run items).frames.length = around.length + 1) :
    (builder.Unselected above →
        (builder.run items).mode = (builder.selection? (around.length + 1) items).getD .after) ∧
      (¬ builder.Unselected above → (builder.run items).mode = builder.mode) := by
  induction items generalizing builder above with
  | nil =>
      rw [run_nil, frames, List.length_append, List.length_cons] at last
      obtain rfl := List.eq_nil_of_length_eq_zero (by omega : above.length = 0)
      refine ⟨?_, fun _ => rfl⟩
      rintro (unselected | nested)
      · exact unselected
      · cases nested
  | cons item items ih =>
      have deepNext := deep [item] ⟨items, rfl⟩
      rw [run_cons, run_nil] at deepNext
      have deepLater (read : List Item) (more : read <+: items) :
          around.length < ((builder.step item).run read).frames.length :=
        deep (item :: read) (List.cons_prefix_cons.2 ⟨rfl, more⟩)
      have quietLater : ∀ other ∈ items, other.isEquals = false :=
        fun other member => quiet other (List.mem_cons_of_mem _ member)
      -- Either the item is a selection of the statement itself, or it leaves its selection alone.
      by_cases own : above = [] ∧ item.mode?.isSome
      · obtain ⟨rfl, selects⟩ := own
        obtain ⟨mode, selects⟩ := Option.isSome_iff_exists.1 selects
        rw [List.nil_append] at frames
        obtain ⟨same, taken⟩ := step_own frames selects
        have kept := (@ih _ [] same deepLater quietLater last).2
        rw [unselected_nil, taken] at kept
        rw [run_cons, selection?_of_own frames selects, unselected_nil]
        refine ⟨fun unselected => ?_, fun chosen => ?_⟩
        · rw [if_pos unselected] at kept
          exact kept (Item.ne_after_of_mode? selects)
        · rw [if_neg chosen] at kept
          exact kept chosen
      · have foreign : above = [] → item.mode? = none := by
          intro innermost
          rw [← Option.not_isSome_iff_eq_none]
          exact fun selects => own ⟨innermost, selects⟩
        obtain ⟨inner, framesInner, same, kept⟩ :=
          unselected_step frames (quiet item List.mem_cons_self) foreign deepNext
        obtain ⟨unselected, selected⟩ := ih framesInner deepLater quietLater last
        rw [run_cons, selection?_of_foreign frames foreign]
        refine ⟨fun open_ => unselected (same.2 open_), fun closed => ?_⟩
        rw [selected (fun open_ => closed (same.1 open_)), kept closed]

theorem step_mode_again {above around : List Frame} {token : Token} {mode : WriteMode}
    (frames : builder.frames = above ++ .transition :: around)
    (deep : ∀ read, read <+: items → around.length < (builder.run read).frames.length)
    (quiet : ∀ item ∈ items, item.isEquals = false)
    (last : (builder.run items).frames.length = around.length + 1)
    (unselected : builder.Unselected above)
    (chosen : (builder.selection? (around.length + 1) items).isSome)
    (selects : token.type.mode? = some mode) :
    (builder.run items).step (.token token) =
      (builder.run items).reject (.duplicateWriteMode token.value) token := by
  obtain ⟨first, chosen⟩ := Option.isSome_iff_exists.1 chosen
  have taken := (mode_run frames deep quiet last).1 unselected
  rw [chosen, Option.getD_some] at taken
  have below : .transition :: around <:+ (builder.run items).frames :=
    frames_suffix_run (by rw [frames]; exact List.suffix_append _ _) deep
  have innermost := below.eq_of_length_le (Nat.le_of_eq last)
  rw [step_mode selects (context_of_frames innermost.symm), taken,
    if_neg (ne_after_of_selection? chosen)]

/-- The latest `=` is a place inside the statement where no mode is selected yet. -/
theorem StaysOpen.exists_unselected {outer : Builder} {equals latest : Token}
    {inside older later : List Item} (stays : outer.StaysOpen equals inside)
    (type : equals.type = .equals) (latestType : latest.type = .equals)
    (split : .token equals :: inside = older ++ .token latest :: later) :
    ∃ above, (outer.run (older ++ [.token latest])).frames =
        above ++ .transition :: outer.frames ∧
      (outer.run (older ++ [.token latest])).Unselected above ∧
      (∀ read, read <+: later →
        outer.frames.length < ((outer.run (older ++ [.token latest])).run read).frames.length) ∧
      (outer.run (older ++ [.token latest])).run later =
        (outer.step (.token equals)).run inside := by
  obtain ⟨reached, reach, rfl⟩ : ∃ reached, older ++ [.token latest] = .token equals :: reached ∧
      inside = reached ++ later := by
    rw [List.append_cons, List.cons_eq_append_iff] at split
    exact split.resolve_left fun empty => by simp at empty
  have mode : (outer.run (older ++ [.token latest])).mode = .after := by
    rw [run_append, run_cons, run_nil]
    exact (step_equals latestType _).2.2
  rw [reach, run_cons] at mode ⊢
  have early : outer.StaysOpen equals reached :=
    fun read more => stays read (more.trans (List.prefix_append _ _))
  obtain ⟨above, frames⟩ := early.suffix_run (step_equals type outer).1
  refine ⟨above, frames.symm, .inl mode, ?_, by rw [run_append]⟩
  intro read more
  rw [← run_append]
  exact stays _ ((List.prefix_append_right_inj reached).2 more)

end Builder

/-- A recorded transition has the first write mode that was selected while its own statement was
innermost and since the latest `=`, its own or one inside; any further selection in that time is
a duplicate and does nothing else. -/
theorem recorded_mode (recordsFaults : Bool) (items : List Item) (item : Item) (name : String)
    (transition : Transition)
    (records : ((Builder.new recordsFaults).run items).Records item name transition) :
    ∃ before equals inside, items = before ++ .token equals :: inside ∧ equals.type = .equals ∧
      let outer := (Builder.new recordsFaults).run before
      let depth := outer.frames.length + 1
      outer.StaysOpen equals inside ∧
        ((Builder.new recordsFaults).run items).frames = .transition :: outer.frames ∧
        (((Builder.new recordsFaults).run items).step item).frames = outer.frames ∧
        ∀ older latest later, .token equals :: inside = older ++ .token latest :: later →
          latest.type = .equals → (∀ other ∈ later, other.isEquals = false) →
          let since := outer.run (older ++ [.token latest])
          transition.mode = (since.selection? depth later).getD .after ∧
            ∀ first token mode rest, later = first ++ .token token :: rest →
              token.type.mode? = some mode → (since.run first).frames.length = depth →
              (since.selection? depth first).isSome →
              (since.run first).step (.token token) =
                (since.run first).reject (.duplicateWriteMode token.value) token := by
  obtain ⟨target, origin, completes, rfl⟩ := records.exists_completes
  have innermost := completes.frames
  obtain ⟨before, equals, inside, rfl, begins, same, stays⟩ :=
    Builder.exists_opening recordsFaults items completes.below
  have type := TokenType.eq_equals_of_begins? begins
  rw [← same] at innermost
  refine ⟨before, equals, inside, rfl, type, stays, innermost, same.symm, ?_⟩
  intro older latest later split latestType quiet since
  obtain ⟨above, frames, unselected, deep, whole⟩ :=
    stays.exists_unselected type latestType split
  rw [Builder.run_append, Builder.run_cons, ← whole] at innermost ⊢
  refine ⟨(Builder.mode_run frames deep quiet ?_).1 unselected, ?_⟩
  · rw [innermost, List.length_cons]
  · rintro first token mode rest rfl selects own chosen
    refine Builder.step_mode_again frames ?_ ?_ own unselected chosen selects
    · exact fun read more => deep read (more.trans (List.prefix_append _ _))
    · exact fun other member => quiet other (List.mem_append_left _ member)

/-- The text `a{x=^b{y=c;}%z;` up to its first `=`. -/
def nestedBefore : List Item :=
  [.token (sampleToken .identifier "a" 1), .token (sampleToken .openBlock "\x7b" 2),
    .token (sampleToken .identifier "x" 3)]

/-- What stands in the statement of that `=`. -/
def nestedInside : List Item :=
  [.token (sampleToken .caret "^" 5), .token (sampleToken .identifier "b" 6),
    .token (sampleToken .openBlock "\x7b" 7), .token (sampleToken .identifier "y" 8),
    .token (sampleToken .equals "=" 9), .token (sampleToken .identifier "c" 10),
    .token (sampleToken .semicolon ";" 11), .token (sampleToken .closeBlock "\x7d" 12),
    .token (sampleToken .percent "%" 13), .token (sampleToken .identifier "z" 14)]

theorem recorded_mode_of_nested :
    let items := nestedBefore ++ .token (sampleToken .equals "=" 4) :: nestedInside
    let item : Item := .token (sampleToken .semicolon ";" 15)
    let transition : Transition := ⟨some ⟨"sample", 1, 3⟩, "x", "z", .before⟩
    ((Builder.new true).run items).Records item "a" transition ∧
      ∃ before equals inside, items = before ++ .token equals :: inside ∧
        ((Builder.new true).run before).StaysOpen equals inside := by
  intro items item transition
  have records : ((Builder.new true).run items).Records item "a" transition := by decide
  obtain ⟨before, equals, inside, split, _, stays, _⟩ :=
    recorded_mode true items item "a" transition records
  exact ⟨records, before, equals, inside, split, stays⟩

/-- A statement that selects `^`, holds another statement and selects `%` behind it is recorded
with the second mode, and the second selection is no duplicate. -/
theorem selection_lost_behind_nested_statement :
    let outer := (Builder.new true).run nestedBefore
    let opened := outer.step (.token (sampleToken .equals "=" 4))
    let current := opened.run nestedInside
    outer.StaysOpen (sampleToken .equals "=" 4) nestedInside ∧
      opened.selection? (outer.frames.length + 1) nestedInside = some .never ∧
      current.Records (.token (sampleToken .semicolon ";" 15)) "a"
        ⟨some ⟨"sample", 1, 3⟩, "x", "z", .before⟩ ∧
      (current.step (.token (sampleToken .semicolon ";" 15))).table.diagnostics = [] := by
  decide

end StateDescription
