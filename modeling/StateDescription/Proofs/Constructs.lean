import Mathlib.Data.List.DropRight
import Mathlib.Data.List.Infix
import StateDescription.Proofs.StackAgreement

/-!
Constructs from their opening to their end. An item opens one construct, leaves the innermost
one, or lets the open constructs be. So whatever stands inside a construct, the constructs and
names around it wait unchanged, and they are what is left when the construct ends.
-/

namespace StateDescription

def TokenType.begins? : TokenType → Option Context
  | openGroup => some .group
  | openBlock => some .block
  | equals => some .transition
  | _ => none

theorem TokenType.begins?_of_opens? {type : TokenType} {frame : Option Site → Frame}
    (opens : type.opens? = some frame) (site : Option Site) :
    type.begins? = some (frame site).context := by
  unfold opens? at opens
  split at opens <;> cases opens <;> rfl

theorem TokenType.begins?_cases {type : TokenType} {context : Context}
    (begins : type.begins? = some context) :
    (∃ frame, type.opens? = some frame ∧ ∀ site, (frame site).context = context) ∨
      type = .equals ∧ context = .transition := by
  unfold begins? at begins
  split at begins <;> cases begins
  · exact .inl ⟨.group, rfl, fun _ => rfl⟩
  · exact .inl ⟨.block, rfl, fun _ => rfl⟩
  · exact .inr ⟨rfl, rfl⟩

theorem TokenType.eq_equals_of_begins? {type : TokenType}
    (begins : type.begins? = some .transition) : type = .equals := by
  unfold begins? at begins
  split at begins <;> cases begins
  rfl

theorem TokenType.ne_transition_of_closes? {type : TokenType} {context : Context}
    (closes : type.closes? = some context) : context ≠ .transition := by
  unfold closes? at closes
  split at closes <;> cases closes <;> decide

/-- The name that an item adds to those that wait, where it may. -/
def Item.name? : Item → Option PendingName
  | .token ⟨.identifier, value, location⟩ => some ⟨value, location, false⟩
  | .token ⟨.atSign, _, location⟩ => some ⟨"@", location, true⟩
  | .token ⟨.dot, _, location⟩ => some ⟨".", location, true⟩
  | _ => none

/-- The names that wait again when the frame is left. -/
def Frame.around (frame : Frame) : List PendingName :=
  (frame.site?.map Site.around).getD []

theorem Frame.names_eq (frame : Frame) : frame.names = frame.owner?.toList ++ frame.around := by
  unfold names owner? around
  cases frame.site? <;> rfl

namespace Builder

variable {builder next : Builder} {item : Item} {token : Token}

theorem Names.name?_eq {name : PendingName} (names : Names builder token name) :
    (Item.token token).name? = some name := by
  obtain ⟨type, value, location⟩ := token
  cases names with
  | identifier same => cases same; rfl
  | broadcast same => cases same; rfl
  | stay same => cases same; rfl

/-! ### One item -/

/-- Behind a group or block no modifier waits, and behind a transition no mode is selected. -/
def Settled (builder : Builder) (context : Context) : Prop :=
  if context = .transition then builder.mode = .after
  else builder.roles = .through ∧ builder.modifiers = []

/-- What an item does to the open constructs and the names in them. -/
inductive Passage (builder : Builder) (item : Item) (next : Builder) : Prop
  | names {name : PendingName} (fed : item.name? = some name)
      (frames : next.frames = builder.frames) (names : next.names = name :: builder.names)
  | drops (frames : next.frames = builder.frames) (names : next.names <:+ builder.names)
  | opens {token : Token} {frame : Frame} (fed : item = .token token)
      (type : token.type.begins? = some frame.context)
      (frames : next.frames = frame :: builder.frames)
      (names : next.names ++ frame.names = builder.names)
  | leaves {frame : Frame} (frames : builder.frames = frame :: next.frames)
      (names : next.names = frame.around) (settled : next.Settled frame.context)

theorem closeBody_eq (frame : Frame) (around : List Frame) (builder : Builder) :
    builder.closeBody frame around =
      { (builder.dropModifiers.leave frame around).dropNames with names := frame.around } := by
  unfold closeBody Frame.around
  cases frame.site? <;> rfl

theorem passage_pastStatement {around : List Frame}
    (innermost : builder.frames = .transition :: around) (frames : next.frames = around)
    (names : next.names = []) (mode : next.mode = .after) : Passage builder item next := by
  have left : builder.frames = .transition :: next.frames := by
    rw [innermost, frames]
  exact .leaves left names mode

theorem Outcome.passage (outcome : Outcome builder item next) : Passage builder item next := by
  cases outcome with
  | named names => exact .names names.name?_eq rfl rfl
  | @opened token frame owner around type waiting =>
      refine .opens rfl (TokenType.begins?_of_opens? type (some ⟨owner, around⟩)) ?_ ?_
      · exact congrArg (List.cons _) (frames_declare owner builder)
      · rw [TokenType.names_of_opens? type, waiting]
        rfl
  | @openedBare token frame type waiting =>
      refine .opens rfl (TokenType.begins?_of_opens? type none) rfl ?_
      rw [TokenType.names_none_of_opens? type, List.append_nil]
      rfl
  | @closed token frame around type innermost =>
      have inside := TokenType.ne_transition_of_closes? type
      rw [closeBody_eq]
      refine .leaves innermost rfl ?_
      rw [Builder.Settled, if_neg inside]
      exact ⟨rfl, rfl⟩
  | @began token type =>
      have begins : token.type.begins? = some Frame.transition.context := by
        rw [type]
        rfl
      exact .opens rfl begins rfl (List.append_nil _)
  | @received token around target origin receiver others type innermost waiting =>
      apply passage_pastStatement innermost
      · exact frames_addTransition _ _ _ _ (builder.pastStatement around)
      · exact names_addTransition _ _ _ _ (builder.pastStatement around)
      · exact mode_addTransition _ _ _ _ (builder.pastStatement around)
  | @owned token around target origin owner type innermost waiting owns =>
      apply passage_pastStatement innermost
      · exact frames_addTransition _ _ _ _ (builder.pastStatement around)
      · exact names_addTransition _ _ _ _ (builder.pastStatement around)
      · exact mode_addTransition _ _ _ _ (builder.pastStatement around)
  | incomplete type innermost few => exact passage_pastStatement innermost rfl rfl rfl
  | @nameDropped token name names type outside waiting =>
      refine .drops rfl ?_
      rw [waiting]
      exact List.suffix_cons name names
  | _ => exact .drops rfl (List.suffix_refl _)

theorem passage_step (builder : Builder) (item : Item) :
    Passage builder item (builder.step item) :=
  (outcome_step builder item).passage

theorem Passage.pending_cases (passage : Passage builder item next) :
    (∃ name, item.name? = some name ∧ next.pending = name :: builder.pending) ∨
      next.pending <:+ builder.pending := by
  cases passage with
  | @names name fed frames names =>
      left
      refine ⟨name, fed, ?_⟩
      rw [pending, pending, frames, names, List.cons_append]
  | drops frames names =>
      right
      obtain ⟨dropped, kept⟩ := names
      refine ⟨dropped, ?_⟩
      rw [pending, pending, frames, ← List.append_assoc, kept]
  | opens fed type frames names =>
      right
      rw [pending, pending, frames, List.flatMap_cons, ← List.append_assoc, names]
  | @leaves frame frames names settled =>
      right
      refine ⟨builder.names ++ frame.owner?.toList, ?_⟩
      rw [pending, pending, frames, names, List.flatMap_cons, frame.names_eq, List.append_assoc,
        List.append_assoc]

/-- The owner that a statement belongs to waits. -/
theorem mem_pending_of_owns {frame : Frame} {around : List Frame} {owner : PendingName}
    (innermost : builder.frames = frame :: around) (owns : innermostOwner? around = some owner) :
    owner ∈ builder.pending := by
  rw [← Stacks.head?_flatMap_names] at owns
  rw [pending, innermost, List.flatMap_cons]
  exact List.mem_append_right _ (List.mem_append_right _ (List.mem_of_head? owns))

/-! ### Below a depth -/

theorem frames_suffix_run {frames : List Frame} {items : List Item}
    (below : frames <:+ builder.frames)
    (deep : ∀ read, read <+: items → frames.length ≤ (builder.run read).frames.length) :
    frames <:+ (builder.run items).frames := by
  induction items generalizing builder with
  | nil => exact below
  | cons item items ih =>
      have first := deep [item] ⟨items, rfl⟩
      rw [run_cons, run_nil] at first
      apply ih
      · cases passage_step builder item with
        | names fed frames names => rwa [frames]
        | drops frames names => rwa [frames]
        | opens fed type frames names =>
            rw [frames]
            exact below.trans (List.suffix_cons _ _)
        | leaves frames names settled =>
            -- The frame that is left lies above `frames`: else too few would be open behind it.
            rw [frames, List.suffix_cons_iff] at below
            rcases below with same | below
            · rw [same, List.length_cons] at first
              omega
            · exact below
      · intro read more
        exact deep (item :: read) (List.cons_prefix_cons.2 ⟨rfl, more⟩)

/-- An item that goes below a frame leaves it, and found it innermost. -/
theorem exists_left {frame : Frame} {around : List Frame}
    (below : frame :: around <:+ builder.frames)
    (left : (builder.step item).frames.length ≤ around.length) :
    builder.frames = frame :: around ∧ (builder.step item).frames = around ∧
      (builder.step item).names = frame.around ∧
        (builder.step item).Settled frame.context := by
  have deep := below.length_le
  rw [List.length_cons] at deep
  cases passage_step builder item with
  | names fed frames names =>
      rw [frames] at left
      omega
  | drops frames names =>
      rw [frames] at left
      omega
  | opens fed type frames names =>
      rw [frames, List.length_cons] at left
      omega
  | @leaves innermost frames names settled =>
      have same : frame :: around = builder.frames := by
        apply below.eq_of_length_le
        rw [frames, List.length_cons, List.length_cons]
        omega
      rw [frames, List.cons.injEq] at same
      obtain ⟨rfl, rfl⟩ := same
      exact ⟨frames, rfl, names, settled⟩

/-- Below an open frame wait the names that it and the frames around it keep. -/
theorem rtake_pending {frames : List Frame} (below : frames <:+ builder.frames) :
    builder.pending.rtake (Stacks.topFrame frames).base = frames.flatMap Frame.names := by
  obtain ⟨inner, whole⟩ := below
  rw [Stacks.base_topFrame, pending, ← whole, List.flatMap_append, ← List.append_assoc,
    List.rtake_eq_reverse_take_reverse, List.reverse_append, ← List.length_reverse,
    List.take_left', List.reverse_reverse]
  rfl

/-! ### From the opening to the end -/

/-- The construct that a token opens stays open along the items behind it. -/
def StaysOpen (outer : Builder) (token : Token) (items : List Item) : Prop :=
  ∀ read, read <+: items →
    outer.frames.length < ((outer.step (.token token)).run read).frames.length

instance (outer : Builder) (token : Token) (items : List Item) :
    Decidable (outer.StaysOpen token items) :=
  decidable_of_iff
    (∀ read ∈ items.inits,
      outer.frames.length < ((outer.step (.token token)).run read).frames.length)
    (by simp only [StaysOpen, List.mem_inits])

theorem StaysOpen.suffix_run {outer : Builder} {inside : List Item} {frame : Frame}
    (stays : outer.StaysOpen token inside)
    (frames : (outer.step (.token token)).frames = frame :: outer.frames) :
    frame :: outer.frames <:+ ((outer.step (.token token)).run inside).frames := by
  refine frames_suffix_run ?_ stays
  rw [frames]

theorem step_of_opens? {frame : Option Site → Frame} (opens : token.type.opens? = some frame)
    (builder : Builder) : builder.step (.token token) = builder.openBody frame token := by
  change builder.stepToken token = _
  unfold stepToken
  unfold TokenType.opens? at opens
  split at opens <;> rename_i type <;> cases opens <;> rw [type]

/-- A group or block takes the names that wait: the newest is its owner. -/
theorem step_body {frame : Option Site → Frame} (opens : token.type.opens? = some frame)
    (outer : Builder) :
    ∃ site, (outer.step (.token token)).frames = frame site :: outer.frames ∧
      (outer.step (.token token)).names = [] ∧ (frame site).names = outer.names := by
  rw [step_of_opens? opens, openBody]
  cases waiting : outer.names with
  | nil => exact ⟨none, rfl, waiting, TokenType.names_none_of_opens? opens⟩
  | cons owner around =>
      refine ⟨some ⟨owner, around⟩, ?_, rfl, TokenType.names_of_opens? opens _⟩
      exact congrArg (List.cons _) (frames_declare owner outer)

theorem step_equals (type : token.type = .equals) (outer : Builder) :
    (outer.step (.token token)).frames = .transition :: outer.frames ∧
      (outer.step (.token token)).names = outer.names ∧
        (outer.step (.token token)).mode = .after := by
  have read : outer.step (.token token) = outer.beginTransition := by
    change outer.stepToken token = _
    rw [stepToken, type]
  rw [read]
  exact ⟨rfl, rfl, rfl⟩

theorem step_begins {context : Context} (begins : token.type.begins? = some context)
    (outer : Builder) :
    ∃ frame, (outer.step (.token token)).frames = frame :: outer.frames ∧
      frame.context = context ∧ (outer.step (.token token)).names ++ frame.names = outer.names ∧
        (context ≠ .transition → (outer.step (.token token)).names = []) := by
  rcases TokenType.begins?_cases begins with ⟨frame, opens, same⟩ | ⟨type, rfl⟩
  · obtain ⟨site, frames, emptied, kept⟩ := step_body opens outer
    refine ⟨frame site, frames, same site, ?_, fun _ => emptied⟩
    rw [emptied, kept, List.nil_append]
  · obtain ⟨frames, names, _⟩ := step_equals type outer
    refine ⟨.transition, frames, rfl, ?_, fun other => absurd rfl other⟩
    rw [names]
    exact List.append_nil _

theorem StaysOpen.concat {outer : Builder} {inside : List Item}
    (stays : outer.StaysOpen token inside)
    (deep : outer.frames.length <
      ((outer.step (.token token)).run (inside ++ [item])).frames.length) :
    outer.StaysOpen token (inside ++ [item]) := by
  intro read more
  rcases List.prefix_concat_iff.1 more with rfl | before
  · exact deep
  · exact stays read before

/-- Every open construct was opened by a token, and has stayed open since. -/
theorem exists_opening (recordsFaults : Bool) (items : List Item) {frame : Frame}
    {around : List Frame} (below : frame :: around <:+ ((new recordsFaults).run items).frames) :
    ∃ before token inside, items = before ++ .token token :: inside ∧
      token.type.begins? = some frame.context ∧
        ((new recordsFaults).run before).frames = around ∧
          ((new recordsFaults).run before).StaysOpen token inside := by
  induction items using List.reverseRecOn with
  | nil => exact absurd below.length_le (Nat.not_succ_le_zero _)
  | append_singleton items item ih =>
      -- A frame that lay there before the last item was opened by an earlier one.
      have earlier (older : frame :: around <:+ ((new recordsFaults).run items).frames) :
          ∃ before token inside, items ++ [item] = before ++ .token token :: inside ∧
            token.type.begins? = some frame.context ∧
              ((new recordsFaults).run before).frames = around ∧
                ((new recordsFaults).run before).StaysOpen token inside := by
        obtain ⟨before, token, inside, rfl, begins, outer, stays⟩ := ih older
        refine ⟨before, token, inside ++ [item], by simp, begins, outer, stays.concat ?_⟩
        have deep := below.length_le
        rw [List.append_assoc, List.cons_append, run_append, run_cons] at deep
        rw [outer]
        exact deep
      rw [run_append, run_cons, run_nil] at below
      cases passage_step ((new recordsFaults).run items) item with
      | names fed frames names => exact earlier (frames ▸ below)
      | drops frames names => exact earlier (frames ▸ below)
      | leaves frames names settled =>
          refine earlier (below.trans ?_)
          rw [frames]
          exact List.suffix_cons _ _
      | @opens token opened fed type frames names =>
          rw [frames, List.suffix_cons_iff] at below
          rcases below with new | older
          · rw [List.cons.injEq] at new
            obtain ⟨rfl, outer⟩ := new
            subst fed
            refine ⟨items, token, [], rfl, type, outer.symm, ?_⟩
            intro read more
            rw [List.prefix_nil.1 more, run_nil, frames]
            exact Nat.lt_succ_self _
          · exact earlier older

end Builder

/-- Whatever stands inside a construct, nothing below it changes, and when it is left the
constructs around it are as they were. A group or block has used up its owner and no other name;
a transition has used up the names of the construct around it. -/
theorem constructs_restore_stacks (outer : Builder) (token : Token) (inside : List Item)
    (begins : token.type.begins?.isSome) (stays : outer.StaysOpen token inside) :
    let opened := outer.step (.token token)
    let pushed := Stacks.topFrame opened.frames
    let current := opened.run inside
    Stacks.ofFrames opened.frames = pushed :: Stacks.ofFrames outer.frames ∧
      token.type.begins? = some pushed.context ∧
      current.pending.rtake pushed.base = outer.pending.rtake pushed.base ∧
      ∀ last, (current.step last).frames.length ≤ outer.frames.length →
        let left := current.step last
        left.frames = outer.frames ∧
          (pushed.context ≠ .transition →
            outer.pending = pushed.owner.toList ++ left.pending ∧
              left.roles = .through ∧ left.modifiers = []) ∧
          (pushed.context = .transition →
            left.pending = outer.pending.rtake (Stacks.topFrame outer.frames).base ∧
              left.mode = .after) := by
  intro opened pushed current
  obtain ⟨context, begins⟩ := Option.isSome_iff_exists.1 begins
  obtain ⟨frame, frames, rfl, kept, emptied⟩ := Builder.step_begins begins outer
  have top : pushed = Stacks.topFrame (frame :: outer.frames) := by
    rw [← frames]
  have context : pushed.context = frame.context := by
    rw [top]
    rfl
  have pending : opened.pending = outer.pending := by
    rw [Builder.pending, frames, List.flatMap_cons, ← List.append_assoc, kept]
    rfl
  have below : frame :: outer.frames <:+ current.frames := stays.suffix_run frames
  refine ⟨?_, ?_, ?_, ?_⟩
  · rw [frames, top]
    rfl
  · rw [begins, context]
  · have unread : frame :: outer.frames <:+ opened.frames := by
      rw [frames]
    rw [top, Builder.rtake_pending below, ← pending, Builder.rtake_pending unread]
  · -- The frame is still there, so the item that goes below it leaves just this frame.
    intro last shallow left
    obtain ⟨_, restored, names, settled⟩ := Builder.exists_left below shallow
    have rest : left.pending = frame.around ++ outer.frames.flatMap Frame.names := by
      rw [Builder.pending, names, restored]
    refine ⟨restored, ?_, ?_⟩
    · intro body
      rw [context] at body
      have emptied : opened.names = [] := emptied body
      rw [emptied, List.nil_append] at kept
      have owner : pushed.owner = frame.owner? := by
        rw [top]
        rfl
      rw [Builder.Settled, if_neg body] at settled
      refine ⟨?_, settled⟩
      rw [Builder.pending, rest, owner, ← kept, frame.names_eq, List.append_assoc]
    · intro transition
      rw [context] at transition
      rw [Builder.Settled, if_pos transition] at settled
      refine ⟨?_, settled⟩
      cases frame with
      | group site => cases transition
      | block site => cases transition
      | transition =>
          rw [rest, Builder.rtake_pending (List.suffix_refl _)]
          rfl

def sampleToken (type : TokenType) (text : String) (column : Int) : Token :=
  ⟨type, text, ⟨"sample", 1, column⟩⟩

/-- The text `a{b(x=c};d)`: the group of `b` is left by the last bracket, with a name too many. -/
theorem stacks_restored_behind_malformed_group :
    let outer := (Builder.new true).run
      [.token (sampleToken .identifier "a" 1), .token (sampleToken .openBlock "\x7b" 2),
        .token (sampleToken .identifier "b" 3)]
    let opening := sampleToken .openGroup "(" 4
    let inside : List Item :=
      [.token (sampleToken .identifier "x" 5), .token (sampleToken .equals "=" 6),
        .token (sampleToken .identifier "c" 7), .token (sampleToken .closeBlock "\x7d" 8),
        .token (sampleToken .semicolon ";" 9), .token (sampleToken .identifier "d" 10)]
    let closing : Item := .token (sampleToken .closeGroup ")" 11)
    let left := ((outer.step (.token opening)).run inside).step closing
    outer.StaysOpen opening inside ∧ left.frames = outer.frames ∧
      outer.pending = ⟨"b", ⟨"sample", 1, 3⟩, false⟩ :: left.pending := by
  intro outer opening inside closing left
  have stays : outer.StaysOpen opening inside := by decide
  obtain ⟨_, _, _, restores⟩ := constructs_restore_stacks outer opening inside (by decide) stays
  obtain ⟨frames, body, _⟩ := restores closing (by decide)
  exact ⟨stays, frames, (body (by decide)).1⟩

end StateDescription
