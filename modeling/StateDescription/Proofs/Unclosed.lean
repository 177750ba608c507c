import StateDescription.Proofs.Alignment
import StateDescription.Proofs.Modifiers
import StateDescription.Proofs.Provenance

/-!
What the end of a source reports. It looks at the names and modifiers that wait and at no
construct. But a group or block that is open has its owner among the names, the inner owner above
the outer one, and what waits has not been reported. So each open construct with an owner is
reported, the innermost first, and only then.
-/

namespace StateDescription

/-! ### Owners among the names -/

theorem Frame.owners_sublist_names (frames : List Frame) :
    (frames.filterMap Frame.owner?).Sublist (frames.flatMap Frame.names) := by
  induction frames with
  | nil => exact .slnil
  | cons frame frames ih =>
      rw [List.flatMap_cons, frame.names_eq, List.append_assoc]
      cases owns : frame.owner? with
      | none =>
          rw [List.filterMap_cons_none owns]
          exact ih.trans (List.sublist_append_right _ _)
      | some owner =>
          rw [List.filterMap_cons_some owns]
          exact (ih.trans (List.sublist_append_right _ _)).cons_cons owner

theorem Stacks.filterMap_owner_ofFrames (frames : List Frame) :
    (ofFrames frames).filterMap StackFrame.owner = frames.filterMap Frame.owner? := by
  induction frames with
  | nil => rfl
  | cons frame frames ih =>
      rw [ofFrames, List.filterMap_cons, List.filterMap_cons, ih]
      rfl

namespace Builder

variable {builder : Builder} {items : List Item} {item : Item}

theorem owners_sublist_pending (builder : Builder) :
    (builder.frames.filterMap Frame.owner?).Sublist builder.pending :=
  (Frame.owners_sublist_names builder.frames).trans (List.sublist_append_right _ _)

/-! ### The order of what waits -/

theorem Handles.waiting_sublist {handling : Handling} (handles : Handles builder item handling)
    (known : (builder.modifiers.map fun modifier => .token modifier.toToken).Sublist items) :
    ((handling.waiting builder.modifiers).map fun modifier => .token modifier.toToken).Sublist
      (items ++ [item]) := by
  have kept := known.trans (List.sublist_append_left items [item])
  cases handles with
  | keeps => exact kept
  | refuses => exact kept
  | admits modifier =>
      rw [Handling.waiting, List.map_append]
      exact known.append (.refl _)
  | _ => exact List.nil_sublist _

/-- The modifiers wait in the order in which they were read. -/
theorem modifiers_sublist_items (recordsFaults : Bool) (items : List Item) :
    (((new recordsFaults).run items).modifiers.map fun modifier =>
      Item.token modifier.toToken).Sublist items := by
  induction items using List.reverseRecOn with
  | nil => exact .slnil
  | append_singleton items item ih =>
      rw [run_concat, (handled_step _ item).modifiers]
      exact (handles_handling _ item).waiting_sublist ih

/-- Behind a run wait names that it read, in that order, and below them names that waited before. -/
theorem exists_pending_run (builder : Builder) (items : List Item) :
    ∃ fed kept, (builder.run items).pending = fed ++ kept ∧
      fed.reverse.Sublist (Item.namesOf items) ∧ kept <:+ builder.pending := by
  induction items using List.reverseRecOn with
  | nil => exact ⟨[], builder.pending, rfl, .slnil, List.suffix_refl _⟩
  | append_singleton items item ih =>
      obtain ⟨fed, kept, waiting, read, older⟩ := ih
      rw [run_concat, Item.namesOf, List.filterMap_append]
      rcases (passage_step (builder.run items) item).pending_cases with
        ⟨name, feeds, pushed⟩ | ⟨dropped, popped⟩
      · refine ⟨name :: fed, kept, ?_, ?_, older⟩
        · rw [pushed, waiting, List.cons_append]
        · rw [List.reverse_cons, List.filterMap_cons_some feeds]
          exact read.append (.refl _)
      · rw [waiting, List.append_eq_append_iff] at popped
        rcases popped with ⟨left, rfl, whole⟩ | ⟨gone, _, rfl⟩
        · refine ⟨left, kept, whole, ?_, older⟩
          rw [List.reverse_append] at read
          exact ((List.sublist_append_left _ _).trans read).trans (List.sublist_append_left _ _)
        · exact ⟨[], _, rfl, List.nil_sublist _, (List.suffix_append _ _).trans older⟩

/-- The names wait in the order in which they were read, the newest first. -/
theorem pending_sublist_names (recordsFaults : Bool) (items : List Item) :
    ((new recordsFaults).run items).pending.reverse.Sublist (Item.namesOf items) := by
  obtain ⟨fed, kept, waiting, read, older⟩ := exists_pending_run (new recordsFaults) items
  obtain rfl : kept = [] := List.suffix_nil.1 older
  rwa [waiting, List.append_nil]

/-! ### Feeding and finishing -/

theorem after_map_feed (recordsFaults : Bool) (items : List Item) :
    (new recordsFaults).after (items.map .feed) = (new recordsFaults).run items := by
  have taken : Call.taken (items.map .feed) = items := by
    induction items with
    | nil => rfl
    | cons item items ih => rw [List.map_cons, Call.taken, ih]
  have unfinished : .finish ∉ items.map Call.feed := by simp
  rw [after_eq rfl, if_neg unfinished, taken]

end Builder

theorem Stacks.after_map_feed (recordsFaults : Bool) (items : List Item) :
    (new recordsFaults).after (items.map .feed) =
      ofBuilder ((Builder.new recordsFaults).run items) := by
  obtain ⟨agrees, _⟩ := (agrees_ofBuilder (Builder.new recordsFaults)).after
    (Builder.ownersDeclared_new recordsFaults) (items.map .feed)
  rw [Builder.after_map_feed] at agrees
  exact agrees.eq_ofBuilder (Builder.finished_run _ items)

/-! ### Reported once -/

theorem filter_key_of_nodup {α β : Type} [DecidableEq α] [DecidableEq β] {key : α → β}
    {list : List α} (nodup : (list.map key).Nodup) {entry : α} (member : entry ∈ list) :
    list.filter (key · = key entry) = [entry] := by
  have only : ∀ other ∈ list, decide (key other = key entry) = decide (other = entry) := by
    intro other inside
    rw [decide_eq_decide]
    exact ⟨fun same => List.inj_on_of_nodup_map nodup inside member same, congrArg key⟩
  rw [List.filter_congr only, List.filter_eq, List.count_eq_one_of_mem (nodup.of_map key) member,
    List.replicate_one]

/-- The diagnostics of items at distinct places stand at distinct places. -/
theorem SymbolTable.nodup_locations_ofItems (recordsFaults : Bool) {items : List Item}
    (apart : (items.map Item.location?).Nodup) :
    ((ofItems recordsFaults items).diagnostics.map Diagnostic.location).Nodup := by
  rw [List.nodup_iff_count_le_one]
  intro location
  have accounted := Builder.subperm_locations_build recordsFaults items
  exact (accounted.count_le location).trans (List.nodup_iff_count_le_one.1 apart location)

theorem nodup_locations_of_subperm {file source : String} {items : List Item}
    (taken : items.Subperm (scan file source)) : (items.map Item.location?).Nodup := by
  obtain ⟨ordered, same, inside⟩ := taken
  have apart := (scan_segmented file source).1.nodup_locations
  exact (same.map Item.location?).nodup_iff.1 (apart.sublist (inside.map Item.location?))

theorem Stacks.perform_finish_ofBuilder {builder : Builder} (declared : builder.OwnersDeclared)
    (running : builder.finished = false) :
    ∃ last, perform .finish (ofBuilder builder) = .ok () last ∧
      last.table = builder.close.table ∧ last.names = [] ∧ last.modifiers = [] := by
  obtain ⟨last, returned, agrees⟩ := perform_ofBuilder declared running .finish
  rw [Builder.call, Builder.perform_finish_of_unfinished running] at agrees
  refine ⟨last, returned, ?_, ?_, ?_⟩
  · rw [agrees.rest]
    rfl
  · rw [agrees.rest]
    exact pending_close builder
  · rw [agrees.rest]
    rfl

end StateDescription
