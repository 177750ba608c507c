import Mathlib.Data.List.Nodup
import Mathlib.Data.List.Perm.Subperm
import StateDescription.Proofs.Owners
import StateDescription.Proofs.Positions

/-!
Where diagnostics stand. An item is either spent or waits, as a name or as a modifier, and it
stops waiting when it is reported, so no item is reported twice.
-/

namespace StateDescription

def PendingName.place (name : PendingName) : Option Location :=
  some name.location

def Modifier.place (modifier : Modifier) : Option Location :=
  some modifier.location

@[simp] theorem map_location_unclosed (names : List PendingName) :
    (names.map PendingName.unclosed).map Diagnostic.location = names.map PendingName.place :=
  List.map_map

@[simp] theorem map_location_unattached (modifiers : List Modifier) :
    (modifiers.map Modifier.unattached).map Diagnostic.location =
      modifiers.map Modifier.place :=
  List.map_map

@[simp] theorem map_location_duplicate (modifiers : List Modifier) :
    (modifiers.map Modifier.duplicate).map Diagnostic.location =
      modifiers.map Modifier.place :=
  List.map_map

namespace Builder

variable (location : Option Location) {builder : Builder}

/-- The places of all diagnostics, of the names that wait and of the modifiers that wait. -/
def places (builder : Builder) : List (Option Location) :=
  builder.table.diagnostics.map Diagnostic.location ++ builder.pending.map PendingName.place ++
    builder.modifiers.map Modifier.place

theorem count_places_reportAll (diagnostics : List Diagnostic) (builder : Builder) :
    (builder.reportAll diagnostics).places.count location =
      builder.places.count location +
        (diagnostics.map Diagnostic.location).count location := by
  simp only [places, pending, reportAll, SymbolTable.diagnostics_addDiagnostics,
    List.map_append, List.count_append]
  omega

theorem count_places_reject (problem : SemanticProblem) (token : Token) (builder : Builder) :
    (builder.reject problem token).places.count location =
      builder.places.count location + [some token.location].count location :=
  count_places_reportAll location [_] builder

theorem count_places_enter (frame : Frame) (builder : Builder) :
    (builder.enter frame).places.count location =
      builder.places.count location +
        (frame.names.map PendingName.place).count location := by
  simp only [places, pending, enter, List.map_append, List.count_append, List.flatMap_cons]
  omega

@[simp] theorem count_places_dropModifiers (builder : Builder) :
    builder.dropModifiers.places.count location = builder.places.count location := by
  simp only [places, pending, dropModifiers, reportAll, clearModifiers,
    SymbolTable.diagnostics_addDiagnostics, List.map_append, List.count_append,
    map_location_unattached, List.map_nil, List.count_nil]
  omega

/-- Of the modifiers of a declaration some are reported, and none waits any longer. -/
theorem count_places_declare_le (owner : PendingName) (builder : Builder) :
    (builder.declare owner).clearModifiers.places.count location ≤
      builder.places.count location := by
  rw [declare]
  split
  · simp [places, pending, clearModifiers]
  · rename_i object found
    have fewer : ((builder.modifiers.filter fun modifier =>
        modifier.role ∈ object.roles).map Modifier.place).count location ≤
          (builder.modifiers.map Modifier.place).count location :=
      (List.filter_sublist.map _).count_le _
    simp only [places, pending, clearModifiers, reportAll, SymbolTable.diagnostics_modify,
      SymbolTable.diagnostics_addDiagnostics, List.map_append, List.count_append,
      map_location_duplicate, List.map_nil, List.count_nil]
    omega

/-- The names that waited around a construct wait in its frame. -/
theorem count_places_open_le {frame : Frame} (owner : PendingName)
    (kept : frame.names = builder.names) :
    ({ (builder.declare owner).clearModifiers with names := [] }.enter frame).places.count
        location ≤ builder.places.count location := by
  have moved : ({ (builder.declare owner).clearModifiers with names := [] }.enter
      frame).places = (builder.declare owner).clearModifiers.places := by
    simp only [places, pending, enter, List.flatMap_cons, kept, List.nil_append]
    simp [clearModifiers]
  rw [moved]
  exact count_places_declare_le location owner builder

/-- The names that are left in a construct are reported, and its owner is forgotten. -/
theorem count_places_closeBody_le {frame : Frame} {around : List Frame}
    (innermost : builder.frames = frame :: around) :
    (builder.closeBody frame around).places.count location ≤
      builder.places.count location := by
  unfold closeBody
  dsimp only
  split
  · rename_i site held
    have kept : frame.names = site.owner :: site.around := by
      rw [Frame.names, held]
    simp only [places, pending, dropModifiers, reportAll, clearModifiers, dropNames, leave,
      innermost, kept, SymbolTable.diagnostics_addDiagnostics, List.map_append,
      List.count_append, map_location_unattached, map_location_unclosed, List.map_nil,
      List.count_nil, List.flatMap_cons, List.map_cons, List.count_cons]
    omega
  · rename_i bare
    have kept : frame.names = [] := by
      rw [Frame.names, bare]
    simp only [places, pending, dropModifiers, reportAll, clearModifiers, dropNames, leave,
      innermost, kept, SymbolTable.diagnostics_addDiagnostics, List.map_append,
      List.count_append, map_location_unattached, map_location_unclosed, List.map_nil,
      List.count_nil, List.flatMap_cons, List.nil_append]
    omega

/-- A transition of an object is reported, if at all, at its origin. -/
theorem count_places_addTransition_le {receiver : PendingName} {object : Object}
    (origin target : PendingName) (mode : WriteMode)
    (found : builder.table.find? receiver.name = some object) :
    (builder.addTransition receiver origin target mode).places.count location ≤
      builder.places.count location + [origin.place].count location := by
  rw [addTransition, found]
  dsimp only
  split
  · exact Nat.le_add_right _ _
  · rename_i previous _
    exact Nat.le_of_eq (count_places_reportAll location [_] builder)

theorem count_places_addTransition_of_none {receiver : PendingName}
    (origin target : PendingName) (mode : WriteMode)
    (missing : builder.table.find? receiver.name = none) :
    (builder.addTransition receiver origin target mode).places.count location =
      builder.places.count location + [receiver.place].count location := by
  rw [addTransition, missing]
  exact count_places_reportAll location [_] builder

theorem count_places_addTransition_le_add (receiver origin target : PendingName)
    (mode : WriteMode) (builder : Builder) :
    (builder.addTransition receiver origin target mode).places.count location ≤
      builder.places.count location +
        ([origin.place].count location + [receiver.place].count location) := by
  cases found : builder.table.find? receiver.name with
  | none =>
      have reported := count_places_addTransition_of_none location origin target mode found
      omega
  | some object =>
      have reported := count_places_addTransition_le location origin target mode found
      omega

theorem count_places_pastStatement {around : List Frame}
    (innermost : builder.frames = .transition :: around) :
    (builder.pastStatement around).places.count location +
        (builder.names.map PendingName.place).count location =
      builder.places.count location := by
  have kept : Frame.transition.names = [] := rfl
  simp only [places, pending, pastStatement, leave, innermost, kept, List.map_append,
    List.count_append, List.flatMap_cons, List.nil_append]
  omega

theorem Names.place_eq {token : Token} {name : PendingName} (names : Names builder token name) :
    name.place = some token.location := by
  cases names <;> rfl

/-- An item puts nothing but its own place among those that are reported or wait. -/
theorem Outcome.count_places_le {item : Item} {next : Builder}
    (outcome : Outcome builder item next) (declared : OwnersDeclared builder) :
    next.places.count location ≤
      builder.places.count location + [item.location?].count location := by
  cases outcome with
  | comment => exact Nat.le_add_right _ _
  | faultRecorded => exact Nat.le_of_eq (count_places_reportAll location [_] builder)
  | faultDropped => exact Nat.le_add_right _ _
  | rejected => exact Nat.le_of_eq (count_places_reject location _ _ builder)
  | @named token name names =>
      have own := names.place_eq
      simp only [places, pending, pushName, List.map_append, List.map_cons, own,
        List.count_append, List.count_cons, Item.location?, List.count_nil]
      omega
  | @opened token frame owner around type waiting =>
      have kept : (frame (some ⟨owner, around⟩)).names = builder.names := by
        rw [TokenType.names_of_opens? type, waiting]
      exact (count_places_open_le location owner kept).trans (Nat.le_add_right _ _)
  | @openedBare token frame type waiting =>
      have kept := TokenType.names_none_of_opens? type
      have rejected := count_places_reject location
        (.expectedIdentifier token.value) token builder
      have cleared : ((builder.reject (.expectedIdentifier token.value) token).clearModifiers
          ).places.count location ≤
            (builder.reject (.expectedIdentifier token.value) token).places.count location := by
        simp only [places, pending, clearModifiers, List.count_append, List.map_nil,
          List.count_nil]
        omega
      rw [count_places_enter, kept]
      simp only [List.map_nil, List.count_nil, Item.location?]
      omega
  | closed type innermost =>
      exact (count_places_closeBody_le location innermost).trans (Nat.le_add_right _ _)
  | valued => exact Nat.le_add_right _ _
  | literalDropped => exact Nat.le_add_right _ _
  | modified =>
      simp only [places, pending, List.map_append, List.map_cons, List.map_nil,
        List.count_append, Item.location?, Modifier.place]
      omega
  | modeSelected => exact Nat.le_add_right _ _
  | began =>
      have dropped := count_places_dropModifiers location builder
      have entered := count_places_enter location .transition
        { builder.dropModifiers with mode := .after }
      exact (entered.trans dropped).le.trans (Nat.le_add_right _ _)
  | @received token around target origin receiver others type innermost waiting =>
      have past := count_places_pastStatement location innermost
      rw [waiting] at past
      rw [count_places_reportAll, map_location_unclosed]
      have added := count_places_addTransition_le_add location receiver origin target
        builder.mode (builder.pastStatement around)
      simp only [List.map_cons, List.count_cons, List.count_nil] at past added
      omega
  | @owned token around target origin owner type innermost waiting owns =>
      have past := count_places_pastStatement location innermost
      rw [waiting] at past
      have inside : around ⊆ builder.frames := innermost ▸ List.subset_cons_self _ _
      obtain ⟨object, found⟩ := declared.exists_object inside owns
      change (builder.pastStatement around).table.find? owner.name = some object at found
      have reported := count_places_addTransition_le location origin target builder.mode found
      simp only [List.map_cons, List.map_nil, List.count_cons, List.count_nil] at past reported
      omega
  | @incomplete token around type innermost few =>
      have past := count_places_pastStatement location innermost
      rw [count_places_reject]
      simp only [Item.location?]
      omega
  | @nameDropped token name names type outside waiting =>
      have dropped := count_places_dropModifiers location builder
      have kept : builder.dropModifiers.names = name :: names := waiting
      simp only [places, pending, kept, note, List.map_append, List.cons_append, List.map_cons,
        List.count_append, List.count_cons] at dropped ⊢
      omega
  | @nothingToEnd token type outside waiting =>
      rw [count_places_reject, count_places_dropModifiers]
      exact Nat.le_refl _

theorem count_places_run_le (declared : OwnersDeclared builder) (items : List Item) :
    (builder.run items).places.count location ≤
      builder.places.count location + (items.map Item.location?).count location := by
  induction items generalizing builder with
  | nil => exact Nat.le_add_right _ _
  | cons item items ih =>
      have first := (outcome_step builder item).count_places_le location declared
      have others := ih (declared.step item)
      rw [run_cons, List.map_cons, ← List.singleton_append, List.count_append]
      omega

/-- At the end all that still waits is reported. -/
theorem diagnostics_close (builder : Builder) :
    builder.close.table.diagnostics =
      builder.table.diagnostics ++ builder.modifiers.map Modifier.unattached ++
        builder.pending.map PendingName.unclosed := rfl

theorem count_diagnostics_close (builder : Builder) :
    (builder.close.table.diagnostics.map Diagnostic.location).count location =
      builder.places.count location := by
  simp only [diagnostics_close, places, List.map_append, map_location_unattached,
    map_location_unclosed, List.count_append]
  omega

/-- The diagnostics of a build stand at places of its items, each item giving its place to one
diagnostic at most. -/
theorem subperm_locations_build (recordsFaults : Bool) (items : List Item) :
    List.Subperm ((build recordsFaults items).table.diagnostics.map Diagnostic.location)
      (items.map Item.location?) := by
  rw [List.subperm_ext_iff]
  intro location _
  have built := count_places_run_le location (ownersDeclared_new recordsFaults) items
  have closed := count_diagnostics_close location ((new recordsFaults).run items)
  have nothing : (new recordsFaults).places = [] := rfl
  rw [nothing, List.count_nil, Nat.zero_add] at built
  rw [build_eq_close, closed]
  exact built

end Builder

/-- Every diagnostic of a source stands at an item of its own. -/
theorem diagnostics_at_own_items (recordsFaults : Bool) (file source : String) :
    let items := scan file source
    let diagnostics := (SymbolTable.ofItems recordsFaults items).diagnostics
    (diagnostics.map Diagnostic.location).Nodup ∧
      (∀ diagnostic ∈ diagnostics, ∃ item ∈ items, ∃ location,
        item.location? = some location ∧ diagnostic.location = some location ∧
          ∀ other ∈ items, other.location? = some location → other = item) ∧
      (∀ item ∈ items,
        diagnostics.countP (fun diagnostic => diagnostic.location = item.location?) ≤ 1) ∧
      diagnostics.length ≤ items.length := by
  intro items diagnostics
  have segmented : Segmented file .start source.toList items := (scan_segmented file source).1
  have distinct := segmented.nodup_locations
  have accounted : List.Subperm (diagnostics.map Diagnostic.location)
      (items.map Item.location?) :=
    Builder.subperm_locations_build recordsFaults items
  have apart : (diagnostics.map Diagnostic.location).Nodup := by
    rw [List.nodup_iff_count_le_one]
    intro location
    have once := List.nodup_iff_count_le_one.1 distinct location
    exact (accounted.count_le location).trans once
  refine ⟨apart, ?_, ?_, ?_⟩
  · intro diagnostic member
    obtain ⟨item, inItems, same⟩ :=
      List.mem_map.1 (accounted.subset (List.mem_map_of_mem member))
    obtain ⟨place, _, located⟩ := segmented.exists_position inItems
    refine ⟨item, inItems, place.within file, located, same ▸ located, ?_⟩
    intro other inItemsToo locatedToo
    exact List.inj_on_of_nodup_map distinct inItemsToo inItems (locatedToo.trans located.symm)
  · intro item inItems
    have once := List.nodup_iff_count_le_one.1 apart item.location?
    rw [List.count_eq_countP, List.countP_map] at once
    refine (Nat.le_of_eq (List.countP_congr ?_)).trans once
    simp
  · simpa using accounted.length_le

end StateDescription
