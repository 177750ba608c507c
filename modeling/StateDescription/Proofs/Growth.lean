import StateDescription.Proofs.TableEdits

/-!
Growth of tables. Whatever calls are made on a builder, what its table holds stays in its place:
values and diagnostics are added behind the others, and objects only gain.
-/

namespace StateDescription

/-- An object as it is later: it may gain roles, and values and transitions behind its own. -/
structure Object.GrowsTo (object grown : Object) : Prop where
  name : grown.name = object.name
  location : grown.location = object.location
  roles : ∀ role ∈ object.roles, role ∈ grown.roles
  values : object.values <+: grown.values
  transitions : object.transitions <+: grown.transitions

namespace Object.GrowsTo

variable {object : Object}

theorem refl (object : Object) : object.GrowsTo object where
  name := rfl
  location := rfl
  roles := fun _ has => has
  values := List.prefix_refl _
  transitions := List.prefix_refl _

theorem trans {grown later : Object} (early : object.GrowsTo grown) (late : grown.GrowsTo later) :
    object.GrowsTo later where
  name := late.name.trans early.name
  location := late.location.trans early.location
  roles := fun role has => late.roles role (early.roles role has)
  values := early.values.trans late.values
  transitions := early.transitions.trans late.transitions

theorem addRoles (roles : Roles) (object : Object) : object.GrowsTo (object.addRoles roles) :=
  { refl object with roles := fun _ has => Roles.mem_union.2 (.inl has) }

theorem addValue (index : Int) (object : Object) : object.GrowsTo (object.addValue index) :=
  { refl object with values := List.prefix_append _ _ }

theorem addTransition (transition : Transition) (object : Object) :
    object.GrowsTo (object.addTransition transition) :=
  { refl object with transitions := List.prefix_append _ _ }

end Object.GrowsTo

namespace SymbolTable

/-- A table as it is later: more may stand behind what it holds, and every object has grown in its
place. -/
structure GrowsTo (table later : SymbolTable) : Prop where
  values : table.values <+: later.values
  diagnostics : table.diagnostics <+: later.diagnostics
  objects : ∀ (place : Nat) (object : Object), table.objects[place]? = some object →
    ∃ grown, later.objects[place]? = some grown ∧ object.GrowsTo grown

namespace GrowsTo

variable {table : SymbolTable}

theorem refl (table : SymbolTable) : table.GrowsTo table where
  values := List.prefix_refl _
  diagnostics := List.prefix_refl _
  objects := fun _ object found => ⟨object, found, .refl object⟩

theorem trans {middle later : SymbolTable} (early : table.GrowsTo middle)
    (late : middle.GrowsTo later) : table.GrowsTo later where
  values := early.values.trans late.values
  diagnostics := early.diagnostics.trans late.diagnostics
  objects := by
    intro place object found
    obtain ⟨grown, there, grows⟩ := early.objects place object found
    obtain ⟨last, still, growsOn⟩ := late.objects place grown there
    exact ⟨last, still, grows.trans growsOn⟩

theorem addDiagnostics (diagnostics : List Diagnostic) (table : SymbolTable) :
    table.GrowsTo (table.addDiagnostics diagnostics) :=
  { refl table with diagnostics := List.prefix_append _ _ }

theorem declare (object : Object) (table : SymbolTable) :
    table.GrowsTo (table.declare object) where
  values := List.prefix_refl _
  diagnostics := List.prefix_refl _
  objects := by
    intro place older found
    refine ⟨older, ?_, .refl older⟩
    obtain ⟨early, _⟩ := List.getElem?_eq_some_iff.1 found
    rwa [SymbolTable.declare, List.getElem?_append_left early]

theorem modify {change : Object → Object} (grows : ∀ object : Object, object.GrowsTo (change object))
    (name : String) (table : SymbolTable) : table.GrowsTo (table.modify name change) where
  values := List.prefix_refl _
  diagnostics := List.prefix_refl _
  objects := by
    intro place object found
    refine ⟨if object.name = name then change object else object, ?_, ?_⟩
    · rw [SymbolTable.modify, List.getElem?_map, found]
      rfl
    · split
      · exact grows object
      · exact .refl object

theorem addValueOf (name text : String) (location : Option Location) (table : SymbolTable) :
    table.GrowsTo (table.addValueOf name text location) := by
  have added : table.GrowsTo (table.addValue text location) :=
    { refl table with values := List.prefix_append _ _ }
  exact added.trans (modify (Object.GrowsTo.addValue _) name _)

end GrowsTo

theorem Edits.growsTo {allowed : Diagnostic → Prop} {table later : SymbolTable}
    {filed : List (String × Value)} {given : List (String × Transition)}
    (edits : Edits allowed table filed given later) : table.GrowsTo later := by
  induction edits with
  | refl => exact .refl table
  | diagnosed _ _ ih => exact ih.trans (.addDiagnostics _ _)
  | declared _ _ _ _ ih => exact ih.trans (.declare _ _)
  | joined _ ih => exact ih.trans (.modify (Object.GrowsTo.addRoles _) _ _)
  | valued _ _ ih => exact ih.trans (.addValueOf _ _ _ _)
  | @given _ _ after name object transition _ _ ih =>
      have cited := GrowsTo.addDiagnostics (object.citations transition) after
      exact ih.trans (cited.trans (.modify (Object.GrowsTo.addTransition _) name _))

end SymbolTable

namespace Builder

variable {builder : Builder}

theorem growsTo_call (declared : OwnersDeclared builder) (call : Call) :
    builder.table.GrowsTo (builder.call call).table := by
  cases state : builder.finished with
  | true =>
      rw [call_of_finished state]
      exact .refl _
  | false =>
      cases call with
      | feed item =>
          rw [Builder.call, perform_feed_of_unfinished state]
          obtain ⟨_, _, edits⟩ := exists_edits_step declared item
          exact edits.growsTo
      | finish =>
          rw [Builder.call, perform_finish_of_unfinished state]
          dsimp only
          rw [table_close]
          exact .addDiagnostics _ _

theorem OwnersDeclared.after (declared : OwnersDeclared builder) (calls : List Call) :
    OwnersDeclared (builder.after calls) := by
  induction calls generalizing builder with
  | nil => exact declared
  | cons call calls ih => exact ih (declared.call call)

theorem growsTo_after (declared : OwnersDeclared builder) (calls : List Call) :
    builder.table.GrowsTo (builder.after calls).table := by
  induction calls generalizing builder with
  | nil => exact .refl _
  | cons call calls ih => exact (growsTo_call declared call).trans (ih (declared.call call))

end Builder

end StateDescription
