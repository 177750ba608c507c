import Mathlib.Data.List.Nodup
import StateDescription.Proofs.Constructs
import StateDescription.Proofs.Histories
import StateDescription.Proofs.RecordedTransitions
import StateDescription.Proofs.UniqueNames

/-!
What the items of a build do to its table, edit by edit. Nothing but these edits is ever made, so
what each of them keeps holds of every table that is built.
-/

namespace StateDescription

/-- A diagnostic of the structure of a source, other than one of a repeated origin. -/
def Diagnostic.Plain (diagnostic : Diagnostic) : Prop :=
  ∃ problem, diagnostic.problem = .semantic problem ∧ problem.kind ≠ .duplicateTransition

theorem Diagnostic.Plain.isLexical_eq {diagnostic : Diagnostic} (plain : diagnostic.Plain) :
    diagnostic.isLexical = false := by
  obtain ⟨problem, semantic, _⟩ := plain
  rw [Diagnostic.isLexical, semantic]
  rfl

/-- What can be wrong at an item, apart from a repeated origin. -/
def Item.Allows : Item → Diagnostic → Prop
  | .token _, diagnostic => diagnostic.Plain
  | .fault _, diagnostic => diagnostic.isLexical = true

theorem Item.Allows.kind_ne {item : Item} {diagnostic : Diagnostic}
    (allows : item.Allows diagnostic) : diagnostic.kind ≠ .duplicateTransition := by
  obtain ⟨problem, location⟩ := diagnostic
  cases item with
  | token token =>
      obtain ⟨_, rfl, other⟩ := allows
      exact other
  | fault fault =>
      cases problem with
      | lexical problem => cases problem <;> rintro ⟨⟩
      | _ => cases allows

/-- The diagnostic of a transition whose origin an earlier one of the object has. -/
def Object.citations (transition : Transition) (object : Object) : List Diagnostic :=
  (object.transition? transition.origin).toList.map fun previous =>
    ⟨.semantic (.duplicateTransition transition.origin transition.target previous.location),
      transition.location⟩

namespace SymbolTable

/-- The tables that edits make of one. The lists tell which values were filed under which names,
and which transitions were given to them. Apart from citations, all diagnostics are allowed. -/
inductive Edits (allowed : Diagnostic → Prop) (before : SymbolTable) :
    List (String × Value) → List (String × Transition) → SymbolTable → Prop
  | refl : Edits allowed before [] [] before
  | diagnosed {filed given after} {made : List Diagnostic}
      (edits : Edits allowed before filed given after)
      (fits : ∀ diagnostic ∈ made, allowed diagnostic) :
      Edits allowed before filed given (after.addDiagnostics made)
  | declared {filed given after} {object : Object}
      (edits : Edits allowed before filed given after) (fresh : object.name ∉ after.names)
      (valueless : object.values = []) (bare : object.transitions = []) :
      Edits allowed before filed given (after.declare object)
  | joined {filed given after} {name : String} {roles : Roles}
      (edits : Edits allowed before filed given after) :
      Edits allowed before filed given (after.modify name (Object.addRoles roles))
  | valued {filed given after} {name : String} {value : Value}
      (edits : Edits allowed before filed given after) (known : name ∈ after.names) :
      Edits allowed before (filed ++ [(name, value)]) given
        (after.addValueOf name value.text value.location)
  | given {filed given after} {name : String} {object : Object} {transition : Transition}
      (edits : Edits allowed before filed given after) (found : after.find? name = some object) :
      Edits allowed before filed (given ++ [(name, transition)])
        ((after.addDiagnostics (object.citations transition)).modify name
          (Object.addTransition transition))

theorem name_of_find?_eq_some {table : SymbolTable} {name : String} {object : Object}
    (found : table.find? name = some object) : object.name = name := by
  have named := List.find?_some found
  exact of_decide_eq_true named

theorem transitionsOf_of_find? {table : SymbolTable} {name : String} {object : Object}
    (found : table.find? name = some object) :
    table.transitionsOf name = object.transitions := by
  rw [transitionsOf, found]
  rfl

/-- A transition that is given to an object stands behind those that it has. -/
theorem transitionsOf_addTransition {table : SymbolTable} {subject : String} {object : Object}
    (found : table.find? subject = some object) (made : List Diagnostic)
    (transition : Transition) (name : String) :
    ((table.addDiagnostics made).modify subject
        (Object.addTransition transition)).transitionsOf name =
      table.transitionsOf name ++ if subject = name then [transition] else [] := by
  change (table.modify subject (Object.addTransition transition)).transitionsOf name = _
  rw [transitionsOf, find?_modify (Object.keepsName_addTransition transition), transitionsOf]
  by_cases receives : subject = name
  · subst receives
    simp [found, name_of_find?_eq_some found, Object.addTransition]
  · rw [if_neg receives, List.append_nil]
    cases other : table.find? name with
    | none => rfl
    | some object => simp [name_of_find?_eq_some other, Ne.symm receives]

namespace Edits

variable {allowed : Diagnostic → Prop} {before after : SymbolTable}
variable {filed : List (String × Value)} {given : List (String × Transition)}

theorem mono {wider : Diagnostic → Prop}
    (wide : ∀ diagnostic, allowed diagnostic → wider diagnostic)
    (edits : Edits allowed before filed given after) : Edits wider before filed given after := by
  induction edits with
  | refl => exact .refl
  | diagnosed _ fits ih => exact ih.diagnosed fun diagnostic made => wide _ (fits diagnostic made)
  | declared _ fresh valueless bare ih => exact ih.declared fresh valueless bare
  | joined _ ih => exact ih.joined
  | valued _ known ih => exact ih.valued known
  | given _ found ih => exact ih.given found

theorem trans {later : SymbolTable} {filedLater : List (String × Value)}
    {givenLater : List (String × Transition)} (early : Edits allowed before filed given after)
    (late : Edits allowed after filedLater givenLater later) :
    Edits allowed before (filed ++ filedLater) (given ++ givenLater) later := by
  induction late with
  | refl =>
      rw [List.append_nil, List.append_nil]
      exact early
  | diagnosed _ fits ih => exact ih.diagnosed fits
  | declared _ fresh valueless bare ih => exact ih.declared fresh valueless bare
  | joined _ ih => exact ih.joined
  | valued _ known ih =>
      rw [← List.append_assoc]
      exact ih.valued known
  | given _ found ih =>
      rw [← List.append_assoc]
      exact ih.given found

/-! ### Names -/

/-- Every object is declared once, under a name of its own. -/
theorem nodup_names (edits : Edits allowed before filed given after) (nodup : before.names.Nodup) :
    after.names.Nodup := by
  induction edits with
  | refl => exact nodup
  | diagnosed _ _ ih => exact ih
  | declared _ fresh _ _ ih =>
      rw [names_declare, List.nodup_append_comm]
      exact List.nodup_cons.2 ⟨fresh, ih⟩
  | joined _ ih => rwa [names_modify (Object.keepsName_addRoles _)]
  | valued _ _ ih => rwa [names_addValueOf]
  | given _ _ ih => rwa [names_modify (Object.keepsName_addTransition _)]

theorem known_names (edits : Edits allowed before filed given after) :
    filed.map Prod.fst ⊆ after.names ∧ given.map Prod.fst ⊆ after.names := by
  induction edits with
  | refl => exact ⟨List.nil_subset _, List.nil_subset _⟩
  | diagnosed _ _ ih => exact ih
  | declared _ _ _ _ ih =>
      rw [names_declare]
      exact ⟨List.subset_append_of_subset_left _ ih.1, List.subset_append_of_subset_left _ ih.2⟩
  | joined _ ih => rwa [names_modify (Object.keepsName_addRoles _)]
  | valued _ known ih =>
      rw [names_addValueOf, List.map_append, List.append_subset]
      exact ⟨⟨ih.1, List.cons_subset.2 ⟨known, List.nil_subset _⟩⟩, ih.2⟩
  | given _ found ih =>
      rw [names_modify (Object.keepsName_addTransition _), List.map_append, List.append_subset]
      have known := mem_names_of_find?_eq_some found
      exact ⟨ih.1, ih.2, List.cons_subset.2 ⟨known, List.nil_subset _⟩⟩

/-! ### Transitions -/

/-- The transitions of an object are those that were given to its name, in order. -/
theorem transitionsOf (edits : Edits allowed before filed given after) (name : String) :
    after.transitionsOf name =
      before.transitionsOf name ++ (given.filter (·.1 = name)).map Prod.snd := by
  induction edits with
  | refl => exact (List.append_nil _).symm
  | diagnosed _ _ ih => exact ih
  | declared _ _ _ bare ih => rw [transitionsOf_declare bare, ih]
  | joined _ ih => rw [transitionsOf_modify (Object.keepsName_addRoles _) fun _ => rfl, ih]
  | valued _ _ ih => rw [transitionsOf_addValueOf, ih]
  | @given _ given after subject object transition _ found ih =>
      rw [transitionsOf_addTransition found, List.filter_append, List.map_append,
        ← List.append_assoc, ← ih]
      congr 1
      by_cases receives : subject = name <;> simp [receives]

/-! ### Diagnostics -/

/-- A diagnostic that edits make is allowed, or it is a citation. -/
theorem diagnostics (edits : Edits allowed before filed given after) :
    ∃ made, after.diagnostics = before.diagnostics ++ made ∧
      ∀ diagnostic ∈ made, allowed diagnostic ∨ diagnostic.kind = .duplicateTransition := by
  induction edits with
  | refl => exact ⟨[], (List.append_nil _).symm, fun _ none => absurd none List.not_mem_nil⟩
  | @diagnosed _ _ after more _ fits ih =>
      obtain ⟨made, grown, known⟩ := ih
      refine ⟨made ++ more, ?_, ?_⟩
      · rw [diagnostics_addDiagnostics, grown, List.append_assoc]
      · intro diagnostic member
        exact (List.mem_append.1 member).elim (known diagnostic)
          fun added => .inl (fits diagnostic added)
  | declared _ _ _ _ ih => exact ih
  | joined _ ih => exact ih
  | valued _ _ ih => exact ih
  | @given _ _ after name object transition _ _ ih =>
      obtain ⟨made, grown, known⟩ := ih
      refine ⟨made ++ object.citations transition, ?_, ?_⟩
      · rw [diagnostics_modify, diagnostics_addDiagnostics, grown, List.append_assoc]
      · intro diagnostic member
        rcases List.mem_append.1 member with older | cited
        · exact known diagnostic older
        · obtain ⟨previous, _, rfl⟩ := List.mem_map.1 cited
          exact .inr rfl

end Edits

end SymbolTable

namespace Builder

variable {builder : Builder} {token : Token}

/-! ### What an item files and gives -/

/-- The value of a literal in a group with an owner, under the name of the owner. -/
def filed (builder : Builder) : Item → List (String × Value)
  | .fault _ => []
  | .token token =>
    match builder.frames with
    | .group (some site) :: _ =>
      if token.type = .literal then
        [(site.owner.name, ⟨token.value, some token.location⟩)]
      else []
    | _ => []

/-- The transitions that objects have more behind the item, under the names of the objects. -/
def recorded (builder : Builder) (item : Item) : List (String × Transition) :=
  let next := (builder.step item).table
  next.names.flatMap fun name =>
    ((next.transitionsOf name).drop (builder.table.transitionsOf name).length).map (name, ·)

/-! ### Plain diagnostics -/

theorem plain_reject {problem : SemanticProblem} (other : problem.kind ≠ .duplicateTransition)
    (location : Option Location) :
    ∀ diagnostic ∈ [(⟨.semantic problem, location⟩ : Diagnostic)], diagnostic.Plain :=
  List.forall_mem_singleton.2 ⟨problem, rfl, other⟩

theorem plain_unclosed (names : List PendingName) :
    ∀ diagnostic ∈ names.map PendingName.unclosed, diagnostic.Plain :=
  List.forall_mem_map.2 fun name _ => ⟨.unclosed name.name, rfl, by rintro ⟨⟩⟩

theorem plain_unattached (modifiers : List Modifier) :
    ∀ diagnostic ∈ modifiers.map Modifier.unattached, diagnostic.Plain :=
  List.forall_mem_map.2 fun modifier _ => ⟨.unattachedModifier modifier.token, rfl, by rintro ⟨⟩⟩

theorem plain_duplicate (modifiers : List Modifier) :
    ∀ diagnostic ∈ modifiers.map Modifier.duplicate, diagnostic.Plain :=
  List.forall_mem_map.2 fun modifier _ => ⟨.duplicateAttribute modifier.token, rfl, by rintro ⟨⟩⟩

theorem Rejects.kind_ne {problem : SemanticProblem} (rejects : Rejects builder token problem) :
    problem.kind ≠ .duplicateTransition := by
  cases rejects <;> rintro ⟨⟩

/-! ### The edits of an item -/

open SymbolTable (Edits)

theorem edits_reject {problem : SemanticProblem} (other : problem.kind ≠ .duplicateTransition)
    (token : Token) (builder : Builder) :
    Edits Diagnostic.Plain builder.table [] [] (builder.reject problem token).table :=
  Edits.refl.diagnosed (plain_reject other _)

theorem edits_dropModifiers (builder : Builder) :
    Edits Diagnostic.Plain builder.table [] [] builder.dropModifiers.table :=
  Edits.refl.diagnosed (plain_unattached _)

theorem edits_declare (owner : PendingName) (builder : Builder) :
    Edits Diagnostic.Plain builder.table [] [] (builder.declare owner).table := by
  rw [declare]
  split
  · rename_i absent
    exact Edits.refl.declared (SymbolTable.find?_eq_none_iff.1 absent) rfl rfl
  · exact (Edits.refl.diagnosed (plain_duplicate _)).joined

theorem edits_addTransition (receiver origin target : PendingName) (mode : WriteMode)
    (builder : Builder) :
    ∃ given, given.length ≤ 1 ∧ Edits Diagnostic.Plain builder.table [] given
      (builder.addTransition receiver origin target mode).table := by
  rw [addTransition]
  cases found : builder.table.find? receiver.name with
  | none =>
      refine ⟨[], Nat.zero_le 1, ?_⟩
      exact Edits.refl.diagnosed (plain_reject (by rintro ⟨⟩) _)
  | some object =>
      let transition : Transition := ⟨some origin.location, origin.name, target.name, mode⟩
      refine ⟨[(receiver.name, transition)], Nat.le_refl 1, ?_⟩
      have edits :
          Edits Diagnostic.Plain builder.table [] ([] ++ [(receiver.name, transition)]) _ :=
        Edits.refl.given found
      dsimp only
      cases repeated : object.transition? origin.name with
      | none =>
          rw [Object.citations, repeated] at edits
          have same : builder.table.addDiagnostics [] = builder.table :=
            congrArg (SymbolTable.mk _ _) (List.append_nil _)
          rwa [Option.toList_none, List.map_nil, same] at edits
      | some previous =>
          rw [Object.citations, repeated] at edits
          exact edits

theorem filed_of_ne (other : token.type ≠ .literal) (builder : Builder) :
    builder.filed (.token token) = [] := by
  rw [filed]
  split
  · exact if_neg other
  · rfl

theorem edits_addLiteral (declared : OwnersDeclared builder) (literal : token.type = .literal) :
    Edits Diagnostic.Plain builder.table (builder.filed (.token token)) []
      (builder.addLiteral token).table := by
  rw [addLiteral]
  split
  · rename_i site around innermost
    have member : Frame.group (some site) ∈ builder.frames := by
      rw [innermost]
      exact List.mem_cons_self
    have files : builder.filed (.token token) =
        [] ++ [(site.owner.name, ⟨token.value, some token.location⟩)] := by
      rw [filed, innermost]
      exact if_pos literal
    rw [files]
    exact Edits.refl.valued (declared _ member site.owner rfl)
  · rename_i around innermost
    rw [filed, innermost]
    exact .refl
  · rename_i notOwned notBare
    have files : builder.filed (.token token) = [] := by
      rw [filed]
      split
      · rename_i site around innermost
        exact absurd innermost (notOwned site around)
      · rfl
    rw [files]
    exact edits_reject (by rintro ⟨⟩) token builder

theorem Outcome.edits {next : Builder} (outcome : Outcome builder (.token token) next)
    (other : token.type ≠ .literal) :
    ∃ given, given.length ≤ 1 ∧ Edits Diagnostic.Plain builder.table [] given next.table := by
  -- Only the end of a statement gives a transition.
  have nothing {after : SymbolTable} (edits : Edits Diagnostic.Plain builder.table [] [] after) :
      ∃ given, given.length ≤ 1 ∧ Edits Diagnostic.Plain builder.table [] given after :=
    ⟨[], Nat.zero_le 1, edits⟩
  cases outcome with
  | rejected rejects => exact nothing (edits_reject rejects.kind_ne token builder)
  | opened => exact nothing (edits_declare _ builder)
  | openedBare => exact nothing (edits_reject (by rintro ⟨⟩) token builder)
  | closed =>
      rw [closeBody_eq]
      exact nothing ((edits_dropModifiers builder).diagnosed (plain_unclosed _))
  | valued type => exact absurd type other
  | began => exact nothing (edits_dropModifiers builder)
  | @received _ around target origin receiver others =>
      obtain ⟨given, few, edits⟩ := edits_addTransition receiver origin target builder.mode
        (builder.pastStatement around)
      exact ⟨given, few, edits.diagnosed (plain_unclosed others)⟩
  | @owned _ around target origin owner =>
      exact edits_addTransition owner origin target builder.mode (builder.pastStatement around)
  | @incomplete _ around =>
      exact nothing (edits_reject (by rintro ⟨⟩) token (builder.pastStatement around))
  | nameDropped => exact nothing (edits_dropModifiers builder)
  | nothingToEnd =>
      exact nothing ((edits_dropModifiers builder).diagnosed
        (plain_reject (by rintro ⟨⟩) _))
  | _ => exact nothing .refl

theorem exists_edits_step (declared : OwnersDeclared builder) (item : Item) :
    ∃ given, given.length ≤ 1 ∧
      Edits item.Allows builder.table (builder.filed item) given (builder.step item).table := by
  cases item with
  | fault fault =>
      refine ⟨[], Nat.zero_le 1, ?_⟩
      change Edits _ _ [] _ (builder.stepFault fault).table
      rw [stepFault]
      split
      · exact Edits.refl.diagnosed (List.forall_mem_singleton.2 rfl)
      · exact .refl
  | token token =>
      by_cases literal : token.type = .literal
      · have step : builder.step (.token token) = builder.addLiteral token := by
          change builder.stepToken token = _
          rw [stepToken, literal]
        rw [step]
        exact ⟨[], Nat.zero_le 1, edits_addLiteral declared literal⟩
      · rw [filed_of_ne literal]
        exact (outcome_step builder (.token token)).edits literal

/-! ### Runs and calls -/

/-- At most one transition is given by an item, so it is the one that is seen. -/
theorem recorded_eq {allowed : Diagnostic → Prop} {filed : List (String × Value)}
    {given : List (String × Transition)} {item : Item}
    (edits : Edits allowed builder.table filed given (builder.step item).table)
    (few : given.length ≤ 1) (nodup : (builder.step item).table.names.Nodup) :
    builder.recorded item = given := by
  have more (name : String) :
      ((builder.step item).table.transitionsOf name).drop
          (builder.table.transitionsOf name).length =
        (given.filter (·.1 = name)).map Prod.snd := by
    rw [edits.transitionsOf, List.drop_left]
  simp only [recorded, more]
  cases given with
  | nil => simp
  | cons entry rest =>
      obtain rfl : rest = [] := List.eq_nil_of_length_eq_zero (by simpa using few)
      rw [flatMap_eq_of_mem nodup (edits.known_names.2 List.mem_cons_self)]
      · simp
      · intro other differs
        simp [differs.symm]

theorem edits_step (declared : OwnersDeclared builder) (nodup : builder.table.names.Nodup)
    (item : Item) :
    Edits item.Allows builder.table (builder.filed item) (builder.recorded item)
      (builder.step item).table := by
  obtain ⟨given, few, edits⟩ := exists_edits_step declared item
  rwa [recorded_eq edits few (edits.nodup_names nodup)]

theorem edits_run (declared : OwnersDeclared builder) (nodup : builder.table.names.Nodup)
    (items : List Item) :
    Edits (·.kind ≠ .duplicateTransition) builder.table (builder.history filed items)
      (builder.history recorded items) (builder.run items).table := by
  induction items generalizing builder with
  | nil => exact .refl
  | cons item items ih =>
      -- Owners and different names are what makes the edits of the next item known.
      have first := edits_step declared nodup item
      have rest := ih (declared.step item) (first.nodup_names nodup)
      exact (first.mono fun _ allows => allows.kind_ne).trans rest

theorem plain_leftovers (builder : Builder) :
    ∀ diagnostic ∈ builder.leftovers, diagnostic.Plain := by
  rw [leftovers, List.forall_mem_append]
  exact ⟨plain_unattached _, plain_unclosed _⟩

/-- Whatever calls are made, the table comes from the empty one by what the items taken file and
give. -/
theorem edits_after (recordsFaults : Bool) (calls : List Call) :
    Edits (·.kind ≠ .duplicateTransition) .empty
      ((new recordsFaults).history filed (Call.taken calls))
      ((new recordsFaults).history recorded (Call.taken calls))
      ((new recordsFaults).after calls).table := by
  rw [table_after]
  have ran := edits_run (ownersDeclared_new recordsFaults) List.nodup_nil (Call.taken calls)
  refine ran.diagnosed ?_
  intro diagnostic member
  split at member
  · obtain ⟨problem, semantic, other⟩ := plain_leftovers _ diagnostic member
    rwa [Diagnostic.kind, semantic]
  · cases member

end Builder

end StateDescription
