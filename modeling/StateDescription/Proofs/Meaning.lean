import StateDescription.Proofs.Grammar
import StateDescription.Proofs.ObjectNames

/-!
What a program means. Read in order, its declarations state facts: that a name is declared, that
an object lists a literal, that an object has a transition. The facts alone describe the table of
the program, object by object.
-/

namespace StateDescription

attribute [ext] SymbolTable

/-- The roles that modifiers give together. -/
def Roles.given : List Modifier → Roles
  | [] => .through
  | modifier :: modifiers => .only modifier.role ∪ given modifiers

theorem Roles.mem_given {role : Role} {modifiers : List Modifier} :
    role ∈ given modifiers ↔ role ∈ modifiers.map Modifier.role := by
  induction modifiers with
  | nil => simp [given]
  | cons modifier modifiers ih =>
      simp only [given, mem_union, mem_only, ih, List.map_cons, List.mem_cons]

theorem Roles.given_append (first second : List Modifier) :
    given (first ++ second) = given first ∪ given second := by
  rw [ext_iff_mem]
  intro role
  rw [mem_union, mem_given, mem_given, mem_given, List.map_append, List.mem_append]

namespace Grammar

inductive Fact
  | declared (head : Head)
  | listed (owner : String) (literal : Word)
  | stated (owner : String) (statement : Statement)

namespace Fact

/-- The name of the object that the fact is about. -/
def subject : Fact → String
  | declared head => head.name.text
  | listed owner _ => owner
  | stated owner _ => owner

def head? : Fact → Option Head
  | declared head => some head
  | _ => none

def literal? : Fact → Option (String × Word)
  | listed owner literal => some (owner, literal)
  | _ => none

def statement? : Fact → Option (String × Statement)
  | stated owner statement => some (owner, statement)
  | _ => none

theorem subject_of_literal? {fact : Fact} {owner : String} {literal : Word}
    (listed : fact.literal? = some (owner, literal)) : fact.subject = owner := by
  cases fact <;> cases listed
  rfl

theorem subject_of_statement? {fact : Fact} {owner : String} {statement : Statement}
    (stated : fact.statement? = some (owner, statement)) : fact.subject = owner := by
  cases fact <;> cases stated
  rfl

end Fact

mutual

def Declaration.facts : Declaration → List Fact
  | .group head _ literals _ =>
    .declared head :: literals.map (.listed head.name.text)
  | .block head _ body _ => .declared head :: body.facts head.name.text

/-- A statement belongs to the innermost block around it. -/
def Body.facts : Body → String → List Fact
  | .empty, _ => []
  | .statement statement rest, owner => .stated owner statement :: rest.facts owner
  | .declaration declaration rest, owner => declaration.facts ++ rest.facts owner

end

/-! ### Objects -/

/-- The declared names, in the order of their first declarations. -/
def names (facts : List Fact) : List String :=
  ((facts.filterMap Fact.head?).map fun head => head.name.text).eraseDups

def headsOf (facts : List Fact) (name : String) : List Head :=
  (facts.filterMap Fact.head?).filter fun head => head.name.text = name

def literals (facts : List Fact) : List (String × Word) :=
  facts.filterMap Fact.literal?

def statementsOf (facts : List Fact) (name : String) : List Statement :=
  ((facts.filterMap Fact.statement?).filter fun entry => entry.1 = name).map Prod.snd

def rolesOf (facts : List Fact) (name : String) : Roles :=
  .given ((headsOf facts name).flatMap Head.modifiers)

/-- The indices of the literals of an object among all literals. -/
def indicesOf (facts : List Fact) (name : String) : List Int :=
  ((literals facts).zipIdx.filter fun entry => entry.1.1 = name).map fun entry => (entry.2 : Int)

/-- The object of that name, located at its first declaration. -/
def object (facts : List Fact) (name : String) : Object where
  name := name
  location := (headsOf facts name).head?.map fun head => head.name.location
  roles := rolesOf facts name
  values := indicesOf facts name
  transitions := (statementsOf facts name).map Statement.transition

/-! ### Diagnostics -/

/-- What is wrong with a fact after earlier ones: a modifier whose role the object has, or an
origin that the object leaves already. -/
def diagnosticsAt (earlier : List Fact) : Fact → List Diagnostic
  | .declared head =>
    (head.modifiers.filter fun modifier =>
      modifier.role ∈ rolesOf earlier head.name.text).map Modifier.duplicate
  | .listed _ _ => []
  | .stated owner statement =>
    match (statementsOf earlier owner).find? (·.origin.text = statement.origin.text) with
    | none => []
    | some previous =>
      [⟨.semantic (.duplicateTransition statement.origin.text statement.target.text
          (some previous.origin.location)),
        some statement.origin.location⟩]

def diagnosticsAfter (earlier : List Fact) : List Fact → List Diagnostic
  | [] => []
  | fact :: facts => diagnosticsAt earlier fact ++ diagnosticsAfter (earlier ++ [fact]) facts

/-! ### Tables -/

def table (facts : List Fact) : SymbolTable where
  objects := (names facts).map (object facts)
  values := (literals facts).map fun entry => ⟨entry.2.text, some entry.2.location⟩
  diagnostics := diagnosticsAfter [] facts

def meaning (program : List Declaration) : SymbolTable :=
  table (program.flatMap Declaration.facts)

/-! ### One more fact -/

variable {facts : List Fact} {name : String}

theorem diagnosticsAfter_append (earlier facts : List Fact) (fact : Fact) :
    diagnosticsAfter earlier (facts ++ [fact]) =
      diagnosticsAfter earlier facts ++ diagnosticsAt (earlier ++ facts) fact := by
  induction facts generalizing earlier with
  | nil => simp [diagnosticsAfter]
  | cons first facts ih =>
      rw [List.cons_append, diagnosticsAfter, ih, diagnosticsAfter, List.append_assoc,
        List.append_assoc, List.singleton_append]

theorem diagnostics_table_append (facts : List Fact) (fact : Fact) :
    (table (facts ++ [fact])).diagnostics =
      (table facts).diagnostics ++ diagnosticsAt facts fact :=
  diagnosticsAfter_append [] facts fact

section Accessors

variable {fact : Fact}

theorem names_append (undeclared : fact.head? = none) :
    names (facts ++ [fact]) = names facts := by
  simp [names, undeclared]

theorem names_append_declared (facts : List Fact) (head : Head) :
    names (facts ++ [.declared head]) =
      if head.name.text ∈ names facts then names facts
      else names facts ++ [head.name.text] := by
  simp only [names, List.filterMap_append, List.filterMap_cons, List.filterMap_nil, Fact.head?,
    List.map_append, List.map_cons, List.map_nil, List.eraseDups_append, List.removeAll,
    List.mem_eraseDups]
  split
  · rename_i known
    simp [known]
  · rename_i fresh
    simp [fresh, List.eraseDups_cons]

theorem headsOf_append (undeclared : fact.head? = none) (name : String) :
    headsOf (facts ++ [fact]) name = headsOf facts name := by
  simp [headsOf, undeclared]

theorem headsOf_append_declared (facts : List Fact) (head : Head) (name : String) :
    headsOf (facts ++ [.declared head]) name =
      headsOf facts name ++ if name = head.name.text then [head] else [] := by
  simp [headsOf, Fact.head?, List.filter_cons, eq_comm]

theorem headsOf_eq_nil_iff : headsOf facts name = [] ↔ name ∉ names facts := by
  simp [headsOf, names, List.filter_eq_nil_iff, List.mem_eraseDups]

theorem literals_append (unlisted : fact.literal? = none) :
    literals (facts ++ [fact]) = literals facts := by
  simp [literals, unlisted]

theorem literals_append_listed (facts : List Fact) (owner : String) (literal : Word) :
    literals (facts ++ [.listed owner literal]) = literals facts ++ [(owner, literal)] := by
  simp [literals, Fact.literal?]

theorem indicesOf_append (unlisted : fact.literal? = none) (name : String) :
    indicesOf (facts ++ [fact]) name = indicesOf facts name := by
  rw [indicesOf, literals_append unlisted, indicesOf]

theorem indicesOf_append_listed (facts : List Fact) (owner : String) (literal : Word)
    (name : String) :
    indicesOf (facts ++ [.listed owner literal]) name =
      indicesOf facts name ++ if name = owner then [((literals facts).length : Int)] else [] := by
  rw [indicesOf, literals_append_listed, List.zipIdx_append, List.filter_append, List.map_append]
  congr 1
  by_cases same : name = owner
  · simp [same]
  · simp [same, Ne.symm same]

theorem statementsOf_append (unstated : fact.statement? = none) (name : String) :
    statementsOf (facts ++ [fact]) name = statementsOf facts name := by
  simp [statementsOf, unstated]

theorem statementsOf_append_stated (facts : List Fact) (owner : String)
    (statement : Statement) (name : String) :
    statementsOf (facts ++ [.stated owner statement]) name =
      statementsOf facts name ++ if name = owner then [statement] else [] := by
  by_cases same : name = owner
  · simp [statementsOf, Fact.statement?, same]
  · simp [statementsOf, Fact.statement?, same, Ne.symm same]

end Accessors

theorem object_append_listed (facts : List Fact) (owner : String) (literal : Word)
    (name : String) :
    object (facts ++ [.listed owner literal]) name =
      if name = owner then (object facts name).addValue (literals facts).length
      else object facts name := by
  simp only [object, rolesOf, indicesOf_append_listed]
  rw [headsOf_append rfl, statementsOf_append rfl]
  split
  · rfl
  · rw [List.append_nil]

theorem object_append_stated (facts : List Fact) (owner : String) (statement : Statement)
    (name : String) :
    object (facts ++ [.stated owner statement]) name =
      if name = owner then (object facts name).addTransition statement.transition
      else object facts name := by
  simp only [object, rolesOf, statementsOf_append_stated]
  rw [headsOf_append rfl, indicesOf_append rfl]
  split
  · rw [List.map_append]
    rfl
  · rw [List.append_nil]

theorem object_append_declared {head : Head} (known : head.name.text ∈ names facts)
    (name : String) :
    object (facts ++ [.declared head]) name =
      if name = head.name.text then (object facts name).addRoles (.given head.modifiers)
      else object facts name := by
  simp only [object, rolesOf, headsOf_append_declared]
  rw [statementsOf_append rfl, indicesOf_append rfl]
  split
  · rename_i same
    subst same
    have nonempty : headsOf facts head.name.text ≠ [] := by
      rwa [ne_eq, headsOf_eq_nil_iff, Classical.not_not]
    obtain ⟨first, rest, heads⟩ := List.exists_cons_of_ne_nil nonempty
    rw [List.flatMap_append, Roles.given_append, heads]
    simp [Object.addRoles]
  · rw [List.append_nil]

/-! ### Declared objects -/

/-- Every object that a fact is about is declared. -/
def Known (facts : List Fact) : Prop :=
  ∀ fact ∈ facts, fact.subject ∈ names facts

theorem known_nil : Known [] := by
  intro fact member
  cases member

theorem Known.append_declared (known : Known facts) (head : Head) :
    Known (facts ++ [.declared head]) := by
  intro fact member
  rw [names_append_declared]
  rcases List.mem_append.1 member with earlier | last
  · split
    · exact known fact earlier
    · exact List.mem_append_left _ (known fact earlier)
  · rw [List.mem_singleton.1 last]
    split
    · assumption
    · exact List.mem_append_right _ List.mem_cons_self

theorem Known.append {fact : Fact} (known : Known facts) (undeclared : fact.head? = none)
    (member : fact.subject ∈ names facts) : Known (facts ++ [fact]) := by
  intro other position
  rw [names_append undeclared]
  rcases List.mem_append.1 position with earlier | last
  · exact known other earlier
  · rwa [List.mem_singleton.1 last]

theorem Known.indicesOf_eq_nil (known : Known facts) (fresh : name ∉ names facts) :
    indicesOf facts name = [] := by
  rw [indicesOf, List.map_eq_nil_iff, List.filter_eq_nil_iff]
  rintro ⟨⟨owner, literal⟩, index⟩ member same
  obtain ⟨fact, position, listed⟩ :=
    List.mem_filterMap.1 (List.fst_mem_of_mem_zipIdx member)
  apply fresh
  rw [← of_decide_eq_true same]
  exact Fact.subject_of_literal? listed ▸ known fact position

theorem Known.statementsOf_eq_nil (known : Known facts) (fresh : name ∉ names facts) :
    statementsOf facts name = [] := by
  rw [statementsOf, List.map_eq_nil_iff, List.filter_eq_nil_iff]
  rintro ⟨owner, statement⟩ member same
  obtain ⟨fact, position, stated⟩ := List.mem_filterMap.1 member
  apply fresh
  rw [← of_decide_eq_true same]
  exact Fact.subject_of_statement? stated ▸ known fact position

theorem Known.object_fresh {head : Head} (known : Known facts)
    (fresh : head.name.text ∉ names facts) :
    object (facts ++ [.declared head]) head.name.text =
      ⟨head.name.text, some head.name.location, .given head.modifiers, [], []⟩ := by
  simp only [object, rolesOf, headsOf_append_declared]
  rw [statementsOf_append rfl, indicesOf_append rfl, headsOf_eq_nil_iff.2 fresh,
    known.indicesOf_eq_nil fresh, known.statementsOf_eq_nil fresh]
  simp

theorem object_append_other {head : Head} (other : name ≠ head.name.text) :
    object (facts ++ [.declared head]) name = object facts name := by
  simp only [object, rolesOf, headsOf_append_declared]
  rw [statementsOf_append rfl, indicesOf_append rfl, if_neg other, List.append_nil]

/-! ### Tables -/

theorem names_table (facts : List Fact) : (table facts).names = names facts := by
  rw [SymbolTable.names, table, List.map_map]
  exact List.map_id _

theorem find?_table_of_mem (member : name ∈ names facts) :
    (table facts).find? name = some (object facts name) := by
  rw [← names_table] at member
  obtain ⟨found, lookup⟩ := SymbolTable.exists_find?_of_mem_names member
  obtain ⟨key, _, rfl⟩ := List.mem_map.1 (List.mem_of_find?_eq_some lookup)
  have named := List.find?_some lookup
  obtain rfl : key = name := of_decide_eq_true named
  exact lookup

theorem find?_table_of_not_mem (fresh : name ∉ names facts) :
    (table facts).find? name = none := by
  rwa [SymbolTable.find?_eq_none_iff, names_table]

/-- A fact that changes one object does to the table what changing that object does. -/
theorem objects_table_append {fact : Fact} {change : Object → Object}
    (same : names (facts ++ [fact]) = names facts)
    (changed : ∀ key, object (facts ++ [fact]) key =
      if key = name then change (object facts key) else object facts key) :
    (table (facts ++ [fact])).objects = ((table facts).modify name change).objects := by
  simp only [table, SymbolTable.modify, same, List.map_map]
  apply List.map_congr_left
  intro key _
  exact changed key

theorem table_append_listed (facts : List Fact) (owner : String) (literal : Word) :
    table (facts ++ [.listed owner literal]) =
      (table facts).addValueOf owner literal.text (some literal.location) := by
  have count : (table facts).values.length = (literals facts).length := List.length_map _
  apply SymbolTable.ext
  · rw [SymbolTable.addValueOf, count]
    exact objects_table_append (names_append rfl) (object_append_listed facts owner literal)
  · change List.map _ _ = List.map _ _ ++ [_]
    rw [literals_append_listed, List.map_append]
    rfl
  · rw [diagnostics_table_append, SymbolTable.diagnostics_addValueOf]
    exact List.append_nil _

theorem table_append_stated (facts : List Fact) (owner : String) (statement : Statement) :
    table (facts ++ [.stated owner statement]) =
      ((table facts).addDiagnostics (diagnosticsAt facts (.stated owner statement))).modify owner
        (Object.addTransition statement.transition) := by
  apply SymbolTable.ext
  · exact objects_table_append (names_append rfl) (object_append_stated facts owner statement)
  · change List.map _ _ = List.map _ _
    rw [literals_append rfl]
  · exact diagnostics_table_append facts _

theorem table_append_declared {head : Head} (known : head.name.text ∈ names facts) :
    table (facts ++ [.declared head]) =
      ((table facts).addDiagnostics (diagnosticsAt facts (.declared head))).modify head.name.text
        (Object.addRoles (.given head.modifiers)) := by
  apply SymbolTable.ext
  · apply objects_table_append
    · rw [names_append_declared, if_pos known]
    · exact object_append_declared known
  · change List.map _ _ = List.map _ _
    rw [literals_append rfl]
  · exact diagnostics_table_append facts _

theorem Known.table_append_declared {head : Head} (known : Known facts)
    (fresh : head.name.text ∉ names facts) :
    table (facts ++ [.declared head]) =
      (table facts).declare
        ⟨head.name.text, some head.name.location, .given head.modifiers, [], []⟩ := by
  apply SymbolTable.ext
  · change List.map _ _ = List.map _ _ ++ [_]
    rw [names_append_declared, if_neg fresh, List.map_append, List.map_singleton,
      known.object_fresh fresh]
    congr 1
    apply List.map_congr_left
    intro name member
    apply object_append_other
    rintro rfl
    exact fresh member
  · change List.map _ _ = List.map _ _
    rw [literals_append rfl]
  · have roles : rolesOf facts head.name.text = .through := by
      rw [rolesOf, headsOf_eq_nil_iff.2 fresh]
      rfl
    rw [diagnostics_table_append, SymbolTable.diagnostics_declare, diagnosticsAt, roles]
    simp

end Grammar

end StateDescription
