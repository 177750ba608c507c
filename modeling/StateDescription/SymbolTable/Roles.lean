/-!
Roles of an object: it may be an entry point, an end point, both or neither.
-/

namespace StateDescription

inductive Role
  | entryPoint
  | endPoint
  deriving DecidableEq

def Role.name : Role → String
  | entryPoint => "ENTRY_POINT"
  | endPoint => "END_POINT"

structure Roles where
  entryPoint : Bool
  endPoint : Bool
  deriving DecidableEq

namespace Roles

/-- No role: paths only lead through. -/
def through : Roles := ⟨false, false⟩

def hub : Roles := ⟨true, true⟩

def only : Role → Roles
  | .entryPoint => ⟨true, false⟩
  | .endPoint => ⟨false, true⟩

def has (roles : Roles) : Role → Bool
  | .entryPoint => roles.entryPoint
  | .endPoint => roles.endPoint

instance : Membership Role Roles := ⟨fun roles role => roles.has role = true⟩

instance (role : Role) (roles : Roles) : Decidable (role ∈ roles) :=
  inferInstanceAs (Decidable (roles.has role = true))

theorem ext_iff_mem {first second : Roles} :
    first = second ↔ ∀ role : Role, role ∈ first ↔ role ∈ second := by
  constructor
  · rintro rfl role
    rfl
  · intro same
    have entry := same .entryPoint
    have exit := same .endPoint
    obtain ⟨a, b⟩ := first
    obtain ⟨c, d⟩ := second
    simp only [Membership.mem, has] at entry exit
    rw [Bool.eq_iff_iff.2 entry, Bool.eq_iff_iff.2 exit]

def union (first second : Roles) : Roles :=
  ⟨first.entryPoint || second.entryPoint, first.endPoint || second.endPoint⟩

def inter (first second : Roles) : Roles :=
  ⟨first.entryPoint && second.entryPoint, first.endPoint && second.endPoint⟩

def difference (first second : Roles) : Roles :=
  ⟨first.entryPoint && !second.entryPoint, first.endPoint && !second.endPoint⟩

def symmetricDifference (first second : Roles) : Roles :=
  ⟨first.entryPoint ^^ second.entryPoint, first.endPoint ^^ second.endPoint⟩

instance : Union Roles := ⟨union⟩

@[simp] theorem mem_union {role : Role} {first second : Roles} :
    role ∈ first ∪ second ↔ role ∈ first ∨ role ∈ second := by
  cases role <;> exact Bool.or_eq_true_iff

@[simp] theorem not_mem_through (role : Role) : role ∉ through := by
  cases role <;> exact Bool.false_ne_true

@[simp] theorem mem_only {role other : Role} : role ∈ only other ↔ role = other := by
  cases role <;> cases other <;> decide

def isSubset (first second : Roles) : Bool :=
  first.inter second = first

def toList (roles : Roles) : List Role :=
  [.entryPoint, .endPoint].filter roles.has

def names (roles : Roles) : List String :=
  roles.toList.map Role.name

/-- The sets of roles under their names. -/
def named : List (String × Roles) :=
  [("THROUGH", through), ("ENTRY_POINT", only .entryPoint), ("END_POINT", only .endPoint),
    ("HUB", hub)]

def name (roles : Roles) : String :=
  match roles.entryPoint, roles.endPoint with
  | false, false => "THROUGH"
  | true, false => "ENTRY_POINT"
  | false, true => "END_POINT"
  | true, true => "HUB"

/-- The roles as a number: one for an entry point, and two for an end point. -/
def number (roles : Roles) : Nat :=
  roles.entryPoint.toNat + 2 * roles.endPoint.toNat

end Roles

end StateDescription
