import Mathlib.Data.List.Nodup
import Mathlib.Data.List.Perm.Basic
import StateDescription.Proofs.ObjectNames

/-!
Every object has a name of its own, so what is filed under the names of the objects is filed under
one of them.
-/

namespace StateDescription

/-! ### Entries filed under names -/

section Filing

variable {α : Type} {names : List String}

/-- A list that the names give together comes from the one name that gives anything. -/
theorem flatMap_eq_of_mem {give : String → List α} {name : String} (nodup : names.Nodup)
    (member : name ∈ names) (others : ∀ other, other ≠ name → give other = []) :
    names.flatMap give = give name := by
  obtain ⟨early, late, rfl⟩ := List.append_of_mem member
  rw [List.nodup_append, List.nodup_cons] at nodup
  obtain ⟨_, ⟨notLate, _⟩, apart⟩ := nodup
  have before : early.flatMap give = [] := by
    rw [List.flatMap_eq_nil_iff]
    intro other found
    exact others other (apart other found name List.mem_cons_self)
  have behind : late.flatMap give = [] := by
    rw [List.flatMap_eq_nil_iff]
    intro other found
    refine others other ?_
    rintro rfl
    exact notLate found
  rw [List.flatMap_append, List.flatMap_cons, before, behind, List.nil_append, List.append_nil]

/-- Entries filed under names are all there, each under one name only. -/
theorem perm_flatMap_filter (key : α → String) {entries : List α} (nodup : names.Nodup)
    (filed : ∀ entry ∈ entries, key entry ∈ names) :
    (names.flatMap fun name => entries.filter (key · = name)).Perm entries := by
  induction entries with
  | nil => simp
  | cons entry entries ih =>
      have split : (names.flatMap fun name => (entry :: entries).filter (key · = name)) =
          names.flatMap fun name =>
            (if key entry = name then [entry] else []) ++ entries.filter (key · = name) := by
        congr 1
        funext name
        by_cases same : key entry = name <;> simp [same]
      have alone : (names.flatMap fun name => if key entry = name then [entry] else []) =
          [entry] := by
        rw [flatMap_eq_of_mem nodup (filed entry List.mem_cons_self)]
        · exact if_pos rfl
        · exact fun other differs => if_neg differs.symm
      rw [split]
      refine (List.flatMap_append_perm names _ _).symm.trans ?_
      rw [alone]
      exact (ih fun other member => filed other (List.mem_cons_of_mem _ member)).cons entry

end Filing

theorem SymbolTable.find?_of_mem_objects {table : SymbolTable} (nodup : table.names.Nodup)
    {object : Object} (member : object ∈ table.objects) : table.find? object.name = some object := by
  obtain ⟨early, late, objects⟩ := List.append_of_mem member
  rw [SymbolTable.names, objects, List.map_append, List.nodup_append] at nodup
  rw [SymbolTable.find?, objects, List.find?_append, List.find?_eq_none.2, Option.none_or]
  · exact List.find?_cons_of_pos (decide_eq_true rfl)
  intro other found same
  refine nodup.2.2 other.name (List.mem_map_of_mem found) object.name List.mem_cons_self ?_
  exact of_decide_eq_true same

end StateDescription
