/-!
Sets of code points, given as closed ranges in ascending order.
-/

namespace StateDescription

/-- Ranges `(first, last)`, ascending and apart from each other. -/
abbrev CodePointSet := List (Nat × Nat)

namespace CodePointSet

/-- Looks no further than the first range that starts above the code point. -/
def covers : CodePointSet → Nat → Bool
  | [], _ => false
  | (first, last) :: later, n =>
    if n < first then false else if n ≤ last then true else covers later n

/-- Whether the ranges ascend, each one ending before the next one starts. -/
def isAscending : CodePointSet → Bool
  | [] => true
  | [(first, last)] => first ≤ last
  | (first, last) :: (next, nextLast) :: later =>
    first ≤ last && last < next && isAscending ((next, nextLast) :: later)

theorem lt_of_isAscending {first last : Nat} {later : CodePointSet}
    (h : isAscending ((first, last) :: later)) :
    ∀ r ∈ later, last < r.1 ∧ last < r.2 := by
  induction later generalizing first last with
  | nil => simp
  | cons head later ih =>
      obtain ⟨next, nextLast⟩ := head
      simp only [isAscending, Bool.and_eq_true, decide_eq_true_eq] at h
      have bound : next ≤ nextLast := by
        cases later with
        | nil => simpa [isAscending] using h.2
        | cons _ _ =>
            simp only [isAscending, Bool.and_eq_true, decide_eq_true_eq] at h
            exact h.2.1.1
      intro r member
      rcases List.mem_cons.1 member with rfl | member
      · exact ⟨h.1.2, by omega⟩
      · have := ih h.2 r member
        omega

/-- On ascending ranges the early stop loses nothing. -/
theorem covers_iff {set : CodePointSet} (ascending : set.isAscending) (n : Nat) :
    set.covers n ↔ ∃ r ∈ set, r.1 ≤ n ∧ n ≤ r.2 := by
  induction set with
  | nil => simp [covers]
  | cons head later ih =>
      obtain ⟨first, last⟩ := head
      have above := lt_of_isAscending ascending
      have tail : isAscending later := by
        cases later with
        | nil => rfl
        | cons _ _ =>
            simp only [isAscending, Bool.and_eq_true] at ascending
            exact ascending.2
      have bound : first ≤ last := by
        cases later with
        | nil => simpa [isAscending] using ascending
        | cons _ _ =>
            simp only [isAscending, Bool.and_eq_true, decide_eq_true_eq] at ascending
            exact ascending.1.1
      simp only [covers]
      split
      · constructor
        · simp
        · rintro ⟨r, member, low, high⟩
          rcases List.mem_cons.1 member with rfl | member
          · simp only at low; omega
          · have := above r member; omega
      · split
        · exact ⟨fun _ => ⟨_, List.mem_cons_self, by simp only; omega, by simpa using ‹_›⟩,
            fun _ => rfl⟩
        · rw [ih tail]
          constructor
          · rintro ⟨r, member, range⟩
            exact ⟨r, List.mem_cons_of_mem _ member, range⟩
          · rintro ⟨r, member, low, high⟩
            rcases List.mem_cons.1 member with rfl | member
            · simp only at low high; omega
            · exact ⟨r, member, low, high⟩

end CodePointSet

end StateDescription
