import Mathlib.Data.ENat.Lattice
import StateDescription.Proofs.Segmentation

/-!
Iterations over one cursor. Each goes on where the one before it stopped, wherever that was, so
together they yield what one scan yields, up to the sum of their limits.
-/

namespace StateDescription

namespace Cursor

variable {cursor later : Cursor} {item : Item}

/-- How many items an iteration may yield. -/
def allowed : Option Nat → ℕ∞
  | some limit => limit
  | none => ⊤

/-! ### One iteration -/

theorem items_finish (cursor : Cursor) : cursor.finish.items = [] :=
  items_of_next?_eq_none rfl

theorem finish_of_next? (found : cursor.next? = some (item, later)) :
    later.finish = cursor.finish := by
  obtain ⟨_, span, _, text, _, _, _, file, place⟩ := exists_span_of_next? found
  rw [finish, finish, file, place, text, Position.after_append _ _ later.rest]

/-- An iteration yields the next items, as many as its limit allows, and leaves the others. -/
theorem take_eq (limit : Nat) (cursor : Cursor) :
    (cursor.take limit).1 = cursor.items.take limit ∧
      (cursor.take limit).2.items = cursor.items.drop limit := by
  induction limit generalizing cursor with
  | zero => exact ⟨rfl, rfl⟩
  | succ limit ih =>
      rw [take]
      cases found : cursor.next? with
      | none =>
          rw [items_of_next?_eq_none found, List.take_nil, List.drop_nil]
          exact ⟨rfl, items_finish cursor⟩
      | some next =>
          obtain ⟨item, later⟩ := next
          obtain ⟨yielded, left⟩ := ih later
          rw [items_of_next?_eq_some found]
          exact ⟨congrArg (List.cons item) yielded, left⟩

/-- An iteration without a limit is one that never reaches its limit. -/
theorem iterate_none {limit : Nat} (enough : cursor.items.length < limit) :
    cursor.iterate none = cursor.take limit := by
  induction limit generalizing cursor with
  | zero => exact absurd enough (Nat.not_lt_zero _)
  | succ limit ih =>
      rw [iterate, take]
      cases found : cursor.next? with
      | none => rw [items_of_next?_eq_none found]
      | some next =>
          obtain ⟨item, later⟩ := next
          rw [items_of_next?_eq_some found] at enough ⊢
          have rest : later.iterate none = later.take limit :=
            ih (Nat.lt_of_succ_lt_succ enough)
          dsimp only
          rw [← rest, iterate, finish_of_next? found]

/-- Nothing is lost between an iteration and the next one. -/
theorem items_iterate (limit : Option Nat) (cursor : Cursor) :
    (cursor.iterate limit).1 ++ (cursor.iterate limit).2.items = cursor.items ∧
      ((cursor.iterate limit).1.length : ℕ∞) = min (allowed limit) cursor.items.length := by
  cases limit with
  | none =>
      obtain ⟨yielded, left⟩ := cursor.take_eq (cursor.items.length + 1)
      rw [iterate_none (Nat.lt_succ_self _), yielded, left, List.take_append_drop,
        List.take_of_length_le (Nat.le_succ _)]
      exact ⟨rfl, (min_eq_right le_top).symm⟩
  | some limit =>
      obtain ⟨yielded, left⟩ := cursor.take_eq limit
      rw [iterate, yielded, left, List.take_append_drop, List.length_take]
      exact ⟨rfl, Nat.mono_cast.map_min⟩

/-! ### Several iterations -/

theorem iterations_cons (limit : Option Nat) (limits : List (Option Nat)) (cursor : Cursor) :
    iterations (limit :: limits) cursor =
      (cursor.iterate limit).1 :: iterations limits (cursor.iterate limit).2 := rfl

theorem flatten_iterations_prefix (limits : List (Option Nat)) (cursor : Cursor) :
    (iterations limits cursor).flatten <+: cursor.items := by
  induction limits generalizing cursor with
  | nil => exact List.nil_prefix
  | cons limit limits ih =>
      rw [iterations_cons, List.flatten_cons, ← (cursor.items_iterate limit).1]
      exact (List.prefix_append_right_inj _).2 (ih _)

/-- Either a limit stops an iteration, or it leaves nothing to the iterations behind it. -/
theorem add_min_left {yielded left : Nat} {limit others : ℕ∞}
    (stopped : (yielded : ℕ∞) = min limit (yielded + left)) :
    yielded + min others left = min (limit + others) (yielded + left) := by
  rcases le_total limit (yielded + left) with stops | ends
  · rw [min_eq_left stops] at stopped
    rw [← stopped]
    exact (min_add_add_left _ _ _).symm
  · rw [min_eq_right ends] at stopped
    have nothing : left = 0 := by
      have same : yielded = yielded + left := by exact_mod_cast stopped
      omega
    subst nothing
    have enough := ends.trans (le_self_add (a := limit) (b := others))
    rw [Nat.cast_zero, min_eq_right (zero_le : 0 ≤ others), ← Nat.cast_zero, min_eq_right enough]

theorem length_flatten_iterations (limits : List (Option Nat)) (cursor : Cursor) :
    ((iterations limits cursor).flatten.length : ℕ∞) =
      min (limits.map allowed).sum cursor.items.length := by
  induction limits generalizing cursor with
  | nil => exact (min_eq_left zero_le).symm
  | cons limit limits ih =>
      obtain ⟨whole, stopped⟩ := cursor.items_iterate limit
      rw [← whole, List.length_append, Nat.cast_add] at stopped ⊢
      rw [iterations_cons, List.flatten_cons, List.length_append, Nat.cast_add, ih, List.map_cons,
        List.sum_cons]
      exact add_min_left stopped

theorem iterations_of_no_items (limits : List (Option Nat)) (ended : cursor.items = []) :
    iterations limits cursor = limits.map fun _ => [] := by
  induction limits generalizing cursor with
  | nil => rfl
  | cons limit limits ih =>
      have whole := (cursor.items_iterate limit).1
      rw [ended, List.append_eq_nil_iff] at whole
      rw [iterations_cons, List.map_cons, whole.1, ih whole.2]

/-- Behind an iteration without a limit nothing is left. -/
theorem getElem?_iterations_of_none {limits : List (Option Nat)} {first later : Nat}
    (unlimited : limits[first]? = some none) (behind : first < later)
    (inside : later < limits.length) (cursor : Cursor) :
    (iterations limits cursor)[later]? = some [] := by
  induction limits generalizing first later cursor with
  | nil => cases unlimited
  | cons limit limits ih =>
      obtain ⟨later, rfl⟩ := Nat.exists_eq_add_one_of_ne_zero (Nat.ne_zero_of_lt behind)
      have fits : later < limits.length := Nat.lt_of_succ_lt_succ inside
      rw [iterations_cons, List.getElem?_cons_succ]
      cases first with
      | zero =>
          cases unlimited
          have ended : (cursor.iterate none).2.items = [] := cursor.items_finish
          rw [iterations_of_no_items limits ended, List.getElem?_map,
            List.getElem?_eq_getElem fits]
          rfl
      | succ first => exact ih unlimited (Nat.lt_of_succ_lt_succ behind) fits _

end Cursor

/-- However often an iteration is given up, the next ones go on as if it had not been: together
they yield the first items of a full scan, as many as their limits allow together. Behind an
iteration without a limit all others yield nothing. -/
theorem iterations_yield_scan (file source : String) (limits : List (Option Nat)) :
    (Cursor.iterations limits (.start file source)).flatten <+: scan file source ∧
      ((Cursor.iterations limits (.start file source)).flatten.length : ℕ∞) =
        min (limits.map Cursor.allowed).sum (scan file source).length ∧
      ∀ first later, limits[first]? = some none → first < later → later < limits.length →
        (Cursor.iterations limits (.start file source))[later]? = some [] := by
  refine ⟨Cursor.flatten_iterations_prefix limits _, Cursor.length_flatten_iterations limits _, ?_⟩
  intro first later unlimited behind inside
  exact Cursor.getElem?_iterations_of_none unlimited behind inside _

/-- The text is a name, a comment, a blank line, a literal over two lines and a `$`. The first
iteration stops before the blank behind the name, the third one before the blank line. -/
theorem iterations_cut_at_blanks :
    let limits := [some 1, some 0, some 1, none, some 2]
    let yielded := Cursor.iterations limits (Cursor.start "sample" "a # c\n\n 'x\ny'$ ")
    yielded =
        [[.token ⟨.identifier, "a", ⟨"sample", 1, 1⟩⟩], [],
          [.token ⟨.comment, "# c", ⟨"sample", 1, 3⟩⟩],
          [.token ⟨.literal, "x\ny", ⟨"sample", 3, 2⟩⟩,
            .fault ⟨.unknownToken "$", some ⟨"sample", 4, 3⟩⟩], []] ∧
      yielded.flatten <+: scan "sample" "a # c\n\n 'x\ny'$ " := by
  intro limits yielded
  exact ⟨by decide +kernel, (iterations_yield_scan "sample" _ limits).1⟩

end StateDescription
