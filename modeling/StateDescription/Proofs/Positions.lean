import Mathlib.Data.Prod.Lex
import StateDescription.Proofs.Segmentation

/-!
Positions in reading order. The items of a scan stand at positions that only go forward, so no
two of them share a place.
-/

namespace StateDescription

namespace Position

/-- Line and column, compared in this order. -/
def key (position : Position) : Nat ×ₗ Nat :=
  toLex (position.line, position.column)

theorem key_injective : Function.Injective key := by
  intro first second same
  cases first
  cases second
  cases same
  rfl

instance : PartialOrder Position :=
  PartialOrder.lift key key_injective

theorem lt_iff {first second : Position} :
    first < second ↔
      first.line < second.line ∨ first.line = second.line ∧ first.column < second.column :=
  Prod.Lex.toLex_lt_toLex

theorem lt_next (position : Position) (c : Char) : position < position.next c := by
  rw [lt_iff, next]
  split
  · exact .inl (Nat.lt_succ_self _)
  · exact .inr ⟨rfl, Nat.lt_succ_self _⟩

theorem le_after (position : Position) (cs : List Char) : position ≤ position.after cs := by
  induction cs generalizing position with
  | nil => exact le_refl position
  | cons c cs ih => exact (lt_next position c).le.trans (ih (position.next c))

theorem lt_after {position : Position} {cs : List Char} (nonempty : cs ≠ []) :
    position < position.after cs := by
  cases cs with
  | nil => contradiction
  | cons c cs => exact (lt_next position c).trans_le (le_after _ cs)

theorem within_injective {file : String} {first second : Position}
    (h : first.within file = second.within file) : first = second := by
  obtain ⟨line, column⟩ := first
  obtain ⟨otherLine, otherColumn⟩ := second
  simp only [within, Location.mk.injEq, Int.natCast_inj, true_and] at h
  rw [h.1, h.2]

end Position

@[simp] theorem Lexeme.location?_at (lexeme : Lexeme) (location : Location) :
    (lexeme.at location).location? = some location := by
  cases lexeme <;> rfl

namespace Segmented

variable {file : String} {position : Position} {cs : List Char} {items : List Item}

theorem exists_position (segmented : Segmented file position cs items) {item : Item}
    (member : item ∈ items) :
    ∃ place : Position, position ≤ place ∧ item.location? = some (place.within file) := by
  induction segmented with
  | blanks => cases member
  | @item position gap span rest lexeme items _ _ _ _ _ ih =>
      cases member with
      | head => exact ⟨_, position.le_after gap, Lexeme.location?_at lexeme _⟩
      | tail _ later =>
          obtain ⟨place, forward, located⟩ := ih later
          exact ⟨place, (position.le_after _).trans forward, located⟩

/-- No two items stand at one place. -/
theorem nodup_locations (segmented : Segmented file position cs items) :
    (items.map Item.location?).Nodup := by
  induction segmented with
  | blanks => exact List.nodup_nil
  | @item position gap span rest lexeme items _ nonempty _ _ more ih =>
      rw [List.map_cons, List.nodup_cons]
      refine ⟨?_, ih⟩
      intro member
      obtain ⟨other, later, same⟩ := List.mem_map.1 member
      obtain ⟨place, forward, located⟩ := more.exists_position later
      rw [same, Lexeme.location?_at, Option.some.injEq] at located
      have samePlace := Position.within_injective located
      rw [← samePlace, Position.after_append] at forward
      exact lt_irrefl _ ((Position.lt_after nonempty).trans_le forward)

end Segmented

end StateDescription
