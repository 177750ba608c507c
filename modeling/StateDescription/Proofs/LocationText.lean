import Mathlib.Data.List.Basic
import StateDescription.Location

/-!
Locations as text. Line and column are written without a colon, so they can be read off the end of
the text whatever the name of the file is, and each number is the value of its digits however many
zeros stand before them.
-/

namespace StateDescription

/-! ### Texts with a separator -/

section Separated

variable {α : Type} {separator : α} {first second rest more : List α}

/-- The first separator of a list parts it. -/
theorem append_cons_inj_first (absent : separator ∉ first) (absentToo : separator ∉ second)
    (same : first ++ separator :: rest = second ++ separator :: more) :
    first = second ∧ rest = more := by
  rcases List.append_eq_append_iff.1 same with ⟨longer, rfl, split⟩ | ⟨longer, rfl, split⟩
  · cases longer with
    | nil =>
        cases split
        exact ⟨(List.append_nil _).symm, rfl⟩
    | cons head longer =>
        cases split
        exact absurd (List.mem_append_right _ List.mem_cons_self) absentToo
  · cases longer with
    | nil =>
        cases split
        exact ⟨List.append_nil _, rfl⟩
    | cons head longer =>
        cases split
        exact absurd (List.mem_append_right _ List.mem_cons_self) absent

/-- The last separator of a list parts it. -/
theorem append_cons_inj_last (absent : separator ∉ rest) (absentToo : separator ∉ more)
    (same : first ++ separator :: rest = second ++ separator :: more) :
    first = second ∧ rest = more := by
  have reversed := congrArg List.reverse same
  simp only [List.reverse_append, List.reverse_cons, List.append_assoc,
    List.singleton_append] at reversed
  obtain ⟨ends, starts⟩ := append_cons_inj_first (List.mem_reverse.not.2 absent)
    (List.mem_reverse.not.2 absentToo) reversed
  exact ⟨List.reverse_injective starts, List.reverse_injective ends⟩

end Separated

/-! ### Numbers -/

namespace Decimal

theorem isDigit_of_mem_digits {c : Char} {n : Nat} (member : c ∈ digits n) : c.isDigit = true :=
  Nat.isDigit_of_mem_toDigits (by decide) (by decide) member

theorem isDigit_of_mem_leftpad {c : Char} {width n : Nat}
    (member : c ∈ (digits n).leftpad width '0') : c.isDigit = true := by
  rcases List.mem_append.1 member with filled | digit
  · rw [List.eq_of_mem_replicate filled]
    rfl
  · exact isDigit_of_mem_digits digit

theorem not_mem_padded {c : Char} (notDigit : c.isDigit = false) (notSign : c ≠ '-') (width : Nat)
    (n : Int) : c ∉ padded width n := by
  have inDigits {width n : Nat} : c ∉ (digits n).leftpad width '0' := by
    intro member
    rw [isDigit_of_mem_leftpad member] at notDigit
    cases notDigit
  cases n with
  | ofNat n => exact inDigits
  | negSucc n => exact List.not_mem_cons_of_ne_of_not_mem notSign inDigits

/-- Zeros in front of a number do not count. -/
theorem value_leftpad (width n : Nat) : value ((digits n).leftpad width '0') = n := by
  rw [List.leftpad, value, Nat.ofDigitChars_append, Nat.ofDigitChars_replicate_zero, Nat.mul_zero]
  exact value_digits n

theorem leftpad_injective {width other m n : Nat}
    (same : (digits m).leftpad width '0' = (digits n).leftpad other '0') : m = n := by
  rw [← value_leftpad width m, same, value_leftpad]

theorem leftpad_ne_sign {width n : Nat} {rest : List Char} :
    (digits n).leftpad width '0' ≠ '-' :: rest := by
  intro same
  have member : '-' ∈ (digits n).leftpad width '0' := by
    rw [same]
    exact List.mem_cons_self
  exact absurd (isDigit_of_mem_leftpad member) (by decide)

theorem padded_injective (width : Nat) : Function.Injective (padded width) := by
  intro first second same
  cases first with
  | ofNat m =>
      cases second with
      | ofNat n => rw [leftpad_injective same]
      | negSucc n => exact absurd same leftpad_ne_sign
  | negSucc m =>
      cases second with
      | ofNat n => exact absurd same.symm leftpad_ne_sign
      | negSucc n =>
          have digits := leftpad_injective (List.cons.inj same).2
          rw [Nat.succ.inj digits]

end Decimal

/-! ### Locations -/

namespace Location

theorem toList_text (location : Location) :
    location.text.toList =
      (location.file.toList ++ ':' :: Decimal.padded 3 location.line) ++
        ':' :: Decimal.padded 3 location.column := by
  simp [text]

theorem text_injective : Function.Injective text := by
  intro first second same
  have texts := congrArg String.toList same
  rw [toList_text, toList_text] at texts
  have plain (n : Int) : ':' ∉ Decimal.padded 3 n :=
    Decimal.not_mem_padded (by decide) (by decide) 3 n
  obtain ⟨front, columns⟩ := append_cons_inj_last (plain _) (plain _) texts
  obtain ⟨files, lines⟩ := append_cons_inj_last (plain _) (plain _) front
  have file := String.toList_inj.1 files
  have line := Decimal.padded_injective 3 lines
  have column := Decimal.padded_injective 3 columns
  cases first
  cases second
  cases file
  cases line
  cases column
  rfl

theorem lead_injective : Function.Injective lead := by
  intro first second same
  exact text_injective ((String.append_left_inj _).1 same)

theorem eq_iff_fields {first second : Location} :
    first = second ↔
      first.file = second.file ∧ first.line = second.line ∧ first.column = second.column := by
  cases first
  cases second
  exact Iff.of_eq (mk.injEq _ _ _ _ _ _)

end Location

/-- A location can be read back from its text, and from its lead: whatever the name of the file and
whatever integers line and column are, locations with the same text agree in all of them. -/
theorem location_read_back (first second : Location) :
    (first.text = second.text ↔
        first.file = second.file ∧ first.line = second.line ∧ first.column = second.column) ∧
      (first.lead = second.lead ↔
        first.file = second.file ∧ first.line = second.line ∧ first.column = second.column) := by
  rw [← Location.eq_iff_fields]
  exact ⟨Location.text_injective.eq_iff, Location.lead_injective.eq_iff⟩

end StateDescription
