/-!
Lower-case hexadecimal text with a fixed number of digits.
-/

namespace StateDescription.Hexadecimal

/-- The lowest `width` hexadecimal digits of a number, the most significant one first. -/
def fixed : (width : Nat) → (n : Nat) → List Char
  | 0, _ => []
  | width + 1, n => fixed width (n / 16) ++ [Nat.digitChar (n % 16)]

@[simp] theorem length_fixed (width n : Nat) : (fixed width n).length = width := by
  induction width generalizing n with
  | zero => rfl
  | succ width ih => simp [fixed, ih]

end StateDescription.Hexadecimal
