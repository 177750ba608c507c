/-!
Decimal text of integers, plain or filled up with zeros to a width. A minus sign takes one
place of the width.
-/

namespace StateDescription.Decimal

def digits (n : Nat) : List Char :=
  Nat.toDigits 10 n

def signed : Int → List Char
  | .ofNat n => digits n
  | .negSucc n => '-' :: digits (n + 1)

def padded (width : Nat) : Int → List Char
  | .ofNat n => (digits n).leftpad width '0'
  | .negSucc n => '-' :: (digits (n + 1)).leftpad (width - 1) '0'

/-- The number that a row of digits reads as, from the most significant one. -/
def value (cs : List Char) : Nat :=
  Nat.ofDigitChars 10 cs 0

theorem value_digits (n : Nat) : value (digits n) = n :=
  Nat.ofDigitChars_toDigits (by decide) (by decide)

theorem digits_injective {m n : Nat} (h : digits m = digits n) : m = n := by
  rw [← value_digits m, h, value_digits]

end StateDescription.Decimal
