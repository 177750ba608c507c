import StateDescription.Proofs.LocationText
import StateDescription.Text.Quoted

/-!
Control characters in what is written. Numbers and quoted texts hold none, and the place in front
of a line only those of the name of its file, apart from the tab that ends it.
-/

namespace StateDescription

/-- The characters before the space, line feed, tab and escape among them. -/
def isControl (c : Char) : Bool :=
  c.toNat < 0x20

theorem not_mem_of_isControl {c : Char} {cs : List Char} (control : isControl c = true)
    (plain : cs.any isControl = false) : c ∉ cs := by
  intro member
  have some : cs.any isControl = true := List.any_eq_true.2 ⟨c, member, control⟩
  rw [plain] at some
  cases some

/-- A text spelled character by character holds none where no spelling does. -/
theorem any_isControl_flatMap {spell : Char → List Char}
    (plain : ∀ c, (spell c).any isControl = false) (cs : List Char) :
    (cs.flatMap spell).any isControl = false := by
  rw [List.any_flatMap, List.any_eq_false]
  intro c _
  rw [plain]
  exact Bool.false_ne_true

/-! ### Numbers -/

theorem not_isControl_of_isDigit {c : Char} (digit : c.isDigit = true) : isControl c = false := by
  simp only [Char.isDigit, Bool.and_eq_true, decide_eq_true_eq, ge_iff_le,
    UInt32.le_iff_toNat_le] at digit
  exact decide_eq_false (Nat.not_lt.2 (Nat.le_trans (by decide) digit.1))

theorem Decimal.any_isControl_digits (n : Nat) : (digits n).any isControl = false := by
  rw [List.any_eq_false]
  intro c member
  rw [not_isControl_of_isDigit (isDigit_of_mem_digits member)]
  exact Bool.false_ne_true

theorem Decimal.not_mem_padded_of_isControl {c : Char} (control : isControl c = true) (width : Nat)
    (n : Int) : c ∉ padded width n := by
  apply not_mem_padded
  · apply Bool.eq_false_iff.2
    intro digit
    rw [not_isControl_of_isDigit digit] at control
    cases control
  · rintro rfl
    exact absurd control (by decide)

theorem Hexadecimal.any_isControl_fixed (width n : Nat) :
    (fixed width n).any isControl = false := by
  have plain : ∀ m < 16, isControl (Nat.digitChar m) = false := by decide
  induction width generalizing n with
  | zero => rfl
  | succ width ih =>
      rw [fixed, List.any_append, ih, List.any_cons, plain _ (Nat.mod_lt n (by decide))]
      rfl

/-! ### Quoted texts -/

namespace Quoted

theorem any_isControl_numbered (c : Char) : (numbered c).any isControl = false := by
  have digits (letter : Char) (width : Nat) (plain : isControl letter = false) :
      ('\\' :: letter :: Hexadecimal.fixed width c.toNat).any isControl = false := by
    rw [List.any_cons, List.any_cons, plain, Hexadecimal.any_isControl_fixed]
    rfl
  unfold numbered
  split
  · exact digits 'x' 2 rfl
  · split
    · exact digits 'u' 4 rfl
    · exact digits 'U' 8 rfl

theorem any_isControl_spelled {quote : Char} (plain : isControl quote = false) (c : Char) :
    (spelled quote c).any isControl = false := by
  unfold spelled
  split
  · rename_i symbol
    rcases symbol with rfl | rfl
    · rw [List.any_cons, List.any_cons, plain]
      rfl
    · rfl
  · iterate 3
      split
      · rfl
    split
    · rename_i printable
      rw [List.any_cons, List.any_nil, Bool.or_false]
      apply Bool.eq_false_iff.2
      intro control
      rw [not_isPrintable_of_lt_space (of_decide_eq_true control)] at printable
      cases printable
    · exact any_isControl_numbered c

theorem any_isControl_encode (cs : List Char) : (encode cs).any isControl = false := by
  have plain : isControl (delimiter cs) = false := by
    unfold delimiter
    split <;> rfl
  rw [encode, List.cons_append, List.any_cons, List.any_append, List.any_cons, plain,
    any_isControl_flatMap (any_isControl_spelled plain)]
  rfl

end Quoted

theorem any_isControl_quoted (text : String) : (quoted text).toList.any isControl = false := by
  rw [quoted, String.toList_ofList]
  exact Quoted.any_isControl_encode _

/-! ### Places -/

theorem Location.mem_lead_iff {c : Char} (control : isControl c = true) (notTab : c ≠ '\t')
    (location : Location) : c ∈ location.lead.toList ↔ c ∈ location.file.toList := by
  have numbers (n : Int) : c ∉ Decimal.padded 3 n :=
    Decimal.not_mem_padded_of_isControl control 3 n
  have colon : c ≠ ':' := by
    rintro rfl
    exact absurd control (by decide)
  have arrow : c ∉ " -->\t".toList := by
    have words : " -->\t".toList = " -->".toList ++ ['\t'] := by decide
    rw [words, List.mem_append]
    rintro (word | tab)
    · exact not_mem_of_isControl control (by decide) word
    · exact notTab (List.mem_singleton.1 tab)
  rw [lead, String.toList_append, List.mem_append, or_iff_left arrow, toList_text]
  simp [numbers, colon]

end StateDescription
