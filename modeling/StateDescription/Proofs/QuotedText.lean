import StateDescription.Proofs.JsonText
import StateDescription.Proofs.Printing

/-!
Quoted text read back. A quoted text starts with its delimiter, every character in it shows which
one it is and where its spelling ends, and none starts as the delimiter does. So no two texts are
quoted alike, whichever of the two delimiters each of them takes.
-/

namespace StateDescription

namespace Quoted

theorem isQuote_delimiter (cs : List Char) : Literal.isQuote (delimiter cs) = true := by
  unfold delimiter
  split <;> rfl

/-! ### Characters by their numbers -/

/-- The letter in front of the digits tells how many of them there are. -/
theorem numbered_append_inj {c d : Char} {rest others : List Char}
    (same : numbered c ++ rest = numbered d ++ others) : c = d ∧ rest = others := by
  have digits (width : Nat) {letter : Char} (small : c.toNat < 16 ^ width)
      (smallToo : d.toNat < 16 ^ width)
      (same : '\\' :: letter :: Hexadecimal.fixed width c.toNat ++ rest =
        '\\' :: letter :: Hexadecimal.fixed width d.toNat ++ others) : c = d ∧ rest = others := by
    obtain ⟨numbers, rest⟩ := List.append_inj same (by simp)
    have equal := Hexadecimal.fixed_injOn small smallToo (by simpa using numbers)
    exact ⟨Char.toNat_inj.1 equal, rest⟩
  have bounded := Json.toNat_valid c
  have boundedToo := Json.toNat_valid d
  unfold numbered at same
  split at same
  · rename_i short
    split at same
    · rename_i shortToo
      exact digits 2 (by omega) (by omega) same
    · split at same <;> cases same
  · split at same
    · rename_i middle
      split at same
      · cases same
      · split at same
        · rename_i middleToo
          exact digits 4 (by omega) (by omega) same
        · cases same
    · split at same
      · cases same
      · split at same
        · cases same
        · exact digits 8 (by omega) (by omega) same

/-! ### Characters -/

/-- Reads a character of a quoted text, unless it is given by its number. A letter behind a
backslash means there what it means in a literal. -/
def read? : List Char → Option (Char × List Char)
  | '\\' :: letter :: rest => (Literal.escaped? letter).map (·, rest)
  | c :: rest => some (c, rest)
  | [] => none

theorem read?_numbered (c : Char) (rest : List Char) : read? (numbered c ++ rest) = none := by
  unfold numbered
  split
  · rfl
  · split <;> rfl

theorem read?_spelled {quote : Char} (quoted : Literal.isQuote quote = true) (c : Char)
    (rest : List Char) :
    spelled quote c = numbered c ∨ read? (spelled quote c ++ rest) = some (c, rest) := by
  unfold spelled
  by_cases symbol : c = quote ∨ c = '\\'
  · right
    rw [if_pos symbol]
    rcases symbol with rfl | rfl
    · simp only [Literal.isQuote, Bool.or_eq_true, beq_iff_eq] at quoted
      rcases quoted with rfl | rfl <;> rfl
    · rfl
  · rw [if_neg symbol]
    iterate 3
      split
      · rename_i equal
        exact .inr (equal ▸ rfl)
    split
    · right
      rw [not_or] at symbol
      rw [List.singleton_append, read?]
      rintro letter behind backslash
      exact absurd backslash symbol.2
    · exact .inl rfl

/-- The text of a character never starts as the end of a quoted text. -/
theorem spelled_append_ne {quote : Char} (quoted : Literal.isQuote quote = true) (c : Char)
    (rest others : List Char) : spelled quote c ++ rest ≠ quote :: others := by
  have escaped (cs : List Char) : '\\' :: cs ≠ quote :: others :=
    fun same => Literal.ne_backslash_of_isQuote quoted (List.cons.inj same).1.symm
  unfold spelled
  split
  · exact escaped _
  · rename_i plain
    iterate 3
      split
      · exact escaped _
    split
    · exact fun same => plain (.inl (List.cons.inj same).1)
    · unfold numbered
      split
      · exact escaped _
      · split <;> exact escaped _

theorem legible_spelled {quote : Char} (quoted : Literal.isQuote quote = true) :
    Legible (spelled quote) quote where
  shows := fun _ _ _ _ => append_inj_of_read (read?_spelled quoted) read?_numbered
    fun _ _ _ _ => numbered_append_inj
  inside := spelled_append_ne quoted

theorem encode_injective : Function.Injective encode := by
  intro cs ds same
  obtain ⟨delimiters, quoted⟩ := List.cons.inj same
  rw [delimiters] at quoted
  exact ((legible_spelled (isQuote_delimiter ds)).flatMap_append_inj quoted).1

end Quoted

theorem quoted_injective : Function.Injective quoted := by
  intro first second same
  exact String.toList_inj.1 (Quoted.encode_injective (String.ofList_inj.1 same))

end StateDescription
