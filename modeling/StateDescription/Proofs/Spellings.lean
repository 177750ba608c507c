/-!
Texts between quotes, spelled out character by character. Where every spelling shows its character
and its own end, and none starts as the quote does, the text can be told from its spelling.
-/

namespace StateDescription

/-- A way to spell characters in front of a closing quote that can be read back. -/
structure Legible (spell : Char → List Char) (quote : Char) : Prop where
  shows ⦃c d : Char⦄ ⦃rest others : List Char⦄ (same : spell c ++ rest = spell d ++ others) :
    c = d ∧ rest = others
  inside (c : Char) (rest others : List Char) : spell c ++ rest ≠ quote :: others

/-- Characters are told apart when a reader knows every spelling but the numbers, and these tell
themselves apart. -/
theorem append_inj_of_read {spell numbered : Char → List Char}
    {read? : List Char → Option (Char × List Char)}
    (reads : ∀ c rest, spell c = numbered c ∨ read? (spell c ++ rest) = some (c, rest))
    (unread : ∀ c rest, read? (numbered c ++ rest) = none)
    (numbers : ∀ ⦃c d : Char⦄ ⦃rest others : List Char⦄,
      numbered c ++ rest = numbered d ++ others → c = d ∧ rest = others)
    {c d : Char} {rest others : List Char} (same : spell c ++ rest = spell d ++ others) :
    c = d ∧ rest = others := by
  rcases reads c rest with number | short
  · rcases reads d others with numberToo | shortToo
    · rw [number, numberToo] at same
      exact numbers same
    · rw [← same, number, unread] at shortToo
      cases shortToo
  · rcases reads d others with numberToo | shortToo
    · rw [same, numberToo, unread] at short
      cases short
    · rw [← same, short] at shortToo
      cases shortToo
      exact ⟨rfl, rfl⟩

theorem Legible.flatMap_append_inj {spell : Char → List Char} {quote : Char}
    (legible : Legible spell quote) {cs ds rest others : List Char}
    (same : cs.flatMap spell ++ quote :: rest = ds.flatMap spell ++ quote :: others) :
    cs = ds ∧ rest = others := by
  induction cs generalizing ds with
  | nil =>
      cases ds with
      | nil => exact ⟨rfl, (List.cons.inj same).2⟩
      | cons d ds =>
          rw [List.flatMap_cons, List.append_assoc] at same
          exact absurd same.symm (legible.inside d _ _)
  | cons c cs ih =>
      rw [List.flatMap_cons, List.append_assoc] at same
      cases ds with
      | nil => exact absurd same (legible.inside c _ _)
      | cons d ds =>
          rw [List.flatMap_cons, List.append_assoc] at same
          obtain ⟨rfl, later⟩ := legible.shows same
          obtain ⟨rfl, rest⟩ := ih later
          exact ⟨rfl, rest⟩

end StateDescription
