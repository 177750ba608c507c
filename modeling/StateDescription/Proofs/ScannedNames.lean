import StateDescription.Proofs.Printing
import StateDescription.Proofs.Provenance

/-!
The names of a source. A token of a scan has a value that its type admits, so a name that is read
is a run of alphanumeric characters or one of the two reserved names.
-/

namespace StateDescription

/-! ### The values of tokens -/

theorem Lexeme.Covers.admits {type : TokenType} {value : String} {span rest : List Char}
    (covers : Covers (.token type value) span rest) (nonempty : span ≠ []) :
    type.Admits value := by
  cases covers with
  | identifier alphanumeric => exact exists_writes_iff.1 ⟨_, .identifier nonempty alphanumeric⟩
  | comment oneLine => exact exists_writes_iff.1 ⟨_, .comment oneLine⟩
  | lastComment oneLine => exact exists_writes_iff.1 ⟨_, .comment oneLine⟩
  | literal => trivial
  | punctuation known => exact TokenType.admits_of_ofPunctuation? known

theorem admits_of_mem_scan {file source : String} {token : Token}
    (read : .token token ∈ scan file source) : token.type.Admits token.value := by
  obtain ⟨lexeme, span, rest, place, nonempty, covers, same⟩ :=
    (scan_segmented file source).1.exists_lexeme read
  cases lexeme with
  | token type value =>
      cases same
      exact covers.admits nonempty
  | problem problem => cases same

/-- No name is a single symbol. -/
theorem TokenType.not_admits_symbol {symbol : String} {c : Char} (inside : c ∈ symbol.toList)
    (other : isAlphanumeric c = false) : ¬ identifier.Admits symbol := by
  rintro ⟨_, alphanumeric⟩
  rw [alphanumeric c inside] at other
  cases other

/-! ### The names of tokens -/

/-- A name that is not reserved is what an identifier may be. -/
inductive PendingName.Proper : PendingName → Prop
  | identifier {name : String} (location : Location)
      (admits : TokenType.identifier.Admits name) : Proper ⟨name, location, false⟩
  | broadcast (location : Location) : Proper ⟨"@", location, true⟩
  | stay (location : Location) : Proper ⟨".", location, true⟩

theorem Item.proper_of_name? {token : Token} {name : PendingName}
    (admits : token.type.Admits token.value) (fed : (Item.token token).name? = some name) :
    name.Proper := by
  obtain ⟨type, value, location⟩ := token
  unfold Item.name? at fed
  split at fed <;> cases fed <;> rename_i same <;> cases same
  · exact .identifier location admits
  · exact .broadcast location
  · exact .stay location

theorem proper_of_mem_namesOf_scan {file source : String} {name : PendingName}
    (read : name ∈ Item.namesOf (scan file source)) : name.Proper := by
  obtain ⟨item, member, fed⟩ := List.mem_filterMap.1 read
  cases item with
  | token token => exact Item.proper_of_name? (admits_of_mem_scan member) fed
  | fault fault => cases fed

namespace PendingName.Proper

variable {name : PendingName}

theorem name_cases (proper : name.Proper) :
    TokenType.identifier.Admits name.name ∨ name.name = "@" ∨ name.name = "." := by
  cases proper with
  | identifier location admits => exact .inl admits
  | broadcast => exact .inr (.inl rfl)
  | stay => exact .inr (.inr rfl)

/-- A name holds no symbol but those of the reserved names. -/
theorem not_mem {c : Char} (proper : name.Proper) (other : isAlphanumeric c = false)
    (notAt : c ≠ '@') (notDot : c ≠ '.') : c ∉ name.name.toList := by
  intro member
  cases proper with
  | identifier location admits => exact TokenType.not_admits_symbol member other admits
  | broadcast => exact notAt (by simpa using member)
  | stay => exact notDot (by simpa using member)

end PendingName.Proper

end StateDescription
