import StateDescription.Proofs.ControlCharacters
import StateDescription.Proofs.JsonText

/-!
Control characters in JSON texts. Strings and numbers show none, whatever they are about, and the
only one between them is the line feed.
-/

namespace StateDescription

namespace Json

/-! ### Strings and numbers -/

theorem any_isControl_unit (n : Nat) : (unit n).any isControl = false := by
  rw [unit, List.any_cons, List.any_cons, Hexadecimal.any_isControl_fixed]
  rfl

theorem any_isControl_numbered (c : Char) : (numbered c).any isControl = false := by
  unfold numbered
  split
  · exact any_isControl_unit _
  · rw [List.any_append, any_isControl_unit, any_isControl_unit]
    rfl

theorem any_isControl_spelled (c : Char) : (spelled c).any isControl = false := by
  unfold spelled
  split
  · rename_i symbol
    rcases symbol with rfl | rfl <;> rfl
  · iterate 5
      split
      · rfl
    split
    · rename_i printable
      rw [List.any_cons, List.any_nil, Bool.or_false]
      exact decide_eq_false (Nat.not_lt.2 printable.1)
    · exact any_isControl_numbered c

theorem any_isControl_stringText (text : String) : (stringText text).any isControl = false := by
  rw [stringText, List.any_append, List.any_cons, any_isControl_flatMap any_isControl_spelled]
  rfl

theorem any_isControl_signed (n : Int) : (Decimal.signed n).any isControl = false := by
  cases n with
  | ofNat n => exact Decimal.any_isControl_digits n
  | negSucc n =>
      rw [Decimal.signed, List.any_cons, Decimal.any_isControl_digits]
      rfl

/-! ### Elements between brackets -/

section Control

variable {c : Char} (control : isControl c = true)

include control

namespace Layout

variable {layout : Layout} {depth : Nat}

theorem eq_lineFeed_of_mem_lineBreak (member : c ∈ layout.lineBreak depth) : c = '\n' := by
  cases layout with
  | oneLine => cases member
  | indented width =>
      rcases List.mem_cons.1 member with lineFeed | space
      · exact lineFeed
      · rw [List.eq_of_mem_replicate space] at control
        cases control

theorem eq_lineFeed_of_mem_separator (member : c ∈ layout.separator depth) : c = '\n' := by
  cases layout with
  | oneLine => exact absurd member (not_mem_of_isControl control rfl)
  | indented width =>
      rcases List.mem_cons.1 member with rfl | lineBreak
      · cases control
      · exact eq_lineFeed_of_mem_lineBreak control lineBreak

theorem eq_lineFeed_of_mem_enclosed {opening closing : Char} {elements : List (List Char)}
    (plain : [opening, closing].any isControl = false)
    (inside : ∀ element ∈ elements, c ∈ element → c = '\n')
    (member : c ∈ layout.enclosed depth opening closing elements) : c = '\n' := by
  have outside : c ∉ [opening, closing] := not_mem_of_isControl control plain
  cases elements with
  | nil => exact absurd member outside
  | cons element later =>
      rw [← List.append_nil (layout.enclosed _ _ _ _), enclosed_cons_append] at member
      simp only [List.mem_cons, List.mem_append, List.mem_flatMap, List.not_mem_nil,
        or_false] at member outside
      obtain ⟨notOpening, notClosing⟩ := not_or.1 outside
      rcases member with opens | first | own | ⟨other, isLater, separator | own⟩ | last | closes
      · exact absurd opens notOpening
      · exact eq_lineFeed_of_mem_lineBreak control first
      · exact inside element List.mem_cons_self own
      · exact eq_lineFeed_of_mem_separator control separator
      · exact inside other (List.mem_cons_of_mem _ isLater) own
      · exact eq_lineFeed_of_mem_lineBreak control last
      · exact absurd closes notClosing

end Layout

/-! ### Values -/

/-- The only control character of a JSON text is the line feed between elements. -/
theorem eq_lineFeed_of_mem_chars {layout : Layout} {depth : Nat} {json : Json}
    (member : c ∈ json.chars layout depth) : c = '\n' := by
  induction json using induct generalizing depth with
  | null => exact absurd member (not_mem_of_isControl control rfl)
  | integer n => exact absurd member (not_mem_of_isControl control (any_isControl_signed n))
  | string text =>
      exact absurd member (not_mem_of_isControl control (any_isControl_stringText text))
  | array elements ih =>
      rw [chars, elementChars_eq] at member
      refine Layout.eq_lineFeed_of_mem_enclosed control rfl (List.forall_mem_map.2 ?_) member
      exact fun element isElement => ih element isElement
  | object members ih =>
      rw [chars, memberChars_eq] at member
      refine Layout.eq_lineFeed_of_mem_enclosed control rfl (List.forall_mem_map.2 ?_) member
      intro pair isPair own
      rcases List.mem_append.1 own with name | value
      · exact absurd name (not_mem_of_isControl control (any_isControl_stringText pair.1))
      · have behind : c ∉ [':', ' '] := not_mem_of_isControl control rfl
        change c ∈ [':', ' '] ++ chars layout (depth + 1) pair.2 at value
        rcases List.mem_append.1 value with colon | value
        · exact absurd colon behind
        · exact ih pair isPair value

end Control

theorem not_mem_text {c : Char} (control : isControl c = true) (other : c ≠ '\n')
    (layout : Layout) (json : Json) : c ∉ (json.text layout).toList := by
  rw [text, String.toList_ofList]
  exact fun member => other (eq_lineFeed_of_mem_chars control member)

end Json

end StateDescription
