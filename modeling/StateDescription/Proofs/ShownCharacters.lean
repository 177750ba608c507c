import StateDescription.Proofs.ReportLines

/-!
Where the characters of diagnostics come from. A diagnostic shows its place, its wording and what
was read; and what was read has no characters but those of the source and those that escapes mean.
-/

namespace StateDescription

variable {c : Char}

/-! ### Literals -/

namespace Literal

/-- No escape means this character, so only itself stands for it. -/
def IsVerbatim (c : Char) : Prop :=
  ∀ e, escaped? e ≠ some c

theorem isVerbatim_escape : IsVerbatim '\x1b' := by
  intro e
  unfold escaped?
  split <;> decide

/-- The characters that a body shows. -/
def Body.chars : Body → List Char
  | text cs => cs
  | unknownEscape bad => [bad]

theorem Body.mem_chars_plain {d : Char} {body : Body} (member : c ∈ (body.plain d).chars) :
    c = d ∨ c ∈ body.chars := by
  cases body with
  | text cs => exact List.mem_cons.1 member
  | unknownEscape bad => exact .inr member

theorem mem_span_of_mem_body (verbatim : IsVerbatim c) {quote : Char} {cs : List Char}
    {closed : Closed} (found : close? quote cs = some closed) (member : c ∈ closed.body.chars) :
    c ∈ closed.span := by
  fun_induction close? quote cs generalizing closed with
  | case1 => cases found
  | case2 =>
      cases found
      cases member
  | case3 => cases found
  | case4 e cs other ih =>
      obtain ⟨inner, behind, rfl⟩ := Option.map_eq_some_iff.1 found
      apply List.mem_cons_of_mem
      unfold Body.escape at member
      split at member
      · rename_i meant means
        rcases Body.mem_chars_plain member with rfl | inside
        · exact absurd means (verbatim e)
        · exact List.mem_cons_of_mem _ (ih behind inside)
      · rw [List.mem_singleton.1 member]
        exact List.mem_cons_self
  | case5 d cs other plain ih =>
      obtain ⟨inner, behind, rfl⟩ := Option.map_eq_some_iff.1 found
      rcases Body.mem_chars_plain member with rfl | inside
      · exact List.mem_cons_self
      · exact List.mem_cons_of_mem _ (ih behind inside)

end Literal

/-! ### Items -/

/-- The texts that a lexeme shows. -/
def Lexeme.texts : Lexeme → List String
  | .token _ value => [value]
  | .problem lexical => lexical.shown

def Item.texts : Item → List String
  | .token read => [read.value]
  | .fault met => met.problem.shown

theorem Lexeme.texts_at (location : Location) (lexeme : Lexeme) :
    (lexeme.at location).texts = lexeme.texts := by
  cases lexeme <;> rfl

namespace Reading

/-- The character stands in what the reading shows only if its span holds it. -/
def ShowsOwn (c : Char) (reading : Reading) : Prop :=
  ∀ text ∈ reading.lexeme.texts, c ∈ text.toList → c ∈ reading.span

theorem showsOwn_comment (cs : List Char) : (comment cs).ShowsOwn c := by
  unfold comment
  dsimp only
  split
  all_goals
    intro text shown member
    rw [List.mem_singleton.1 shown, String.toList_ofList] at member
  · exact member
  · exact List.mem_append_left _ member

theorem showsOwn_identifier (d : Char) (cs : List Char) : (identifier d cs).ShowsOwn c := by
  intro text shown member
  rwa [List.mem_singleton.1 shown, String.toList_ofList] at member

theorem showsOwn_literal (verbatim : Literal.IsVerbatim c) (quote : Char) (cs : List Char) :
    (literal quote cs).ShowsOwn c := by
  unfold literal
  split
  all_goals
    intro text shown member
    rw [List.mem_singleton.1 shown] at member
  · rename_i found
    rw [String.toList_ofList] at member
    exact List.mem_cons_of_mem _ (Literal.mem_span_of_mem_body verbatim found member)
  · rename_i found
    rw [String.toList_singleton] at member
    exact List.mem_cons_of_mem _ (Literal.mem_span_of_mem_body verbatim found member)
  · rw [String.toList_singleton, List.mem_singleton] at member
    rw [member]
    exact List.mem_cons_self

theorem showsOwn_single (d : Char) (cs : List Char) : (single d cs).ShowsOwn c := by
  unfold single
  split
  all_goals
    intro text shown member
    rwa [List.mem_singleton.1 shown, String.toList_singleton] at member

theorem showsOwn_ofText (verbatim : Literal.IsVerbatim c) (d : Char) (cs : List Char) :
    (ofText d cs).ShowsOwn c := by
  unfold ofText
  split
  · exact showsOwn_comment cs
  · split
    · exact showsOwn_identifier d cs
    · split
      · exact showsOwn_literal verbatim d cs
      · exact showsOwn_single d cs

end Reading

theorem Segmented.mem_of_mem_texts (verbatim : Literal.IsVerbatim c) {file : String}
    {position : Position} {cs : List Char} {items : List Item}
    (segmented : Segmented file position cs items) {item : Item} (read : item ∈ items)
    {text : String} (shown : text ∈ item.texts) (member : c ∈ text.toList) : c ∈ cs := by
  induction segmented with
  | blanks => cases read
  | @item position gap span rest lexeme items blank nonempty covers determined more ih =>
      cases read with
      | head =>
          rw [Lexeme.texts_at] at shown
          cases span with
          | nil => contradiction
          | cons d span =>
              rw [Lexeme.ofSpan?, Option.some.injEq] at determined
              rw [← determined] at shown
              have spanned := Reading.showsOwn_ofText verbatim d span text shown member
              have whole := Reading.span_append_rest d span
              rw [← whole]
              simp [spanned]
      | tail _ later => exact List.mem_append_right _ (ih later)

section Scanned

variable {file source : String} (verbatim : Literal.IsVerbatim c) (absent : c ∉ source.toList)

include verbatim absent

theorem not_mem_of_mem_scan {item : Item} (read : item ∈ scan file source) {text : String}
    (shown : text ∈ item.texts) : c ∉ text.toList :=
  fun member => absent ((scan_segmented file source).1.mem_of_mem_texts verbatim read shown member)

theorem not_mem_name_of_mem_scan (control : isControl c = true) {name : PendingName}
    (read : name ∈ Item.namesOf (scan file source)) : c ∉ name.name.toList := by
  obtain ⟨item, member, named⟩ := List.mem_filterMap.1 read
  unfold Item.name? at named
  split at named <;> cases named
  · exact not_mem_of_mem_scan verbatim absent member List.mem_cons_self
  · exact not_mem_of_isControl control (show "@".toList.any isControl = false by decide)
  · exact not_mem_of_isControl control (show ".".toList.any isControl = false by decide)

/-- A diagnostic shows no control character that neither its file's name nor its source holds. -/
theorem Diagnostic.Arises.not_mem_text (control : isControl c = true) (notTab : c ≠ '\t')
    (named : c ∉ file.toList) {diagnostic : Diagnostic}
    (arises : diagnostic.Arises (scan file source)) : c ∉ diagnostic.text.toList := by
  rw [arises.sourced.mem_text_iff control notTab, or_iff_right named]
  rintro ⟨text, member, holds⟩
  cases arises.sourced.cites text member with
  | fault read own shown => exact not_mem_of_mem_scan verbatim absent read shown holds
  | token read value literal =>
      exact not_mem_of_mem_scan verbatim absent read (List.mem_singleton.2 value) holds
  | name read same =>
      rw [same] at holds
      exact not_mem_name_of_mem_scan verbatim absent control read holds
  | @place name read same =>
      rw [same, name.location.mem_lead_iff control notTab, (name_of_mem_scan read).1] at holds
      exact named holds

end Scanned

end StateDescription
