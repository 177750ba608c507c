import Mathlib.Data.List.TakeWhile
import StateDescription.Cursor

/-!
Scanning cuts a source into the spans of its items and the blanks between them. Nothing is lost
and nothing invented: each item is what its span alone says, and a span ends only where it has
to.
-/

namespace StateDescription

/-- What the span of a lexeme looks like, and what may stand behind it. -/
inductive Lexeme.Covers : Lexeme → (span rest : List Char) → Prop
  | identifier {name rest : List Char}
      (alphanumeric : ∀ c ∈ name, isAlphanumeric c = true)
      (maximal : ∀ c ∈ rest.head?, isAlphanumeric c = false) :
      Covers (.token .identifier (String.ofList name)) name rest
  | comment {text rest : List Char} (oneLine : '\n' ∉ text) :
      Covers (.token .comment (String.ofList ('#' :: text))) ('#' :: text ++ ['\n']) rest
  | lastComment {text : List Char} (oneLine : '\n' ∉ text) :
      Covers (.token .comment (String.ofList ('#' :: text))) ('#' :: text) []
  | literal {quote : Char} {body rest : List Char} {value : String}
      (quoted : Literal.isQuote quote = true) :
      Covers (.token .literal value) (quote :: body ++ [quote]) rest
  | unknownEscape {quote : Char} {body rest : List Char} {char : String}
      (quoted : Literal.isQuote quote = true) :
      Covers (.problem (.unknownEscape char)) (quote :: body ++ [quote]) rest
  | unfinishedLiteral {quote : Char} {body : List Char}
      (quoted : Literal.isQuote quote = true) :
      Covers (.problem (.unfinishedLiteral (String.singleton quote))) (quote :: body) []
  | punctuation {c : Char} {type : TokenType} {rest : List Char}
      (known : TokenType.ofPunctuation? c = some type) :
      Covers (.token type (String.singleton c)) [c] rest
  | unknownToken {c : Char} {rest : List Char} (notBlank : isBlank c = false)
      (notHash : c ≠ '#') (notQuote : Literal.isQuote c = false)
      (notAlphanumeric : isAlphanumeric c = false)
      (notPunctuation : TokenType.ofPunctuation? c = none) :
      Covers (.problem (.unknownToken (String.singleton c))) [c] rest

/-- What a span says without the text around it. -/
def Lexeme.ofSpan? : List Char → Option Lexeme
  | [] => none
  | c :: cs => some (Reading.ofText c cs).lexeme

/-- A text from some position on consists of blanks and of the spans of these items, in this
order. -/
inductive Segmented (file : String) : Position → List Char → List Item → Prop
  | blanks {position : Position} {gap : List Char} (blank : ∀ c ∈ gap, isBlank c = true) :
      Segmented file position gap []
  | item {position : Position} {gap span rest : List Char} {lexeme : Lexeme}
      {items : List Item} (blank : ∀ c ∈ gap, isBlank c = true) (nonempty : span ≠ [])
      (covers : lexeme.Covers span rest) (determined : Lexeme.ofSpan? span = some lexeme)
      (more : Segmented file (position.after (gap ++ span)) rest items) :
      Segmented file position (gap ++ span ++ rest)
        (lexeme.at ((position.after gap).within file) :: items)

theorem not_of_dropWhile_eq_cons {stays : Char → Bool} {cs rest : List Char} {c : Char}
    (shape : cs.dropWhile stays = c :: rest) : stays c = false := by
  have head := List.head?_dropWhile_not stays cs
  rw [shape] at head
  simpa using head

/-! ### Readings, kind by kind -/

namespace Literal

theorem close?_span {quote : Char} {cs : List Char} {closed : Closed}
    (h : close? quote cs = some closed) :
    close? quote closed.span = some ⟨closed.body, closed.span, []⟩ := by
  fun_induction close? quote cs generalizing closed with
  | case1 => cases h
  | case2 =>
      cases h
      simp [close?]
  | case3 => cases h
  | case4 e cs other ih =>
      obtain ⟨inner, found, rfl⟩ := Option.map_eq_some_iff.1 h
      simp [close?, other, ih found]
  | case5 c cs other plain ih =>
      obtain ⟨inner, found, rfl⟩ := Option.map_eq_some_iff.1 h
      rw [close?.eq_def]
      simp [other, plain, ih found]

theorem exists_span_of_close? {quote : Char} {cs : List Char} {closed : Closed}
    (h : close? quote cs = some closed) : ∃ body, closed.span = body ++ [quote] := by
  fun_induction close? quote cs generalizing closed with
  | case1 => cases h
  | case2 cs =>
      cases h
      exact ⟨[], rfl⟩
  | case3 => cases h
  | case4 e cs other ih =>
      obtain ⟨inner, found, rfl⟩ := Option.map_eq_some_iff.1 h
      obtain ⟨body, ends⟩ := ih found
      exact ⟨'\\' :: e :: body, by simp [ends]⟩
  | case5 c cs other plain ih =>
      obtain ⟨inner, found, rfl⟩ := Option.map_eq_some_iff.1 h
      obtain ⟨body, ends⟩ := ih found
      exact ⟨c :: body, by simp [ends]⟩

end Literal

namespace Reading

theorem staysOnLine_of_not_mem {text : List Char} (oneLine : '\n' ∉ text) :
    ∀ c ∈ text, staysOnLine c = true := by
  intro c member
  apply bne_iff_ne.2
  rintro rfl
  exact oneLine member

theorem comment_closed {text rest : List Char} (oneLine : '\n' ∉ text) :
    comment (text ++ '\n' :: rest) =
      ⟨.token .comment (String.ofList ('#' :: text)), '#' :: text ++ ['\n'], rest⟩ := by
  have stays := staysOnLine_of_not_mem oneLine
  simp [comment, List.takeWhile_append_of_pos stays, List.dropWhile_append_of_pos stays,
    staysOnLine]

theorem comment_last {text : List Char} (oneLine : '\n' ∉ text) :
    comment text = ⟨.token .comment (String.ofList ('#' :: text)), '#' :: text, []⟩ := by
  have stays := staysOnLine_of_not_mem oneLine
  have whole : text.takeWhile staysOnLine = text := List.takeWhile_eq_self_iff.2 stays
  have nothing : text.dropWhile staysOnLine = [] := List.dropWhile_eq_nil_iff.2 stays
  simp [comment, whole, nothing]

theorem identifier_append {c : Char} {name rest : List Char}
    (alphanumeric : ∀ d ∈ name, isAlphanumeric d = true)
    (maximal : ∀ d ∈ rest.head?, isAlphanumeric d = false) :
    identifier c (name ++ rest) =
      ⟨.token .identifier (String.ofList (c :: name)), c :: name, rest⟩ := by
  rw [identifier, List.takeWhile_append_of_pos alphanumeric,
    List.dropWhile_append_of_pos alphanumeric]
  cases rest with
  | nil => simp
  | cons d rest => simp [maximal d rfl]

/-- Every text starts with a longest run of alphanumeric characters. -/
theorem exists_identifier_append (cs : List Char) :
    ∃ name rest, cs = name ++ rest ∧ (∀ d ∈ name, isAlphanumeric d = true) ∧
      ∀ d ∈ rest.head?, isAlphanumeric d = false := by
  refine ⟨cs.takeWhile isAlphanumeric, cs.dropWhile isAlphanumeric,
    List.takeWhile_append_dropWhile.symm, fun d member => List.mem_takeWhile_imp member, ?_⟩
  intro d member
  have head := List.head?_dropWhile_not isAlphanumeric cs
  rw [Option.mem_def.1 member] at head
  simpa using head

def alone (reading : Reading) : Reading :=
  ⟨reading.lexeme, reading.span, []⟩

/-- A span says the same without the text behind it. -/
theorem exists_span_ofText (c : Char) (cs : List Char) :
    ∃ tail, (ofText c cs).span = c :: tail ∧ ofText c tail = (ofText c cs).alone := by
  unfold ofText
  split
  case isTrue hash =>
    subst hash
    by_cases lines : '\n' ∈ cs
    · obtain ⟨text, rest, rfl, oneLine⟩ := List.eq_append_cons_of_mem lines
      rw [comment_closed oneLine]
      exact ⟨text ++ ['\n'], rfl, comment_closed oneLine⟩
    · rw [comment_last lines]
      exact ⟨cs, rfl, comment_last lines⟩
  case isFalse =>
    split
    case isTrue =>
      obtain ⟨name, rest, rfl, alphanumeric, maximal⟩ := exists_identifier_append cs
      rw [identifier_append alphanumeric maximal]
      have whole := @identifier_append c name [] alphanumeric (by simp)
      rw [List.append_nil] at whole
      exact ⟨name, rfl, whole⟩
    case isFalse =>
      split
      case isTrue =>
        cases closed : Literal.close? c cs with
        | none => exact ⟨cs, by simp [literal, closed], by simp [literal, closed, alone]⟩
        | some inner =>
            have again := Literal.close?_span closed
            obtain ⟨body, span, rest⟩ := inner
            refine ⟨span, ?_, ?_⟩ <;>
              cases body <;> simp_all [literal, alone]
      case isFalse =>
        refine ⟨[], ?_, ?_⟩ <;> unfold single <;>
          cases TokenType.ofPunctuation? c <;> rfl

theorem ofSpan?_span (c : Char) (cs : List Char) :
    Lexeme.ofSpan? (ofText c cs).span = some (ofText c cs).lexeme := by
  obtain ⟨tail, spanned, again⟩ := exists_span_ofText c cs
  rw [spanned, Lexeme.ofSpan?, again]
  rfl

theorem covers_literal {quote : Char} (quoted : Literal.isQuote quote = true)
    (cs : List Char) :
    (literal quote cs).lexeme.Covers (literal quote cs).span (literal quote cs).rest := by
  cases closed : Literal.close? quote cs with
  | none =>
      simp only [literal, closed]
      exact .unfinishedLiteral quoted
  | some inner =>
      obtain ⟨body, ends⟩ := Literal.exists_span_of_close? closed
      obtain ⟨meaning, span, rest⟩ := inner
      simp only at ends
      subst ends
      cases meaning with
      | text value =>
          simp only [literal, closed]
          exact .literal quoted
      | unknownEscape char =>
          simp only [literal, closed]
          exact .unknownEscape quoted

theorem covers_ofText {c : Char} {cs : List Char} (notBlank : isBlank c = false) :
    (ofText c cs).lexeme.Covers (ofText c cs).span (ofText c cs).rest := by
  rw [ofText]
  split
  case isTrue hash =>
    by_cases lines : '\n' ∈ cs
    · obtain ⟨text, rest, rfl, oneLine⟩ := List.eq_append_cons_of_mem lines
      rw [comment_closed oneLine]
      exact .comment oneLine
    · rw [comment_last lines]
      exact .lastComment lines
  case isFalse notHash =>
    split
    case isTrue first =>
      obtain ⟨name, rest, rfl, alphanumeric, maximal⟩ := exists_identifier_append cs
      rw [identifier_append alphanumeric maximal]
      refine .identifier ?_ maximal
      simpa [first] using alphanumeric
    case isFalse notAlphanumeric =>
      split
      case isTrue quoted => exact covers_literal quoted cs
      case isFalse notQuote =>
        rw [single]
        split
        case h_1 type known => exact .punctuation known
        case h_2 notPunctuation =>
          exact .unknownToken notBlank notHash (by simpa using notQuote)
            (by simpa using notAlphanumeric) notPunctuation

end Reading

/-! ### A whole source -/

namespace Cursor

theorem items_of_next?_eq_none {cursor : Cursor} (h : cursor.next? = none) :
    cursor.items = [] := by
  rw [items]
  split
  · rfl
  · rename_i found
    rw [h] at found
    cases found

theorem items_of_next?_eq_some {cursor later : Cursor} {item : Item}
    (h : cursor.next? = some (item, later)) : cursor.items = item :: later.items := by
  rw [items]
  split
  · rename_i found
    rw [h] at found
    cases found
  · rename_i found
    rw [h] at found
    cases found
    rfl

def gap (cursor : Cursor) : List Char :=
  cursor.rest.takeWhile isBlank

theorem isBlank_of_mem_gap {cursor : Cursor} {c : Char} (member : c ∈ cursor.gap) :
    isBlank c = true :=
  List.mem_takeWhile_imp member

theorem gap_eq_of_next?_eq_none {cursor : Cursor} (h : cursor.next? = none) :
    cursor.gap = cursor.rest := by
  have whole := List.takeWhile_append_dropWhile (p := isBlank) (l := cursor.rest)
  rw [next?] at h
  split at h
  · rename_i nothing
    change cursor.rest.dropWhile isBlank = [] at nothing
    rwa [nothing, List.append_nil] at whole
  · cases h

/-- The next item stands behind the gap, and the cursor behind it stands behind its span. -/
theorem exists_span_of_next? {cursor later : Cursor} {item : Item}
    (h : cursor.next? = some (item, later)) :
    ∃ lexeme span, span ≠ [] ∧ cursor.rest = cursor.gap ++ span ++ later.rest ∧
      lexeme.Covers span later.rest ∧ Lexeme.ofSpan? span = some lexeme ∧
      item = lexeme.at ((cursor.position.after cursor.gap).within cursor.file) ∧
      later.file = cursor.file ∧
      later.position = cursor.position.after (cursor.gap ++ span) := by
  have whole := List.takeWhile_append_dropWhile (p := isBlank) (l := cursor.rest)
  rw [next?] at h
  split at h
  · cases h
  · rename_i c cs shape
    change cursor.rest.dropWhile isBlank = c :: cs at shape
    have notBlank : isBlank c = false := not_of_dropWhile_eq_cons shape
    cases h
    refine ⟨(Reading.ofText c cs).lexeme, (Reading.ofText c cs).span,
      Reading.span_ne_nil c cs, ?_, Reading.covers_ofText notBlank,
      Reading.ofSpan?_span c cs, rfl, rfl, ?_⟩
    · rw [List.append_assoc, Reading.span_append_rest, ← shape]
      exact whole.symm
    · rw [Position.after_append]
      rfl

theorem segmented_items (cursor : Cursor) :
    Segmented cursor.file cursor.position cursor.rest cursor.items := by
  induction size : cursor.rest.length using Nat.strong_induction_on generalizing cursor with
  | _ size ih =>
      cases found : cursor.next? with
      | none =>
          rw [items_of_next?_eq_none found, ← gap_eq_of_next?_eq_none found]
          exact .blanks fun c member => isBlank_of_mem_gap member
      | some next =>
          obtain ⟨item, later⟩ := next
          have shorter := length_rest_lt_of_next? found
          obtain ⟨lexeme, span, nonempty, text, covers, determined, rfl, sameFile, place⟩ :=
            exists_span_of_next? found
          have more := ih _ (by omega) later rfl
          rw [sameFile, place] at more
          rw [items_of_next?_eq_some found, text]
          exact .item (fun c member => isBlank_of_mem_gap member) nonempty covers determined
            more

end Cursor

theorem Segmented.length_le {file : String} {position : Position} {cs : List Char}
    {items : List Item} (segmented : Segmented file position cs items) :
    items.length ≤ cs.length := by
  induction segmented with
  | blanks => exact Nat.zero_le _
  | item _ nonempty _ _ _ ih =>
      have positive := List.length_pos_iff.2 nonempty
      simp only [List.length_cons, List.length_append]
      omega

/-- Every item is what the lexeme of its span says, at the place of the span. -/
theorem Segmented.exists_lexeme {file : String} {position : Position} {cs : List Char}
    {items : List Item} (segmented : Segmented file position cs items) {item : Item}
    (member : item ∈ items) :
    ∃ (lexeme : Lexeme) (span rest : List Char) (place : Position),
      span ≠ [] ∧ lexeme.Covers span rest ∧ item = lexeme.at (place.within file) := by
  induction segmented with
  | blanks => cases member
  | item _ nonempty covers _ _ ih =>
      cases member with
      | head => exact ⟨_, _, _, _, nonempty, covers, rfl⟩
      | tail _ later => exact ih later

theorem scan_segmented (file source : String) :
    Segmented file .start source.toList (scan file source) ∧
      (scan file source).length ≤ source.length := by
  have segmented := (Cursor.start file source).segmented_items
  exact ⟨segmented, segmented.length_le⟩

end StateDescription
