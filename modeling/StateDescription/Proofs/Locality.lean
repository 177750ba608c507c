import StateDescription.Proofs.Printing

/-!
Scanning is local. What is read depends on no text behind it, unless it reaches the end of its
text and the text behind goes on with it: an identifier with more characters, a comment with the
rest of its line, an unfinished literal with anything.
-/

namespace StateDescription

/-- The readings of the items of a text, one after another. -/
def readings (cs : List Char) : List Reading :=
  match _h : cs.dropWhile isBlank with
  | [] => []
  | c :: rest => Reading.ofText c rest :: readings (Reading.ofText c rest).rest
termination_by cs.length
decreasing_by
  have shorter := Reading.length_rest_lt c rest
  have dropped := (List.dropWhile_sublist (l := cs) isBlank).length_le
  rw [_h] at dropped
  omega

namespace Reading

def followedBy (more : List Char) (reading : Reading) : Reading :=
  ⟨reading.lexeme, reading.span, reading.rest ++ more⟩

/-- What makes a reading that reaches the end of its text end there whatever follows. -/
structure EndsBefore (more : List Char) (reading : Reading) : Prop where
  comment : ∀ text, reading.lexeme = .token .comment text → reading.span.getLast? = some '\n'
  identifier : ∀ name, reading.lexeme = .token .identifier name →
    ∀ c ∈ more.head?, isAlphanumeric c = false

/-- A reading that text behind it leaves as it is. -/
structure Stands (more : List Char) (reading : Reading) : Prop where
  finished : ∀ quote, reading.lexeme ≠ .problem (.unfinishedLiteral quote)
  ends : reading.rest = [] → reading.EndsBefore more

end Reading

/-! ### One reading -/

theorem Literal.close?_append {quote : Char} {cs : List Char} {closed : Closed}
    (closes : close? quote cs = some closed) (more : List Char) :
    close? quote (cs ++ more) = some ⟨closed.body, closed.span, closed.rest ++ more⟩ := by
  fun_induction close? quote cs generalizing closed with
  | case1 => cases closes
  | case2 cs =>
      cases closes
      rw [List.cons_append, close?.eq_def]
      exact if_pos rfl
  | case3 => cases closes
  | case4 e cs other ih =>
      obtain ⟨inner, found, rfl⟩ := Option.map_eq_some_iff.1 closes
      rw [List.cons_append, List.cons_append, close?.eq_def]
      simp [other, ih found]
  | case5 c cs other plain ih =>
      obtain ⟨inner, found, rfl⟩ := Option.map_eq_some_iff.1 closes
      rw [List.cons_append, close?.eq_def]
      simp [other, plain, ih found]

namespace Reading

variable {more : List Char}

theorem comment_append {cs : List Char} (stands : (comment cs).Stands more) :
    comment (cs ++ more) = (comment cs).followedBy more := by
  by_cases lines : '\n' ∈ cs
  · obtain ⟨text, rest, rfl, oneLine⟩ := List.eq_append_cons_of_mem lines
    rw [List.append_assoc, List.cons_append, comment_closed oneLine, comment_closed oneLine]
    rfl
  · rw [comment_last lines] at stands
    have ends := (stands.ends rfl).comment _ rfl
    have member := List.mem_of_getLast? ends
    simp [lines] at member

theorem identifier_append_more {c : Char} {cs : List Char}
    (stands : (identifier c cs).Stands more) :
    identifier c (cs ++ more) = (identifier c cs).followedBy more := by
  obtain ⟨name, rest, rfl, alphanumeric, maximal⟩ := exists_identifier_append cs
  rw [identifier_append alphanumeric maximal] at stands ⊢
  rw [List.append_assoc, identifier_append alphanumeric]
  · rfl
  · cases rest with
    | nil => exact (stands.ends rfl).identifier _ rfl
    | cons d rest => exact maximal

theorem literal_append {quote : Char} {cs : List Char}
    (stands : (literal quote cs).Stands more) :
    literal quote (cs ++ more) = (literal quote cs).followedBy more := by
  cases closes : Literal.close? quote cs with
  | none =>
      have unfinished := stands.finished (String.singleton quote)
      simp [literal, closes] at unfinished
  | some closed =>
      rw [literal, literal, closes, Literal.close?_append closes]
      cases closed with
      | mk body span rest => cases body <;> rfl

theorem single_append (c : Char) (cs more : List Char) :
    single c (cs ++ more) = (single c cs).followedBy more := by
  unfold single
  cases TokenType.ofPunctuation? c <;> rfl

theorem ofText_append {c : Char} {cs : List Char} (stands : (ofText c cs).Stands more) :
    ofText c (cs ++ more) = (ofText c cs).followedBy more := by
  unfold ofText at stands ⊢
  split
  case isTrue hash =>
    rw [if_pos hash] at stands
    exact comment_append stands
  case isFalse notHash =>
    rw [if_neg notHash] at stands
    split
    case isTrue first =>
      rw [if_pos first] at stands
      exact identifier_append_more stands
    case isFalse notFirst =>
      rw [if_neg notFirst] at stands
      split
      case isTrue quoted =>
        rw [if_pos quoted] at stands
        exact literal_append stands
      case isFalse => exact single_append c cs more

end Reading

/-! ### All readings -/

theorem readings_nil : readings [] = [] := by
  rw [readings]
  rfl

/-- Where a text ends with a reading, this is the last one. -/
theorem getLast?_readings {cs : List Char} {reading : Reading} (member : reading ∈ readings cs)
    (ends : reading.rest = []) : (readings cs).getLast? = some reading := by
  fun_induction readings cs with
  | case1 => cases member
  | case2 cs c rest shape ih =>
      rcases List.mem_cons.1 member with rfl | later
      · rw [ends, readings_nil]
        rfl
      · have nonempty := List.ne_nil_of_mem later
        rw [List.getLast?_cons_of_ne_nil nonempty]
        exact ih later

namespace Cursor

variable {file : String} {position : Position}

theorem exists_gap {c : Char} {cs rest : List Char} (shape : cs.dropWhile isBlank = c :: rest) :
    ∃ gap, cs = gap ++ c :: rest ∧ (∀ d ∈ gap, isBlank d = true) ∧ isBlank c = false := by
  refine ⟨cs.takeWhile isBlank, ?_, fun d member => List.mem_takeWhile_imp member,
    not_of_dropWhile_eq_cons shape⟩
  rw [← shape, List.takeWhile_append_dropWhile]

theorem items_of_gap {gap cs : List Char} {c : Char} (blank : ∀ d ∈ gap, isBlank d = true)
    (notBlank : isBlank c = false) :
    (⟨file, position, gap ++ c :: cs⟩ : Cursor).items =
      (Reading.ofText c cs).lexeme.at ((position.after gap).within file) ::
        (⟨file, position.after (gap ++ (Reading.ofText c cs).span),
          (Reading.ofText c cs).rest⟩ : Cursor).items :=
  items_of_next?_eq_some (next?_of_blanks blank notBlank)

/-- Blanks in front of a text do nothing but move its start. -/
theorem items_append_of_blanks {gap : List Char} (blank : ∀ c ∈ gap, isBlank c = true)
    (cs : List Char) :
    (⟨file, position, gap ++ cs⟩ : Cursor).items =
      (⟨file, position.after gap, cs⟩ : Cursor).items := by
  have skipped : (⟨file, position, gap ++ cs⟩ : Cursor).skipBlanks =
      (⟨file, position.after gap, cs⟩ : Cursor).skipBlanks := by
    rw [skipBlanks, List.takeWhile_append_of_pos blank, List.dropWhile_append_of_pos blank,
      Position.after_append]
    rfl
  have next : (⟨file, position, gap ++ cs⟩ : Cursor).next? =
      (⟨file, position.after gap, cs⟩ : Cursor).next? := by
    rw [next?, next?, skipped]
  rw [items.eq_def, items.eq_def, next]

/-- The readings of a text are its items without their places. -/
theorem map_lexeme_items (file : String) (position : Position) (cs : List Char) :
    (⟨file, position, cs⟩ : Cursor).items.map Item.lexeme =
      (readings cs).map Reading.lexeme := by
  fun_induction readings cs generalizing position with
  | case1 cs nothing =>
      rw [items_of_blanks (List.dropWhile_eq_nil_iff.1 nothing)]
      rfl
  | case2 cs c rest shape ih =>
      obtain ⟨gap, rfl, blank, notBlank⟩ := exists_gap shape
      rw [items_of_gap blank notBlank, List.map_cons, List.map_cons, ih, Lexeme.lexeme_at]

/-- What stands behind a text whose readings stand is scanned as if it stood alone, at the place
behind that text. -/
theorem items_append {cs more : List Char}
    (stand : ∀ reading ∈ readings cs, reading.Stands more) (file : String)
    (position : Position) :
    (⟨file, position, cs ++ more⟩ : Cursor).items =
      (⟨file, position, cs⟩ : Cursor).items ++
        (⟨file, position.after cs, more⟩ : Cursor).items := by
  fun_induction readings cs generalizing position with
  | case1 cs nothing =>
      have blank := List.dropWhile_eq_nil_iff.1 nothing
      rw [items_append_of_blanks blank, items_of_blanks blank, List.nil_append]
  | case2 cs c rest shape ih =>
      obtain ⟨gap, rfl, blank, notBlank⟩ := exists_gap shape
      obtain ⟨first, others⟩ := List.forall_mem_cons.1 stand
      have read := Reading.ofText_append first
      have whole := Reading.span_append_rest c rest
      rw [List.append_assoc, List.cons_append, items_of_gap blank notBlank,
        items_of_gap blank notBlank, read, List.cons_append]
      simp only [Reading.followedBy]
      rw [ih others, ← Position.after_append, List.append_assoc, whole]

end Cursor

/-- Where a source ends with its last item complete, so that the source behind it does not go on
with an identifier or a comment, and no literal is unfinished, the items of both together are
those of the first and those of the second, the latter at places behind the first. What they are
does not depend on the first source at all. -/
theorem scan_append (file first second : String)
    (finished : ∀ fault, .fault fault ∈ scan file first →
      ∀ quote, fault.problem ≠ .unfinishedLiteral quote)
    (ends : ∀ last ∈ (readings first.toList).getLast?, last.rest = [] →
      last.EndsBefore second.toList) :
    let behind : Cursor := ⟨file, Position.start.after first.toList, second.toList⟩
    scan file (first ++ second) = scan file first ++ behind.items ∧
      behind.items.map Item.lexeme = (scan file second).map Item.lexeme := by
  intro behind
  constructor
  · rw [scan, Cursor.start, String.toList_append]
    refine Cursor.items_append ?_ file .start
    intro reading member
    refine ⟨?_, fun reaches => ends _ (getLast?_readings member reaches) reaches⟩
    intro quote unfinished
    have lexeme : reading.lexeme ∈ (scan file first).map Item.lexeme := by
      rw [scan, Cursor.start, Cursor.map_lexeme_items]
      exact List.mem_map_of_mem member
    obtain ⟨item, scanned, same⟩ := List.mem_map.1 lexeme
    rw [unfinished] at same
    cases item with
    | token token => cases same
    | fault fault => exact finished fault scanned quote (Lexeme.problem.inj same)
  · rw [scan, Cursor.start, Cursor.map_lexeme_items, Cursor.map_lexeme_items]

/-- The text of the first source is `'\q' # c`, a line feed and `$b`: it has two errors and ends
with a name, which the brace of the second source does not go on with. -/
theorem scan_append_behind_errors :
    let first := "'\\q' # c\n$b"
    let second := "\x7bc"
    (∀ fault, .fault fault ∈ scan "sample" first →
      ∀ quote, fault.problem ≠ .unfinishedLiteral quote) ∧
      (∀ last ∈ (readings first.toList).getLast?, last.rest = [] →
        last.EndsBefore second.toList) ∧
      scan "sample" (first ++ second) =
        scan "sample" first ++
          [.token ⟨.openBlock, "\x7b", ⟨"sample", 2, 3⟩⟩,
            .token ⟨.identifier, "c", ⟨"sample", 2, 4⟩⟩] := by
  intro first second
  have scanned : scan "sample" first =
      [.fault ⟨.unknownEscape "q", some ⟨"sample", 1, 1⟩⟩,
        .token ⟨.comment, "# c", ⟨"sample", 1, 6⟩⟩,
        .fault ⟨.unknownToken "$", some ⟨"sample", 2, 1⟩⟩,
        .token ⟨.identifier, "b", ⟨"sample", 2, 2⟩⟩] := by
    decide +kernel
  have finished : ∀ fault, .fault fault ∈ scan "sample" first →
      ∀ quote, fault.problem ≠ .unfinishedLiteral quote := by
    intro fault member
    rw [scanned] at member
    simp only [List.mem_cons, Item.fault.injEq, reduceCtorEq, List.not_mem_nil, false_or,
      or_false] at member
    rcases member with rfl | rfl <;> rintro _ ⟨⟩
  have ends : ∀ last ∈ (readings first.toList).getLast?, last.rest = [] →
      last.EndsBefore second.toList := by
    intro last member _
    have lexeme : last.lexeme = .token .identifier "b" := by
      have read : (scan "sample" first).map Item.lexeme =
          (readings first.toList).map Reading.lexeme :=
        Cursor.map_lexeme_items "sample" .start first.toList
      have final := congrArg List.getLast? read
      rw [scanned, List.getLast?_map (l := readings _), Option.mem_def.1 member] at final
      exact (Option.some.inj final).symm
    refine ⟨?_, fun _ _ c brace => ?_⟩
    · intro text comment
      rw [lexeme] at comment
      cases comment
    · have starts : second.toList.head? = some '\x7b' := by decide
      rw [starts] at brace
      cases brace
      decide
  refine ⟨finished, ends, ?_⟩
  rw [(scan_append "sample" first second finished ends).1]
  congr 1
  decide +kernel

end StateDescription
