import StateDescription.Builder
import StateDescription.Proofs.Locality

/-!
Line ends in two styles. A source whose line feeds get a carriage return before them has the same
items at the same places, unless a literal goes over a line end: the carriage returns are blanks,
and a line feed behind one takes the place back to where it would have been. Only the text of a
comment shows the carriage return of its line, and no table shows comments.
-/

namespace StateDescription

/-- A carriage return before every line feed. -/
def LineEnding.withReturns (cs : List Char) : List Char :=
  cs.flatMap fun c => if c = '\n' then ['\r', '\n'] else [c]

namespace LineEnding

@[simp] theorem withReturns_nil : withReturns [] = [] := rfl

@[simp] theorem withReturns_lineFeed (cs : List Char) :
    withReturns ('\n' :: cs) = '\r' :: '\n' :: withReturns cs := rfl

theorem withReturns_cons {c : Char} (other : c ≠ '\n') (cs : List Char) :
    withReturns (c :: cs) = c :: withReturns cs := by
  rw [withReturns, List.flatMap_cons, if_neg other]
  rfl

@[simp] theorem withReturns_append (cs ds : List Char) :
    withReturns (cs ++ ds) = withReturns cs ++ withReturns ds :=
  List.flatMap_append

theorem withReturns_of_not_mem {cs : List Char} (oneLine : '\n' ∉ cs) : withReturns cs = cs := by
  induction cs with
  | nil => rfl
  | cons c cs ih =>
      rw [List.mem_cons, not_or] at oneLine
      rw [withReturns_cons (Ne.symm oneLine.1), ih oneLine.2]

theorem eq_return_or_mem_of_mem_withReturns {c : Char} {cs : List Char}
    (member : c ∈ withReturns cs) : c = '\r' ∨ c ∈ cs := by
  obtain ⟨d, inside, spread⟩ := List.mem_flatMap.1 member
  split at spread
  · rename_i lineFeed
    rcases List.mem_cons.1 spread with same | last
    · exact .inl same
    · rw [List.mem_singleton.1 last, ← lineFeed]
      exact .inr inside
  · rw [List.mem_singleton.1 spread]
    exact .inr inside

theorem head?_withReturns {c : Char} {cs : List Char} (first : c ∈ (withReturns cs).head?) :
    c = '\r' ∨ c ∈ cs.head? := by
  cases cs with
  | nil => cases first
  | cons d cs =>
      by_cases lineFeed : d = '\n'
      · subst lineFeed
        exact .inl (Option.some.inj first).symm
      · rw [withReturns_cons lineFeed] at first
        exact .inr first

end LineEnding

open LineEnding (withReturns)

/-- The line feed behind a carriage return starts the line that it would have started alone. -/
theorem Position.after_withReturns (position : Position) (cs : List Char) :
    position.after (withReturns cs) = position.after cs := by
  induction cs generalizing position with
  | nil => rfl
  | cons c cs ih =>
      by_cases lineFeed : c = '\n'
      · subst lineFeed
        have back : (position.next '\r').next '\n' = position.next '\n' := rfl
        rw [LineEnding.withReturns_lineFeed, after_cons, after_cons, back, ih, after_cons]
      · rw [LineEnding.withReturns_cons lineFeed, after_cons, ih, after_cons]

/-! ### One reading -/

/-- A literal that reaches its closing quote. -/
def Lexeme.isClosedLiteral : Lexeme → Bool
  | .token .literal _ => true
  | .problem (.unknownEscape _) => true
  | _ => false

namespace Reading

/-- What is read where line feeds have carriage returns before them: a comment that a line feed
ends shows the carriage return, and nothing else does. -/
def lexemeWithReturns (reading : Reading) : Lexeme :=
  match reading.lexeme with
  | .token .comment text =>
    .token .comment (if reading.span.getLast? = some '\n' then text ++ "\r" else text)
  | lexeme => lexeme

def withReturns (reading : Reading) : Reading :=
  ⟨reading.lexemeWithReturns, LineEnding.withReturns reading.span,
    LineEnding.withReturns reading.rest⟩

end Reading

theorem Literal.close?_cons_eq_none {quote c : Char} (notQuote : c ≠ quote)
    (notBackslash : c ≠ '\\') {cs : List Char} (unfinished : close? quote cs = none) :
    close? quote (c :: cs) = none := by
  rw [close?.eq_def]
  simp [notQuote, notBackslash, unfinished]

/-- Where a line feed is escaped, the carriage return before it is escaped in its place, and the
line feed is as good as any other character. -/
theorem Literal.close?_withReturns_eq_none {quote : Char} (quoted : isQuote quote = true)
    {cs : List Char} (unfinished : close? quote cs = none) :
    close? quote (withReturns cs) = none := by
  have notLineFeed : '\n' ≠ quote := by
    rintro rfl
    exact absurd quoted (by decide)
  have notReturn : '\r' ≠ quote := by
    rintro rfl
    exact absurd quoted (by decide)
  fun_induction close? quote cs with
  | case1 => rfl
  | case2 => cases unfinished
  | case3 other =>
      rw [LineEnding.withReturns_cons (by decide), LineEnding.withReturns_nil, close?.eq_def]
      exact if_neg other
  | case4 e cs other ih =>
      have inner := ih (Option.map_eq_none_iff.1 unfinished)
      rw [LineEnding.withReturns_cons (by decide)]
      by_cases lineFeed : e = '\n'
      · have behind := close?_cons_eq_none notLineFeed (by decide) inner
        rw [lineFeed, LineEnding.withReturns_lineFeed, close?.eq_def]
        simp [other, behind]
      · rw [LineEnding.withReturns_cons lineFeed, close?.eq_def]
        simp [other, inner]
  | case5 c cs other plain ih =>
      have inner := ih (Option.map_eq_none_iff.1 unfinished)
      by_cases lineFeed : c = '\n'
      · rw [lineFeed, LineEnding.withReturns_lineFeed]
        exact close?_cons_eq_none notReturn (by decide)
          (close?_cons_eq_none notLineFeed (by decide) inner)
      · rw [LineEnding.withReturns_cons lineFeed]
        exact close?_cons_eq_none other plain inner

namespace Reading

theorem comment_withReturns (cs : List Char) :
    comment (LineEnding.withReturns cs) = (comment cs).withReturns := by
  by_cases lines : '\n' ∈ cs
  · obtain ⟨text, rest, rfl, oneLine⟩ := List.eq_append_cons_of_mem lines
    have whole : LineEnding.withReturns (text ++ '\n' :: rest) =
        (text ++ ['\r']) ++ '\n' :: LineEnding.withReturns rest := by
      rw [LineEnding.withReturns_append, LineEnding.withReturns_of_not_mem oneLine,
        LineEnding.withReturns_lineFeed, List.append_assoc]
      rfl
    have stillOneLine : '\n' ∉ text ++ ['\r'] := by simp [oneLine]
    have span : LineEnding.withReturns ('#' :: text ++ ['\n']) =
        '#' :: (text ++ ['\r']) ++ ['\n'] := by
      rw [List.cons_append, LineEnding.withReturns_cons (by decide),
        LineEnding.withReturns_append, LineEnding.withReturns_of_not_mem oneLine, List.cons_append,
        List.append_assoc]
      rfl
    have ends : ('#' :: text ++ ['\n']).getLast? = some '\n' := List.getLast?_concat
    have value : String.ofList ('#' :: (text ++ ['\r'])) =
        String.ofList ('#' :: text) ++ "\r" := by
      rw [← List.cons_append, String.ofList_append]
    rw [whole, comment_closed stillOneLine, comment_closed oneLine]
    simp only [withReturns, lexemeWithReturns, span, value, if_pos ends]
  · have text := LineEnding.withReturns_of_not_mem lines
    have span : LineEnding.withReturns ('#' :: cs) = '#' :: cs := by
      rw [LineEnding.withReturns_cons (by decide), text]
    have last : ('#' :: cs).getLast? ≠ some '\n' := by
      intro ends
      have member := List.mem_of_getLast? ends
      simp [lines] at member
    rw [text, comment_last lines]
    simp only [withReturns, lexemeWithReturns, span, if_neg last, LineEnding.withReturns_nil]

theorem identifier_withReturns {c : Char} (cs : List Char) (first : isAlphanumeric c = true) :
    identifier c (LineEnding.withReturns cs) = (identifier c cs).withReturns := by
  have oneLine {name : List Char} (alphanumeric : ∀ d ∈ name, isAlphanumeric d = true) :
      '\n' ∉ name := by
    intro member
    exact absurd (alphanumeric _ member) (by decide)
  obtain ⟨name, rest, rfl, alphanumeric, maximal⟩ := exists_identifier_append cs
  have stillMaximal : ∀ d ∈ (LineEnding.withReturns rest).head?, isAlphanumeric d = false := by
    intro d head
    rcases LineEnding.head?_withReturns head with rfl | older
    · decide
    · exact maximal d older
  have span : LineEnding.withReturns (c :: name) = c :: name :=
    LineEnding.withReturns_of_not_mem (oneLine (List.forall_mem_cons.2 ⟨first, alphanumeric⟩))
  rw [LineEnding.withReturns_append, LineEnding.withReturns_of_not_mem (oneLine alphanumeric),
    identifier_append alphanumeric stillMaximal, identifier_append alphanumeric maximal,
    withReturns, span]
  rfl

theorem literal_withReturns {quote : Char} {cs : List Char}
    (quoted : Literal.isQuote quote = true)
    (unbroken : (literal quote cs).lexeme.isClosedLiteral = true →
      '\n' ∉ (literal quote cs).span) :
    literal quote (LineEnding.withReturns cs) = (literal quote cs).withReturns := by
  have notLineFeed : quote ≠ '\n' := by
    rintro rfl
    exact absurd quoted (by decide)
  cases closes : Literal.close? quote cs with
  | none =>
      rw [literal, literal, closes, Literal.close?_withReturns_eq_none quoted closes]
      simp only [withReturns, lexemeWithReturns, LineEnding.withReturns_cons notLineFeed,
        LineEnding.withReturns_nil]
  | some closed =>
      obtain ⟨body, span, rest⟩ := closed
      have whole : span ++ rest = cs := Literal.span_append_rest_of_close? closes
      have oneLine : '\n' ∉ quote :: span := by
        cases body <;> simpa [literal, closes, Lexeme.isClosedLiteral] using unbroken
      have kept := LineEnding.withReturns_of_not_mem oneLine
      have inner : '\n' ∉ span := fun member => oneLine (List.mem_cons_of_mem _ member)
      have again := Literal.close?_append (Literal.close?_span closes) (LineEnding.withReturns rest)
      rw [literal, literal, closes, ← whole, LineEnding.withReturns_append,
        LineEnding.withReturns_of_not_mem inner, again]
      cases body <;> simp only [withReturns, lexemeWithReturns, kept, List.nil_append]

theorem single_withReturns {c : Char} (other : c ≠ '\n') (cs : List Char) :
    single c (LineEnding.withReturns cs) = (single c cs).withReturns := by
  have span : LineEnding.withReturns [c] = [c] := LineEnding.withReturns_cons other []
  unfold single
  cases known : TokenType.ofPunctuation? c with
  | none => simp only [withReturns, lexemeWithReturns, span]
  | some type =>
      unfold TokenType.ofPunctuation? at known
      split at known <;> cases known <;> simp only [withReturns, lexemeWithReturns, span]

theorem ofText_withReturns {c : Char} {cs : List Char} (notBlank : isBlank c = false)
    (unbroken : (ofText c cs).lexeme.isClosedLiteral = true → '\n' ∉ (ofText c cs).span) :
    ofText c (LineEnding.withReturns cs) = (ofText c cs).withReturns := by
  have notLineFeed : c ≠ '\n' := by
    rintro rfl
    exact absurd notBlank (by decide)
  unfold ofText at unbroken ⊢
  split
  case isTrue => exact comment_withReturns cs
  case isFalse notHash =>
    rw [if_neg notHash] at unbroken
    split
    case isTrue first => exact identifier_withReturns cs first
    case isFalse notFirst =>
      rw [if_neg notFirst] at unbroken
      split
      case isTrue quoted =>
        rw [if_pos quoted] at unbroken
        exact literal_withReturns quoted unbroken
      case isFalse => exact single_withReturns notLineFeed cs

end Reading

/-! ### A whole source -/

/-- No literal that reaches its closing quote goes over a line end. -/
def LiteralsUnbroken (cs : List Char) : Prop :=
  ∀ reading ∈ readings cs, reading.lexeme.isClosedLiteral = true → '\n' ∉ reading.span

instance (cs : List Char) : Decidable (LiteralsUnbroken cs) :=
  inferInstanceAs (Decidable (∀ reading ∈ readings cs, _ → _))

/-- The two scans go side by side: behind every item both stand at the same place. -/
theorem Cursor.items_withReturns {cs : List Char} (unbroken : LiteralsUnbroken cs) (file : String)
    (position : Position) :
    ∃ placed : List (Position × Reading), placed.map Prod.snd = readings cs ∧
      (⟨file, position, cs⟩ : Cursor).items =
        placed.map (fun entry => entry.2.lexeme.at (entry.1.within file)) ∧
      (⟨file, position, withReturns cs⟩ : Cursor).items =
        placed.map (fun entry => entry.2.lexemeWithReturns.at (entry.1.within file)) := by
  have blankToo {gap : List Char} (blank : ∀ c ∈ gap, isBlank c = true) :
      ∀ c ∈ withReturns gap, isBlank c = true := by
    intro c member
    rcases LineEnding.eq_return_or_mem_of_mem_withReturns member with rfl | older
    · rfl
    · exact blank c older
  unfold LiteralsUnbroken at unbroken
  fun_induction readings cs generalizing position with
  | case1 cs nothing =>
      have blank := List.dropWhile_eq_nil_iff.1 nothing
      exact ⟨[], rfl, items_of_blanks blank, items_of_blanks (blankToo blank)⟩
  | case2 cs c rest shape ih =>
      obtain ⟨gap, rfl, blank, notBlank⟩ := exists_gap shape
      obtain ⟨first, others⟩ := List.forall_mem_cons.1 unbroken
      have notLineFeed : c ≠ '\n' := by
        rintro rfl
        exact absurd notBlank (by decide)
      have read := Reading.ofText_withReturns notBlank first
      obtain ⟨placed, same, items, itemsToo⟩ :=
        ih others (position.after (gap ++ (Reading.ofText c rest).span))
      refine ⟨(position.after gap, Reading.ofText c rest) :: placed, by rw [List.map_cons, same],
        by rw [items_of_gap blank notBlank, items, List.map_cons], ?_⟩
      rw [LineEnding.withReturns_append, LineEnding.withReturns_cons notLineFeed,
        items_of_gap (blankToo blank) notBlank, read, List.map_cons]
      simp only [Reading.withReturns]
      rw [← LineEnding.withReturns_append, Position.after_withReturns,
        Position.after_withReturns, itemsToo]

theorem Builder.step_lexemeWithReturns (builder : Builder) (reading : Reading)
    (location : Location) :
    builder.step (reading.lexemeWithReturns.at location) =
      builder.step (reading.lexeme.at location) := by
  unfold Reading.lexemeWithReturns
  split
  · rename_i comment
    rw [comment]
    rfl
  · rfl

/-- Carriage returns before the line feeds change nothing that a source says. The two scans read
the same at the same places, one for one, apart from the carriage return at the end of every
comment that a line feed ends, and the tables are equal. -/
theorem scan_withReturns (file source : String) (unbroken : LiteralsUnbroken source.toList) :
    let other := String.ofList (withReturns source.toList)
    (∃ placed : List (Position × Reading), placed.map Prod.snd = readings source.toList ∧
      scan file source =
        placed.map (fun entry => entry.2.lexeme.at (entry.1.within file)) ∧
      scan file other =
        placed.map (fun entry => entry.2.lexemeWithReturns.at (entry.1.within file))) ∧
      ∀ recordsFaults, SymbolTable.ofItems recordsFaults (scan file other) =
        SymbolTable.ofItems recordsFaults (scan file source) := by
  intro other
  obtain ⟨placed, same, items, itemsToo⟩ := Cursor.items_withReturns unbroken file .start
  have text : scan file other = (⟨file, .start, withReturns source.toList⟩ : Cursor).items := by
    rw [scan, Cursor.start, String.toList_ofList]
  refine ⟨⟨placed, same, items, text.trans itemsToo⟩, ?_⟩
  intro recordsFaults
  have run : (Builder.new recordsFaults).run (scan file other) =
      (Builder.new recordsFaults).run (scan file source) := by
    rw [text, itemsToo, scan, Cursor.start, items, Builder.run, Builder.run, List.foldl_map,
      List.foldl_map]
    simp only [Builder.step_lexemeWithReturns]
  rw [SymbolTable.ofItems, SymbolTable.ofItems, Builder.build, Builder.build, run]

/-- The text is a name, a comment, two line ends, a literal and a literal without its end, which has
an escaped line feed. The comment shows its carriage return, and the last item is still at the
third line. -/
theorem scan_withReturns_before_open_literal :
    let source := "a# c\n\n'x'\"\\\n"
    let other := String.ofList (withReturns source.toList)
    LiteralsUnbroken source.toList ∧
      scan "sample" other =
        [.token ⟨.identifier, "a", ⟨"sample", 1, 1⟩⟩,
          .token ⟨.comment, "# c\r", ⟨"sample", 1, 2⟩⟩,
          .token ⟨.literal, "x", ⟨"sample", 3, 1⟩⟩,
          .fault ⟨.unfinishedLiteral "\"", some ⟨"sample", 3, 4⟩⟩] ∧
      (SymbolTable.ofItems true (scan "sample" other)).diagnostics =
        (SymbolTable.ofItems true (scan "sample" source)).diagnostics := by
  intro source other
  have unbroken : LiteralsUnbroken source.toList := by decide +kernel
  obtain ⟨_, tables⟩ := scan_withReturns "sample" source unbroken
  exact ⟨unbroken, by decide +kernel, congrArg SymbolTable.diagnostics (tables true)⟩

end StateDescription
