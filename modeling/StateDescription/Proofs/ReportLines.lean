import Mathlib.Algebra.BigOperators.Group.List.Basic
import Mathlib.Algebra.GroupWithZero.Nat
import StateDescription.Proofs.ControlCharacters
import StateDescription.Proofs.Positions
import StateDescription.Proofs.Provenance

/-!
The lines of a report. Whatever a diagnostic shows of its source stays on one line, apart from
what it takes from inside a quoted literal: only there are line feeds read that end up in a
message. So a report has a line for each diagnostic, and one for each line feed of such a text.
-/

namespace StateDescription

/-- The lines of a text, parted by its line feeds. -/
def linesOf (text : String) : List String :=
  (text.toList.splitOn '\n').map String.ofList

theorem linesOf_append_lineFeed (first second : String) :
    linesOf (first ++ "\n" ++ second) = linesOf first ++ linesOf second := by
  have text : (first ++ "\n" ++ second).toList = first.toList ++ '\n' :: second.toList := by
    simp
  have parted : (first.toList ++ '\n' :: second.toList).splitOn '\n' =
      first.toList.splitOn '\n' ++ second.toList.splitOn '\n' :=
    List.splitOnP_append_cons _ _ rfl
  rw [linesOf, text, parted, List.map_append]
  rfl

theorem linesOf_intercalate {texts : List String} (nonempty : texts ≠ []) :
    linesOf (String.intercalate "\n" texts) = texts.flatMap linesOf := by
  induction texts with
  | nil => contradiction
  | cons text texts ih =>
      cases texts with
      | nil => simp
      | cons next texts =>
          rw [String.intercalate_cons_cons, linesOf_append_lineFeed,
            ih (List.cons_ne_nil _ _)]
          rfl

theorem linesOf_eq_singleton {text : String} (oneLine : '\n' ∉ text.toList) :
    linesOf text = [text] := by
  have whole : text.toList.splitOn '\n' = [text.toList] := by
    rw [List.splitOn_eq_splitOnP]
    apply List.splitOnP_eq_singleton
    rintro c member
    apply beq_eq_false_iff_ne.2
    rintro rfl
    exact oneLine member
  rw [linesOf, whole, List.map_singleton, String.ofList_toList]

theorem length_linesOf (text : String) : (linesOf text).length = text.toList.count '\n' + 1 := by
  rw [linesOf, List.length_map]
  induction text.toList with
  | nil => rfl
  | cons c cs ih =>
      rw [List.splitOn_eq_splitOnP, List.splitOnP_cons_eq_if_modifyHead,
        ← List.splitOn_eq_splitOnP]
      by_cases lineFeed : c = '\n'
      · simp [lineFeed, ih]
      · simp [lineFeed, ih]

/-! ### Control characters -/

section Control

variable {c : Char} (control : isControl c = true)

include control

theorem Diagnostic.not_mem_countText (count : Nat) : c ∉ (countText count).toList := by
  have plain : c ∉ Decimal.digits count :=
    not_mem_of_isControl control (Decimal.any_isControl_digits count)
  rw [countText, String.toList_append, List.mem_append, String.toList_ofList, or_iff_right plain]
  apply not_mem_of_isControl control
  split <;> decide

end Control

/-! ### What a message shows -/

/-- The texts that a message shows within its fixed wording. -/
def LexicalProblem.shown : LexicalProblem → List String
  | unfinishedLiteral text | unknownEscape text | unknownToken text | other text => [text]

def SemanticProblem.shown : SemanticProblem → List String
  | duplicateTransition origin target previous =>
    origin :: target :: (previous.map Location.lead).toList
  | undefinedIdentifier text | unclosed text | unattachedModifier text | duplicateAttribute text
  | duplicateWriteMode text | unbalancedGroup text | unbalancedBlock text
  | literalOutsideGroup text | expectedIdentifier text | reservedTokenUnused text
  | unexpectedEndOfStatement text | other text => [text]

def Problem.shown : Problem → List String
  | lexical problem => problem.shown
  | semantic problem => problem.shown
  | general text | compilation text => [text]

section Control

variable {c : Char}

theorem mem_alone_iff (text : String) :
    c ∈ text.toList ↔ ∃ shown ∈ [text], c ∈ shown.toList := by
  simp

variable (control : isControl c = true)

include control

/-- A fixed wording holds no control character. -/
theorem mem_wording_iff {lead text tail : String} (before : lead.toList.any isControl = false)
    (behind : tail.toList.any isControl = false) :
    c ∈ (lead ++ text ++ tail).toList ↔ ∃ shown ∈ [text], c ∈ shown.toList := by
  simp [not_mem_of_isControl control before, not_mem_of_isControl control behind]

theorem LexicalProblem.mem_message_iff (problem : LexicalProblem) :
    c ∈ problem.message.toList ↔ ∃ text ∈ problem.shown, c ∈ text.toList := by
  cases problem with
  | other text => exact mem_alone_iff text
  | _ => exact mem_wording_iff control (by decide) (by decide)

theorem SemanticProblem.mem_message_iff (problem : SemanticProblem) :
    c ∈ problem.message.toList ↔ ∃ text ∈ problem.shown, c ∈ text.toList := by
  cases problem with
  | duplicateTransition origin target previous =>
      have lead : c ∉ "Duplicate transition: '".toList := not_mem_of_isControl control (by decide)
      have arrow : c ∉ " => ".toList := not_mem_of_isControl control (by decide)
      have bracket : c ∉ " (".toList := not_mem_of_isControl control (by decide)
      have tail : c ∉ "already defined here)'".toList := not_mem_of_isControl control (by decide)
      have wording : (duplicateTransition origin target previous).message =
          "Duplicate transition: '" ++ origin ++ " => " ++ target ++ " (" ++
            (previous.map Location.lead).getD "" ++ "already defined here)'" := rfl
      simp only [wording, String.toList_append, List.mem_append, lead, arrow, bracket, tail,
        false_or, or_false]
      cases previous <;> simp [shown, or_assoc]
  | other text => exact mem_alone_iff text
  | _ => exact mem_wording_iff control (by decide) (by decide)

theorem Problem.mem_message_iff (problem : Problem) :
    c ∈ problem.message.toList ↔ ∃ text ∈ problem.shown, c ∈ text.toList := by
  cases problem with
  | lexical problem => exact problem.mem_message_iff control
  | semantic problem => exact problem.mem_message_iff control
  | general text => exact mem_alone_iff text
  | compilation report => exact mem_alone_iff report

/-- A diagnostic shows the name of its file and what its message shows. -/
theorem Diagnostic.mem_located_text_iff (notTab : c ≠ '\t') {problem : Problem} {location : Location}
    (single : ∀ report, problem ≠ .compilation report) :
    c ∈ (Diagnostic.mk problem (some location)).text.toList ↔
      c ∈ location.file.toList ∨ ∃ shown ∈ problem.shown, c ∈ shown.toList := by
  have text : (Diagnostic.mk problem (some location)).text =
      location.lead ++ problem.message := by
    cases problem with
    | compilation report => exact absurd rfl (single report)
    | _ => rfl
  rw [text, String.toList_append, List.mem_append, location.mem_lead_iff control notTab,
    problem.mem_message_iff control]

end Control

/-- The text that a problem takes from inside a quoted literal. -/
def Problem.literalText? : Problem → Option String
  | .semantic (.literalOutsideGroup text) => some text
  | .lexical (.unknownEscape text) => some text
  | _ => none

theorem Problem.mem_shown_of_literalText? {problem : Problem} {text : String}
    (literal : problem.literalText? = some text) : text ∈ problem.shown := by
  unfold literalText? at literal
  split at literal <;> cases literal <;> exact List.mem_cons_self

namespace Diagnostic

/-- A line feed stands in what the diagnostic takes from inside a quoted literal. -/
def QuotesLineFeed (diagnostic : Diagnostic) : Prop :=
  ∃ text ∈ diagnostic.problem.literalText?, '\n' ∈ text.toList

/-! ### Reports -/

theorem linesOf_report (diagnostics : List Diagnostic) :
    linesOf (report diagnostics) =
      diagnostics.flatMap (fun diagnostic => linesOf diagnostic.text) ++
        [countText diagnostics.length] := by
  rw [report, linesOf_intercalate (by simp), List.flatMap_append, List.flatMap_map,
    List.flatMap_singleton, linesOf_eq_singleton (not_mem_countText rfl _)]

theorem length_linesOf_report (diagnostics : List Diagnostic) :
    (linesOf (report diagnostics)).length =
      diagnostics.length + 1 +
        (diagnostics.map fun diagnostic => diagnostic.text.toList.count '\n').sum := by
  rw [linesOf_report, List.length_append, List.length_flatMap]
  simp only [length_linesOf, List.sum_map_add, List.map_const', List.sum_replicate_nat,
    List.length_singleton]
  omega

theorem length_linesOf_report_eq_iff (diagnostics : List Diagnostic) :
    (linesOf (report diagnostics)).length = diagnostics.length + 1 ↔
      ∀ diagnostic ∈ diagnostics, '\n' ∉ diagnostic.text.toList := by
  rw [length_linesOf_report, Nat.add_eq_left, List.sum_eq_zero_iff_forall_eq_nat,
    List.forall_mem_map]
  simp only [List.count_eq_zero]

/-- The report has one line for each diagnostic when no text of one breaks its line. -/
theorem linesOf_report_eq_iff (diagnostics : List Diagnostic) :
    linesOf (report diagnostics) = diagnostics.map text ++ [countText diagnostics.length] ↔
      ∀ diagnostic ∈ diagnostics, '\n' ∉ diagnostic.text.toList := by
  constructor
  · intro same
    rw [← length_linesOf_report_eq_iff, same, List.length_append, List.length_map,
      List.length_singleton]
  · intro none
    have single : ∀ diagnostic ∈ diagnostics, linesOf diagnostic.text = [diagnostic.text] :=
      fun diagnostic member => linesOf_eq_singleton (none diagnostic member)
    rw [linesOf_report, List.flatMap_congr single, ← List.map_eq_flatMap]

end Diagnostic

/-! ### What scanning reads -/

namespace Lexeme

theorem Covers.not_mem_value {type : TokenType} {value : String} {span rest : List Char}
    (covers : (token type value).Covers span rest) (other : type ≠ .literal) :
    '\n' ∉ value.toList := by
  cases covers with
  | identifier alphanumeric =>
      rw [String.toList_ofList]
      intro member
      have counted := alphanumeric _ member
      revert counted
      decide
  | comment oneLine => simpa using oneLine
  | lastComment oneLine => simpa using oneLine
  | literal => contradiction
  | @punctuation c type rest known =>
      rw [String.toList_singleton, List.mem_singleton]
      rintro rfl
      have absent : TokenType.ofPunctuation? '\n' = none := by decide
      rw [absent] at known
      cases known

theorem Covers.literalText?_eq {problem : LexicalProblem} {span rest : List Char}
    (covers : (Lexeme.problem problem).Covers span rest) {text : String}
    (shown : text ∈ problem.shown) (lineFeed : '\n' ∈ text.toList) :
    (Problem.lexical problem).literalText? = some text := by
  cases covers with
  | unknownEscape => rw [List.mem_singleton.1 shown, Problem.literalText?]
  | @unfinishedLiteral quote body quoted =>
      rw [List.mem_singleton.1 shown, String.toList_singleton, List.mem_singleton] at lineFeed
      rw [← lineFeed] at quoted
      exact absurd quoted (by decide)
  | @unknownToken c rest notBlank =>
      rw [List.mem_singleton.1 shown, String.toList_singleton, List.mem_singleton] at lineFeed
      rw [← lineFeed] at notBlank
      exact absurd notBlank (by decide)

end Lexeme

section Scanned

variable {file source : String}

/-- A token of a scan stands in its file, and only a literal has a value with a line feed. -/
theorem token_of_mem_scan {token : Token} (read : .token token ∈ scan file source) :
    token.location.file = file ∧ (token.type ≠ .literal → '\n' ∉ token.value.toList) := by
  obtain ⟨lexeme, span, rest, place, _, covers, same⟩ :=
    (scan_segmented file source).1.exists_lexeme read
  cases lexeme with
  | token type value =>
      cases same
      exact ⟨rfl, covers.not_mem_value⟩
  | problem problem => cases same

theorem name_of_mem_scan {name : PendingName} (read : name ∈ Item.namesOf (scan file source)) :
    name.location.file = file ∧ '\n' ∉ name.name.toList := by
  obtain ⟨item, member, named⟩ := List.mem_filterMap.1 read
  unfold Item.name? at named
  split at named <;> cases named
  · obtain ⟨located, oneLine⟩ := token_of_mem_scan member
    exact ⟨located, oneLine (by rintro ⟨⟩)⟩
  · exact ⟨(token_of_mem_scan member).1, by simp⟩
  · exact ⟨(token_of_mem_scan member).1, by simp⟩

end Scanned

theorem Token.shown_of_objections {token : Token} {problem : SemanticProblem}
    (objects : problem ∈ token.objections) :
    problem.shown = [token.value] ∧
      (token.type = .literal → (Problem.semantic problem).literalText? = some token.value) := by
  unfold objections at objects
  split at objects <;> rename_i type <;>
    simp only [List.mem_cons, List.not_mem_nil, or_false] at objects
  all_goals
    rcases objects with rfl | rfl <;> exact ⟨rfl, by simp [type, Problem.literalText?]⟩

/-! ### What diagnostics show -/

/-- Where a text that a problem shows comes from: it belongs to a fault, or is the value of a token,
a name, or the place of a name. -/
inductive Problem.Cites (source : List Item) (problem : Problem) (text : String) : Prop
  | fault {fault : Fault} (read : .fault fault ∈ source) (own : problem = .lexical fault.problem)
      (shown : text ∈ fault.problem.shown)
  | token {token : Token} (read : .token token ∈ source) (value : text = token.value)
      (literal : token.type = .literal → problem.literalText? = some text)
  | name {name : PendingName} (read : name ∈ Item.namesOf source) (same : text = name.name)
  | place {name : PendingName} (read : name ∈ Item.namesOf source)
      (same : text = name.location.lead)

namespace Diagnostic

/-- A diagnostic with a place in a file that shows nothing but what was read. -/
structure Sourced (source : List Item) (file : String) (diagnostic : Diagnostic) : Prop where
  located : ∃ location, diagnostic.location = some location ∧ location.file = file
  single : ∀ report, diagnostic.problem ≠ .compilation report
  cites : ∀ text ∈ diagnostic.problem.shown, diagnostic.problem.Cites source text

variable {file source : String} {diagnostic : Diagnostic}

theorem Arises.sourced (arises : diagnostic.Arises (scan file source)) :
    diagnostic.Sourced (scan file source) file := by
  have placed {name : PendingName} (read : name ∈ Item.namesOf (scan file source)) :
      ∃ location, some name.location = some location ∧ location.file = file :=
    ⟨_, rfl, (name_of_mem_scan read).1⟩
  cases arises with
  | @fault fault read =>
      refine ⟨?_, by rintro _ ⟨⟩, fun text shown => .fault read rfl shown⟩
      obtain ⟨lexeme, span, rest, place, _, _, same⟩ :=
        (scan_segmented file source).1.exists_lexeme read
      cases lexeme with
      | token type value => cases same
      | problem problem =>
          cases same
          exact ⟨_, rfl, rfl⟩
  | @token token problem read objects =>
      obtain ⟨shown, literal⟩ := Token.shown_of_objections objects
      refine ⟨⟨_, rfl, (token_of_mem_scan read).1⟩, by rintro _ ⟨⟩, fun text member => ?_⟩
      change text ∈ problem.shown at member
      rw [shown, List.mem_singleton] at member
      subst member
      exact .token read rfl literal
  | unclosed read =>
      exact ⟨placed read, by rintro _ ⟨⟩,
        fun text member => .name read (List.mem_singleton.1 member)⟩
  | undefined read =>
      exact ⟨placed read, by rintro _ ⟨⟩,
        fun text member => .name read (List.mem_singleton.1 member)⟩
  | @repeated origin target previous readOrigin readTarget readPrevious =>
      refine ⟨placed readOrigin, by rintro _ ⟨⟩, fun text member => ?_⟩
      change text ∈ [origin.name, target.name, previous.location.lead] at member
      simp only [List.mem_cons, List.not_mem_nil, or_false] at member
      rcases member with same | same | same
      · exact .name readOrigin same
      · exact .name readTarget same
      · exact .place readPrevious same

theorem Sourced.mem_text_iff {items : List Item} (sourced : diagnostic.Sourced items file) {c : Char}
    (control : isControl c = true) (notTab : c ≠ '\t') :
    c ∈ diagnostic.text.toList ↔
      c ∈ file.toList ∨ ∃ text ∈ diagnostic.problem.shown, c ∈ text.toList := by
  obtain ⟨problem, place⟩ := diagnostic
  obtain ⟨location, rfl, rfl⟩ := sourced.located
  exact mem_located_text_iff control notTab sourced.single

/-- A line feed that a diagnostic of a scan cites stands inside a quoted literal. -/
theorem Arises.literalText?_eq (arises : diagnostic.Arises (scan file source))
    (oneLine : '\n' ∉ file.toList) {text : String} (shown : text ∈ diagnostic.problem.shown)
    (lineFeed : '\n' ∈ text.toList) : diagnostic.problem.literalText? = some text := by
  cases arises.sourced.cites text shown with
  | @fault fault read own shown =>
      obtain ⟨lexeme, span, rest, place, _, covers, same⟩ :=
        (scan_segmented file source).1.exists_lexeme read
      cases lexeme with
      | token type value => cases same
      | problem problem =>
          cases same
          rw [own]
          exact covers.literalText?_eq shown lineFeed
  | @token token read value literal =>
      by_cases type : token.type = .literal
      · exact literal type
      · rw [value] at lineFeed
        exact absurd lineFeed ((token_of_mem_scan read).2 type)
  | @name name read same =>
      rw [same] at lineFeed
      exact absurd lineFeed (name_of_mem_scan read).2
  | @place name read same =>
      rw [same, name.location.mem_lead_iff rfl (by decide), (name_of_mem_scan read).1] at lineFeed
      exact absurd lineFeed oneLine

theorem Arises.mem_text_iff (arises : diagnostic.Arises (scan file source))
    (oneLine : '\n' ∉ file.toList) :
    '\n' ∈ diagnostic.text.toList ↔ diagnostic.QuotesLineFeed := by
  rw [arises.sourced.mem_text_iff rfl (by decide), or_iff_right oneLine]
  constructor
  · rintro ⟨shown, member, lineFeed⟩
    exact ⟨shown, arises.literalText?_eq oneLine member lineFeed, lineFeed⟩
  · rintro ⟨shown, literal, lineFeed⟩
    exact ⟨shown, Problem.mem_shown_of_literalText? literal, lineFeed⟩

end Diagnostic

/-- A diagnostic of a source breaks its line just where it takes a line feed from inside a quoted
literal. Its lines stand in the report in one piece, in the order of the diagnostics and before
the summary. So each diagnostic has one line, and the report one more than there are diagnostics,
just when no such line feed was read. -/
theorem report_lines (recordsFaults : Bool) {file : String} (oneLine : '\n' ∉ file.toList)
    (source : String) :
    let table := SymbolTable.ofItems recordsFaults (scan file source)
    let summary := Diagnostic.countText table.diagnostics.length
    let unbroken := ∀ diagnostic ∈ table.diagnostics, ¬diagnostic.QuotesLineFeed
    (∀ diagnostic ∈ table.diagnostics,
      '\n' ∈ diagnostic.text.toList ↔ diagnostic.QuotesLineFeed) ∧
      linesOf table.report =
        table.diagnostics.flatMap (fun diagnostic => linesOf diagnostic.text) ++ [summary] ∧
      (linesOf table.report = table.diagnostics.map Diagnostic.text ++ [summary] ↔ unbroken) ∧
      ((linesOf table.report).length = table.diagnostics.length + 1 ↔ unbroken) := by
  intro table summary unbroken
  have broken : ∀ diagnostic ∈ table.diagnostics,
      '\n' ∈ diagnostic.text.toList ↔ diagnostic.QuotesLineFeed := by
    intro diagnostic member
    have made := SymbolTable.madeOf_ofItems recordsFaults (scan file source)
    exact (made.diagnostics diagnostic member).mem_text_iff oneLine
  have none : (∀ diagnostic ∈ table.diagnostics, '\n' ∉ diagnostic.text.toList) ↔ unbroken :=
    forall₂_congr fun diagnostic member => not_congr (broken diagnostic member)
  exact ⟨broken, Diagnostic.linesOf_report _, (Diagnostic.linesOf_report_eq_iff _).trans none,
    (Diagnostic.length_linesOf_report_eq_iff _).trans none⟩

/-- The text `| '`: a reserved token and a literal without its end, on a line each. -/
theorem report_lines_of_two :
    let table := SymbolTable.ofItems true (scan "sample" "| '")
    '\n' ∉ "sample".toList ∧ (∀ diagnostic ∈ table.diagnostics, ¬diagnostic.QuotesLineFeed) ∧
      linesOf table.report =
        ["sample:001:001 -->\tReserved token has no meaning: '|'",
          "sample:001:003 -->\tUnfinished literal: missing closing '''", "2 errors"] := by
  intro table
  have oneLine : '\n' ∉ "sample".toList := by decide
  have made : table.diagnostics =
      [⟨.semantic (.reservedTokenUnused "|"), some ⟨"sample", 1, 1⟩⟩,
        ⟨.lexical (.unfinishedLiteral "'"), some ⟨"sample", 1, 3⟩⟩] := by decide +kernel
  have unbroken : ∀ diagnostic ∈ table.diagnostics, ¬diagnostic.QuotesLineFeed := by
    rw [made]
    simp [Diagnostic.QuotesLineFeed, Problem.literalText?]
  obtain ⟨_, _, lines, _⟩ := report_lines true oneLine "| '"
  refine ⟨oneLine, unbroken, (lines.2 unbroken).trans ?_⟩
  change table.diagnostics.map Diagnostic.text ++
    [Diagnostic.countText table.diagnostics.length] = _
  rw [made]
  decide +kernel

/-- In the text `'a⏎b'` a literal with a line feed stands outside of a group. Its diagnostic shows
the literal as it is and takes two lines. -/
theorem report_broken_by_literal :
    let table := SymbolTable.ofItems true (scan "sample" "'a\nb'")
    '\n' ∉ "sample".toList ∧
      (∃ diagnostic ∈ table.diagnostics, '\n' ∈ diagnostic.text.toList) ∧
      linesOf table.report =
        ["sample:001:001 -->\tLiteral outside of a value group: 'a", "b'", "1 error"] := by
  decide +kernel

end StateDescription
