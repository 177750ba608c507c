import Mathlib.Data.List.Chain
import StateDescription.Proofs.Segmentation

/-!
Printed tokens. A token may be written in several ways, and blanks may stand between tokens, but
whatever way is chosen, scanning the text gives the tokens back.
-/

namespace StateDescription

/-! ### Written tokens -/

namespace Literal

/-- The letter that stands for a character behind a backslash. -/
def escape? : Char → Option Char
  | '\n' => some 'n'
  | '\t' => some 't'
  | '\r' => some 'r'
  | '\\' => some '\\'
  | '"' => some '"'
  | '\'' => some '\''
  | _ => none

theorem escaped?_of_escape? {c letter : Char} (escapes : escape? c = some letter) :
    escaped? letter = some c := by
  unfold escape? at escapes
  split at escapes <;> cases escapes <;> rfl

/-- How a text can be written between two quotes: each character as itself or as its escape. -/
inductive Spells (quote : Char) : (text written : List Char) → Prop
  | nil : Spells quote [] []
  | plain {c : Char} {text written : List Char} (notQuote : c ≠ quote) (notBackslash : c ≠ '\\')
      (more : Spells quote text written) : Spells quote (c :: text) (c :: written)
  | escaped {c letter : Char} {text written : List Char} (escapes : escape? c = some letter)
      (more : Spells quote text written) :
      Spells quote (c :: text) ('\\' :: letter :: written)

theorem escape?_of_isQuote {quote : Char} (quoted : isQuote quote = true) :
    escape? quote = some quote := by
  rcases Bool.or_eq_true_iff.1 quoted with single | double
  · rw [beq_iff_eq.1 single]
    rfl
  · rw [beq_iff_eq.1 double]
    rfl

/-- Every text can be written, for what cannot stand as itself has an escape. -/
theorem exists_spells {quote : Char} (quoted : isQuote quote = true) (text : List Char) :
    ∃ written, Spells quote text written := by
  induction text with
  | nil => exact ⟨[], .nil⟩
  | cons c text ih =>
      obtain ⟨written, more⟩ := ih
      by_cases own : c = quote
      · exact ⟨_, .escaped (own ▸ escape?_of_isQuote quoted) more⟩
      · by_cases backslash : c = '\\'
        · subst backslash
          exact ⟨_, .escaped rfl more⟩
        · exact ⟨_, .plain own backslash more⟩

theorem ne_backslash_of_isQuote {quote : Char} (quoted : isQuote quote = true) :
    quote ≠ '\\' := by
  rintro rfl
  exact absurd quoted (by decide)

theorem close?_of_spells {quote : Char} {text written : List Char} (rest : List Char)
    (quoted : isQuote quote = true) (spells : Spells quote text written) :
    close? quote (written ++ quote :: rest) = some ⟨.text text, written ++ [quote], rest⟩ := by
  have notBackslash := (ne_backslash_of_isQuote quoted).symm
  induction spells with
  | nil =>
      rw [List.nil_append, close?.eq_def]
      simp
  | plain notQuote notBackslash _ ih =>
      rw [List.cons_append, close?.eq_def]
      simp [notQuote, notBackslash, ih, Body.plain]
  | escaped escapes _ ih =>
      rw [List.cons_append, List.cons_append, close?.eq_def]
      simp [notBackslash, ih, Body.escape, escaped?_of_escape? escapes, Body.plain]

end Literal

/-- The texts that a token can be written as. -/
inductive Writes : TokenType → String → List Char → Prop
  | identifier {name : List Char} (nonempty : name ≠ [])
      (alphanumeric : ∀ c ∈ name, isAlphanumeric c = true) :
      Writes .identifier (String.ofList name) name
  | literal {quote : Char} {text written : List Char} (quoted : Literal.isQuote quote = true)
      (spells : Literal.Spells quote text written) :
      Writes .literal (String.ofList text) (quote :: written ++ [quote])
  | comment {text : List Char} (oneLine : '\n' ∉ text) :
      Writes .comment (String.ofList ('#' :: text)) ('#' :: text)
  | punctuation {c : Char} {type : TokenType} (known : TokenType.ofPunctuation? c = some type) :
      Writes type (String.singleton c) [c]

/-- The values that tokens of a type can have. -/
def TokenType.Admits : TokenType → String → Prop
  | identifier, value => value ≠ "" ∧ ∀ c ∈ value.toList, isAlphanumeric c = true
  | literal, _ => True
  | comment, value => ∃ text, value = String.ofList ('#' :: text) ∧ '\n' ∉ text
  | type, value => ∃ c, ofPunctuation? c = some type ∧ value = String.singleton c

theorem TokenType.admits_of_ofPunctuation? {c : Char} {type : TokenType}
    (known : ofPunctuation? c = some type) : type.Admits (String.singleton c) := by
  have symbol := known
  unfold ofPunctuation? at known
  split at known <;> cases known <;> exact ⟨_, symbol, rfl⟩

/-- Every token of the language can be written, and nothing else can. -/
theorem exists_writes_iff {type : TokenType} {value : String} :
    (∃ written, Writes type value written) ↔ type.Admits value := by
  constructor
  · rintro ⟨written, writes⟩
    cases writes with
    | identifier nonempty alphanumeric =>
        refine ⟨?_, by rwa [String.toList_ofList]⟩
        rwa [← String.ofList_nil, ne_eq, String.ofList_inj]
    | literal => trivial
    | comment oneLine => exact ⟨_, rfl, oneLine⟩
    | punctuation known => exact TokenType.admits_of_ofPunctuation? known
  · intro admits
    cases type with
    | identifier =>
        obtain ⟨nonempty, alphanumeric⟩ := admits
        have nonemptyList : value.toList ≠ [] := by rwa [ne_eq, String.toList_eq_nil_iff]
        rw [← String.ofList_toList (s := value)]
        exact ⟨_, .identifier nonemptyList alphanumeric⟩
    | literal =>
        obtain ⟨written, spells⟩ := @Literal.exists_spells '"' rfl value.toList
        rw [← String.ofList_toList (s := value)]
        exact ⟨_, .literal rfl spells⟩
    | comment =>
        obtain ⟨text, rfl, oneLine⟩ := admits
        exact ⟨_, .comment oneLine⟩
    | _ =>
        obtain ⟨c, known, rfl⟩ := admits
        exact ⟨_, .punctuation known⟩

/-- A token as it is printed: its characters, and the blanks behind it. -/
structure Printed where
  type : TokenType
  value : String
  written : List Char
  gap : List Char

namespace Printed

def chars (printed : Printed) : List Char :=
  printed.written ++ printed.gap

def lexeme (printed : Printed) : Lexeme :=
  .token printed.type printed.value

/-- A comment goes to the end of its line, so a line feed follows it directly. -/
structure Sound (printed : Printed) : Prop where
  writes : Writes printed.type printed.value printed.written
  blank : ∀ c ∈ printed.gap, isBlank c = true
  ends_line : printed.type = .comment → printed.gap.head? = some '\n'

/-- Two identifiers in succession are kept apart by a blank. -/
def Apart (first second : Printed) : Prop :=
  first.type = .identifier → second.type = .identifier → first.gap ≠ []

end Printed

/-- What an item is, without its place. -/
def Item.lexeme : Item → Lexeme
  | .token t => .token t.type t.value
  | .fault f => .problem f.problem

@[simp] theorem Lexeme.lexeme_at (lexeme : Lexeme) (location : Location) :
    (lexeme.at location).lexeme = lexeme := by
  cases lexeme <;> rfl

/-! ### Reading what is written -/

theorem not_isAlphanumeric_of_isBlank {c : Char} (blank : isBlank c = true) :
    isAlphanumeric c = false := by
  simp only [isBlank, Bool.or_eq_true, beq_iff_eq] at blank
  rcases blank with ((rfl | rfl) | rfl) | rfl <;> decide

theorem not_isAlphanumeric_of_isQuote {c : Char} (quoted : Literal.isQuote c = true) :
    isAlphanumeric c = false := by
  simp only [Literal.isQuote, Bool.or_eq_true, beq_iff_eq] at quoted
  rcases quoted with rfl | rfl <;> decide

theorem TokenType.not_isAlphanumeric_of_ofPunctuation? {c : Char} {type : TokenType}
    (known : ofPunctuation? c = some type) : isAlphanumeric c = false := by
  unfold ofPunctuation? at known
  split at known <;> first | decide | cases known

theorem not_isBlank_of_isAlphanumeric {c : Char} (alphanumeric : isAlphanumeric c = true) :
    isBlank c = false := by
  rw [Bool.eq_false_iff]
  intro blank
  rw [not_isAlphanumeric_of_isBlank blank] at alphanumeric
  cases alphanumeric

namespace Reading

theorem ofText_identifier {c : Char} {name rest : List Char}
    (alphanumeric : ∀ d ∈ c :: name, isAlphanumeric d = true)
    (maximal : ∀ d ∈ rest.head?, isAlphanumeric d = false) :
    ofText c (name ++ rest) =
      ⟨.token .identifier (String.ofList (c :: name)), c :: name, rest⟩ := by
  obtain ⟨first, others⟩ := List.forall_mem_cons.1 alphanumeric
  have notHash : c ≠ '#' := by
    rintro rfl
    exact absurd first (by decide)
  rw [ofText, if_neg notHash, if_pos first, identifier_append others maximal]

theorem ofText_of_isQuote {quote : Char} (quoted : Literal.isQuote quote = true)
    (cs : List Char) : ofText quote cs = literal quote cs := by
  have notHash : quote ≠ '#' := by
    rintro rfl
    exact absurd quoted (by decide)
  rw [ofText, if_neg notHash, not_isAlphanumeric_of_isQuote quoted,
    if_neg Bool.false_ne_true, if_pos quoted]

theorem ofText_literal {quote : Char} {text written : List Char} (rest : List Char)
    (quoted : Literal.isQuote quote = true) (spells : Literal.Spells quote text written) :
    ofText quote (written ++ quote :: rest) =
      ⟨.token .literal (String.ofList text), quote :: (written ++ [quote]), rest⟩ := by
  rw [ofText_of_isQuote quoted, literal, Literal.close?_of_spells rest quoted spells]

theorem ofText_punctuation {c : Char} {type : TokenType} (rest : List Char)
    (known : TokenType.ofPunctuation? c = some type) :
    ofText c rest = ⟨.token type (String.singleton c), [c], rest⟩ := by
  have notAlphanumeric := TokenType.not_isAlphanumeric_of_ofPunctuation? known
  have notHash : c ≠ '#' := by
    rintro rfl
    cases known
  have notQuote : Literal.isQuote c = false := by
    rw [Bool.eq_false_iff]
    intro quoted
    simp only [Literal.isQuote, Bool.or_eq_true, beq_iff_eq] at quoted
    rcases quoted with rfl | rfl <;> cases known
  rw [ofText, if_neg notHash, notAlphanumeric, if_neg Bool.false_ne_true, notQuote,
    if_neg Bool.false_ne_true, single, known]

end Reading

namespace Cursor

variable {file : String} {position : Position}

/-- Behind blanks the next item is the one that the first other character starts. -/
theorem next?_of_blanks {gap cs : List Char} {c : Char} (blank : ∀ d ∈ gap, isBlank d = true)
    (notBlank : isBlank c = false) :
    (⟨file, position, gap ++ c :: cs⟩ : Cursor).next? =
      some ((Reading.ofText c cs).lexeme.at ((position.after gap).within file),
        ⟨file, position.after (gap ++ (Reading.ofText c cs).span),
          (Reading.ofText c cs).rest⟩) := by
  have skipped : (⟨file, position, gap ++ c :: cs⟩ : Cursor).skipBlanks =
      ⟨file, position.after gap, c :: cs⟩ := by
    rw [skipBlanks, List.takeWhile_append_of_pos blank, List.dropWhile_append_of_pos blank,
      List.takeWhile_cons_of_neg (by simp [notBlank]),
      List.dropWhile_cons_of_neg (by simp [notBlank]), List.append_nil]
  rw [next?, skipped, Position.after_append]

theorem items_of_blanks {gap : List Char} (blank : ∀ d ∈ gap, isBlank d = true) :
    (⟨file, position, gap⟩ : Cursor).items = [] := by
  refine items_of_next?_eq_none ?_
  have nothing : gap.dropWhile isBlank = [] := List.dropWhile_eq_nil_iff.2 blank
  rw [next?, skipBlanks, nothing]

end Cursor

namespace Printed

/-- No token but an identifier starts with an alphanumeric character. -/
theorem Sound.not_isAlphanumeric_head {printed : Printed} (sound : printed.Sound)
    (other : printed.type ≠ .identifier) :
    ∃ c written, printed.written = c :: written ∧ isAlphanumeric c = false := by
  obtain ⟨type, value, written, gap⟩ := printed
  have writes : Writes type value written := sound.writes
  cases writes with
  | identifier => exact absurd rfl other
  | literal quoted => exact ⟨_, _, rfl, not_isAlphanumeric_of_isQuote quoted⟩
  | comment => exact ⟨'#', _, rfl, by decide⟩
  | punctuation known =>
      exact ⟨_, [], rfl, TokenType.not_isAlphanumeric_of_ofPunctuation? known⟩

/-- Behind an identifier a printed text goes on with a character that ends it. -/
theorem maximal_of_apart {printed : Printed} {later : List Printed} (sound : printed.Sound)
    (soundLater : ∀ other ∈ later, other.Sound)
    (apart : (printed :: later).IsChain Apart) (identifier : printed.type = .identifier) :
    ∀ c ∈ (printed.gap ++ later.flatMap chars).head?, isAlphanumeric c = false := by
  intro c head
  cases gap : printed.gap with
  | cons blank gap =>
      rw [gap] at head
      cases head
      exact not_isAlphanumeric_of_isBlank (sound.blank c (gap ▸ List.mem_cons_self))
  | nil =>
      cases later with
      | nil =>
          rw [gap] at head
          cases head
      | cons next later =>
          have other : next.type ≠ .identifier := fun same =>
            (List.isChain_cons_cons.1 apart).1 identifier same gap
          obtain ⟨first, written, writes, ends⟩ :=
            (soundLater next List.mem_cons_self).not_isAlphanumeric_head other
          rw [gap, List.nil_append, List.flatMap_cons, chars, writes] at head
          cases head
          exact ends

/-- A printed token is read as it was, and what is left is the printed text behind it, with blanks
in front. -/
theorem exists_next {printed : Printed} {later : List Printed} (sound : printed.Sound)
    (soundLater : ∀ other ∈ later, other.Sound) (apart : (printed :: later).IsChain Apart)
    (file : String) (position : Position) {gap : List Char}
    (blank : ∀ c ∈ gap, isBlank c = true) :
    ∃ location behind rest, (∀ c ∈ rest, isBlank c = true) ∧
      (⟨file, position, gap ++ (printed :: later).flatMap chars⟩ : Cursor).next? =
        some (printed.lexeme.at location, ⟨file, behind, rest ++ later.flatMap chars⟩) := by
  have text : (printed :: later).flatMap chars =
      printed.written ++ (printed.gap ++ later.flatMap chars) := by
    rw [List.flatMap_cons, chars, List.append_assoc]
  have maximal := maximal_of_apart sound soundLater apart
  rw [text]
  obtain ⟨type, value, written, behind⟩ := printed
  have writes : Writes type value written := sound.writes
  cases writes with
  | @identifier name nonempty alphanumeric =>
      obtain ⟨c, name, rfl⟩ := List.exists_cons_of_ne_nil nonempty
      have notBlank := not_isBlank_of_isAlphanumeric (alphanumeric c List.mem_cons_self)
      rw [List.cons_append, Cursor.next?_of_blanks blank notBlank,
        Reading.ofText_identifier alphanumeric (maximal rfl)]
      exact ⟨_, _, behind, sound.blank, rfl⟩
  | @literal quote _ written quoted spells =>
      have notBlank : isBlank quote = false := by
        simp only [Literal.isQuote, Bool.or_eq_true, beq_iff_eq] at quoted
        rcases quoted with rfl | rfl <;> rfl
      rw [List.append_assoc, List.cons_append, List.singleton_append,
        Cursor.next?_of_blanks blank notBlank, Reading.ofText_literal _ quoted spells]
      exact ⟨_, _, behind, sound.blank, rfl⟩
  | @comment text oneLine =>
      -- The comment takes the line feed behind it along.
      obtain ⟨rest, ends⟩ : ∃ rest, behind = '\n' :: rest :=
        List.head?_eq_some_iff.1 (sound.ends_line rfl)
      subst ends
      simp only [List.cons_append]
      rw [Cursor.next?_of_blanks blank rfl, Reading.ofText, if_pos rfl,
        Reading.comment_closed oneLine]
      exact ⟨_, _, rest, fun c member => sound.blank c (List.mem_cons_of_mem _ member), rfl⟩
  | @punctuation c _ known =>
      have notBlank : isBlank c = false := by
        unfold TokenType.ofPunctuation? at known
        split at known <;> first | rfl | cases known
      rw [List.singleton_append, Cursor.next?_of_blanks blank notBlank,
        Reading.ofText_punctuation _ known]
      exact ⟨_, _, behind, sound.blank, rfl⟩

theorem items_printed {prints : List Printed} (sound : ∀ printed ∈ prints, printed.Sound)
    (apart : prints.IsChain Apart) (file : String) (position : Position) {gap : List Char}
    (blank : ∀ c ∈ gap, isBlank c = true) :
    (⟨file, position, gap ++ prints.flatMap chars⟩ : Cursor).items.map Item.lexeme =
      prints.map lexeme := by
  induction prints generalizing position gap with
  | nil =>
      rw [List.flatMap_nil, List.append_nil, Cursor.items_of_blanks blank]
      rfl
  | cons printed later ih =>
      obtain ⟨own, others⟩ := List.forall_mem_cons.1 sound
      obtain ⟨location, behind, rest, blankRest, next⟩ :=
        exists_next own others apart file position blank
      rw [Cursor.items_of_next?_eq_some next, List.map_cons, Lexeme.lexeme_at,
        ih others apart.tail behind blankRest]
      rfl

end Printed

/-- Scanning a printed text gives the tokens that were printed, whatever way each of them was
written and whatever blanks stand around them. Every token of the language can be printed. -/
theorem scan_printed (file : String) (lead : List Char) (prints : List Printed)
    (blank : ∀ c ∈ lead, isBlank c = true) (sound : ∀ printed ∈ prints, printed.Sound)
    (apart : prints.IsChain Printed.Apart) :
    (scan file (String.ofList (lead ++ prints.flatMap Printed.chars))).map Item.lexeme =
        (prints.map fun printed => .token printed.type printed.value) ∧
      ∀ type value, type.Admits value ↔ ∃ written, Writes type value written := by
  have items := Printed.items_printed sound apart file .start blank
  refine ⟨?_, fun _ _ => exists_writes_iff.symm⟩
  rwa [scan, Cursor.start, String.toList_ofList]

/-- Names kept apart by a blank, two literals with escapes and the other quote in one of them, and
a comment. -/
theorem scan_printed_sample :
    let lead := [' ']
    let prints : List Printed :=
      [⟨.identifier, "a", ['a'], [' ']⟩, ⟨.identifier, "b", ['b'], []⟩,
        ⟨.openGroup, "(", ['('], []⟩, ⟨.literal, "'#", ['\'', '\\', '\'', '#', '\''], []⟩,
        ⟨.literal, "'\n\n", ['"', '\'', '\n', '\\', 'n', '"'], []⟩,
        ⟨.closeGroup, ")", [')'], []⟩, ⟨.comment, "# \"", ['#', ' ', '"'], ['\n', '\t']⟩]
    (∀ printed ∈ prints, printed.Sound) ∧ prints.IsChain Printed.Apart ∧
      (scan "sample" (String.ofList (lead ++ prints.flatMap Printed.chars))).map Item.lexeme =
        [.token .identifier "a", .token .identifier "b", .token .openGroup "(",
          .token .literal "'#", .token .literal "'\n\n", .token .closeGroup ")",
          .token .comment "# \""] := by
  intro lead prints
  have all {holds : Char → Bool} {cs : List Char} (checked : cs.all holds = true) :
      ∀ c ∈ cs, holds c = true :=
    List.all_eq_true.1 checked
  have sound : ∀ printed ∈ prints, printed.Sound := by
    simp only [prints, List.forall_mem_cons]
    refine ⟨⟨@Writes.identifier ['a'] (by decide) (all rfl), all rfl, by decide⟩,
      ⟨@Writes.identifier ['b'] (by decide) (all rfl), all rfl, by decide⟩,
      ⟨@Writes.punctuation '(' _ rfl, all rfl, by decide⟩,
      ⟨.literal rfl (.escaped rfl (.plain (by decide) (by decide) .nil)), all rfl, by decide⟩,
      ⟨.literal rfl (.plain (by decide) (by decide) (.plain (by decide) (by decide)
        (.escaped rfl .nil))), all rfl, by decide⟩,
      ⟨@Writes.punctuation ')' _ rfl, all rfl, by decide⟩,
      ⟨@Writes.comment [' ', '"'] (by decide), all rfl, by decide⟩, ?_⟩
    exact fun _ none => absurd none List.not_mem_nil
  have apart : prints.IsChain Printed.Apart := by
    simp [prints, Printed.Apart]
  exact ⟨sound, apart, (scan_printed "sample" lead prints (all rfl) sound apart).1⟩

end StateDescription
