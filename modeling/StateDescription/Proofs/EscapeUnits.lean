import StateDescription.Proofs.Printing

/-!
Quoted literals, unit by unit. The text behind an opening quote falls into units, and the first
unit that is the quote itself ends the literal. What the units before it mean is the value, and
the first of them without a meaning spoils it.
-/

namespace StateDescription

/-- A character of a quoted text, or a backslash with the character behind it. -/
inductive EscapeUnit
  | plain (c : Char)
  | escape (c : Char)
  deriving DecidableEq

namespace EscapeUnit

def char : EscapeUnit → Char
  | plain c => c
  | escape c => c

def chars : EscapeUnit → List Char
  | plain c => [c]
  | escape c => ['\\', c]

/-- The characters that have a meaning behind a backslash, with what they mean. -/
def escapes : List (Char × Char) :=
  [('n', '\n'), ('t', '\t'), ('r', '\r'), ('\\', '\\'), ('"', '"'), ('\'', '\'')]

def meaning? : EscapeUnit → Option Char
  | plain c => some c
  | escape c => escapes.lookup c

/-- The units of a text, from the left. A lone backslash at its end is part of no unit. -/
def ofText : List Char → List EscapeUnit
  | [] => []
  | c :: cs =>
    if c = '\\' then
      match cs with
      | [] => []
      | e :: cs => escape e :: ofText cs
    else plain c :: ofText cs

/-- What is read where these units stand between two quotes. -/
def lexeme (units : List EscapeUnit) : Lexeme :=
  match units.find? (·.meaning?.isNone) with
  | none => .token .literal (String.ofList (units.filterMap meaning?))
  | some unknown => .problem (.unknownEscape (String.singleton unknown.char))

/-! ### Units and the body of a literal -/

theorem lookup_escapes (c : Char) : escapes.lookup c = Literal.escaped? c := by
  unfold Literal.escaped?
  split
  case h_7 n t r backslash double single =>
    simp only [escapes, List.lookup_cons, List.lookup_nil, beq_eq_false_iff_ne.2 n,
      beq_eq_false_iff_ne.2 t, beq_eq_false_iff_ne.2 r, beq_eq_false_iff_ne.2 backslash,
      beq_eq_false_iff_ne.2 double, beq_eq_false_iff_ne.2 single]
  all_goals rfl

/-- The body that units make up, one of them put before the others at a time. -/
def body : List EscapeUnit → Literal.Body
  | [] => .text []
  | plain c :: units => (body units).plain c
  | escape c :: units => (body units).escape c

theorem body_eq (units : List EscapeUnit) :
    body units =
      match units.find? (·.meaning?.isNone) with
      | none => .text (units.filterMap meaning?)
      | some unknown => .unknownEscape unknown.char := by
  induction units with
  | nil => rfl
  | cons unit units ih =>
      cases unit with
      | plain c =>
          have known : (plain c).meaning? = some c := rfl
          rw [body, ih, List.find?_cons_of_neg (by simp [known]), List.filterMap_cons_some known]
          cases units.find? (·.meaning?.isNone) <;> rfl
      | escape c =>
          rw [body, ih, Literal.Body.escape, ← lookup_escapes]
          cases known : (escape c).meaning? with
          | none =>
              have unknown : escapes.lookup c = none := known
              rw [unknown, List.find?_cons_of_pos (by simp [known])]
              rfl
          | some meant =>
              have same : escapes.lookup c = some meant := known
              rw [same, List.find?_cons_of_neg (by simp [known]),
                List.filterMap_cons_some known]
              cases units.find? (·.meaning?.isNone) <;> rfl

/-- The first unit that is the quote itself closes the literal. -/
theorem close?_of_ofText {quote : Char} (notBackslash : quote ≠ '\\') {cs : List Char}
    {before after : List EscapeUnit} (units : ofText cs = before ++ plain quote :: after)
    (first : plain quote ∉ before) :
    ∃ rest, cs = before.flatMap chars ++ quote :: rest ∧
      Literal.close? quote cs = some ⟨body before, before.flatMap chars ++ [quote], rest⟩ := by
  fun_induction ofText cs generalizing before with
  | case1 => simp at units
  | case2 => simp at units
  | case3 e cs ih =>
      cases before with
      | nil => cases units
      | cons unit before =>
          obtain ⟨rfl, more⟩ := List.cons.inj units
          obtain ⟨rest, rfl, closed⟩ := ih more (List.not_mem_of_not_mem_cons first)
          refine ⟨rest, rfl, ?_⟩
          rw [Literal.close?.eq_def]
          simp only [if_neg notBackslash.symm, closed]
          rfl
  | case4 c cs other ih =>
      cases before with
      | nil =>
          obtain ⟨same, _⟩ := List.cons.inj units
          obtain rfl := EscapeUnit.plain.inj same
          refine ⟨cs, rfl, ?_⟩
          rw [Literal.close?.eq_def]
          exact if_pos rfl
      | cons unit before =>
          obtain ⟨rfl, more⟩ := List.cons.inj units
          obtain ⟨rest, rfl, closed⟩ := ih more (List.not_mem_of_not_mem_cons first)
          have notQuote : c ≠ quote := by
            rintro rfl
            exact first List.mem_cons_self
          refine ⟨rest, rfl, ?_⟩
          rw [Literal.close?.eq_def]
          simp only [if_neg notQuote, if_neg other, closed]
          rfl

/-- Without such a unit nothing closes it. -/
theorem close?_eq_none_of_ofText {quote : Char} (notBackslash : quote ≠ '\\') {cs : List Char}
    (absent : plain quote ∉ ofText cs) : Literal.close? quote cs = none := by
  fun_induction ofText cs with
  | case1 => rfl
  | case2 =>
      rw [Literal.close?.eq_def]
      simp [notBackslash.symm]
  | case3 e cs ih =>
      rw [Literal.close?.eq_def]
      simp [notBackslash.symm, ih (List.not_mem_of_not_mem_cons absent)]
  | case4 c cs other ih =>
      have notQuote : c ≠ quote := by
        rintro rfl
        exact absent List.mem_cons_self
      rw [Literal.close?.eq_def]
      simp [notQuote, other, ih (List.not_mem_of_not_mem_cons absent)]

end EscapeUnit

namespace Reading

theorem literal_of_ofText {quote : Char} (notBackslash : quote ≠ '\\') {cs : List Char}
    {before after : List EscapeUnit}
    (units : EscapeUnit.ofText cs = before ++ .plain quote :: after)
    (first : .plain quote ∉ before) :
    ∃ rest, cs = before.flatMap EscapeUnit.chars ++ quote :: rest ∧
      literal quote cs =
        ⟨EscapeUnit.lexeme before, quote :: (before.flatMap EscapeUnit.chars ++ [quote]),
          rest⟩ := by
  obtain ⟨rest, text, closed⟩ := EscapeUnit.close?_of_ofText notBackslash units first
  refine ⟨rest, text, ?_⟩
  rw [EscapeUnit.body_eq] at closed
  rw [literal, closed, EscapeUnit.lexeme]
  cases before.find? (·.meaning?.isNone) <;> rfl

end Reading

/-- Where a literal starts, its first unit that is the quote ends it: its value is what the units
before it mean, or else the first of them without a meaning is the problem. Where no unit is the
quote, the literal is unfinished and takes the rest of the source. -/
theorem literal_read_by_units {cursor : Cursor} {quote : Char} {cs : List Char}
    (starts : cursor.skipBlanks.rest = quote :: cs) (quoted : Literal.isQuote quote = true) :
    let start := cursor.skipBlanks.position
    let location := start.within cursor.file
    let units := EscapeUnit.ofText cs
    (∀ before after, units = before ++ .plain quote :: after → .plain quote ∉ before →
      let written := before.flatMap EscapeUnit.chars
      ∃ rest, cs = written ++ quote :: rest ∧
        cursor.next? =
          some ((EscapeUnit.lexeme before).at location,
            ⟨cursor.file, start.after (quote :: (written ++ [quote])), rest⟩)) ∧
      (.plain quote ∉ units →
        cursor.next? =
          some (.fault ⟨.unfinishedLiteral (String.singleton quote), some location⟩,
            ⟨cursor.file, start.after (quote :: cs), []⟩)) := by
  intro start location units
  have notBackslash := Literal.ne_backslash_of_isQuote quoted
  have next : cursor.next? =
      some ((Reading.literal quote cs).lexeme.at location,
        ⟨cursor.file, start.after (Reading.literal quote cs).span,
          (Reading.literal quote cs).rest⟩) := by
    rw [← Reading.ofText_of_isQuote quoted, Cursor.next?, starts]
  constructor
  · intro before after split first written
    obtain ⟨rest, text, read⟩ := Reading.literal_of_ofText notBackslash split first
    refine ⟨rest, text, ?_⟩
    rw [next, read]
  · intro absent
    rw [next, Reading.literal, EscapeUnit.close?_eq_none_of_ofText notBackslash absent]
    rfl

/-- The text ` 'a\q\'\z' b`: the quote behind the second backslash is part of an escape, and the
first unknown escape is the problem. -/
theorem literal_read_past_escaped_quote :
    let cursor := Cursor.start "sample" " 'a\\q\\'\\z' b"
    let cs := ['a', '\\', 'q', '\\', '\'', '\\', 'z', '\'', ' ', 'b']
    cursor.skipBlanks.rest = '\'' :: cs ∧ Literal.isQuote '\'' = true ∧
      cursor.next? =
        some (.fault ⟨.unknownEscape "q", some ⟨"sample", 1, 2⟩⟩,
          ⟨"sample", ⟨1, 11⟩, [' ', 'b']⟩) := by
  intro cursor cs
  have starts : cursor.skipBlanks.rest = '\'' :: cs := by decide
  have units : EscapeUnit.ofText cs =
      [.plain 'a', .escape 'q', .escape '\'', .escape 'z'] ++
        .plain '\'' :: [.plain ' ', .plain 'b'] := by decide
  obtain ⟨closed, _⟩ := literal_read_by_units starts rfl
  obtain ⟨rest, text, next⟩ := closed _ _ units (by decide)
  obtain rfl : [' ', 'b'] = rest := by simpa [cs, EscapeUnit.chars] using text
  exact ⟨starts, rfl, next⟩

end StateDescription
