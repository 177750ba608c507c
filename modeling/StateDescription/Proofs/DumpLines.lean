import StateDescription.Proofs.ControlCharacters
import StateDescription.Proofs.QuotedText
import StateDescription.Proofs.ReportLines
import StateDescription.Proofs.ScannedNames

/-!
Dump lines of tokens. The last tab of a line parts the place of the token, which names a file of
any name, from what the token shows: its value under a label, or its symbol. Either tells the token.
-/

namespace StateDescription

/-! ### Labels and symbols -/

namespace TokenType

variable {type other : TokenType} {label value : String}

def labels : List String :=
  ["COMMENT", "ID", "LITT"]

theorem mem_labels_of_label? (labelled : type.label? = some label) : label ∈ labels := by
  unfold label? at labelled
  split at labelled <;> cases labelled <;> decide

theorem label?_injective (labelled : type.label? = some label)
    (labelledToo : other.label? = some label) : type = other := by
  unfold label? at labelled labelledToo
  split at labelled <;> cases labelled <;> split at labelledToo <;>
    first | rfl | exact absurd labelledToo (by decide)

theorem exists_symbol (bare : type.label? = none) (admits : type.Admits value) :
    ∃ c, ofPunctuation? c = some type ∧ value = String.singleton c := by
  cases type <;> first | exact admits | cases bare

theorem not_isControl_of_ofPunctuation? {c : Char} (known : ofPunctuation? c = some type) :
    isControl c = false := by
  unfold ofPunctuation? at known
  split at known <;> cases known <;> rfl

end TokenType

/-! ### What a token shows -/

namespace Token

/-- The part of a dump line behind the place. -/
def shown (token : Token) : String :=
  match token.type.label? with
  | some label => label ++ "[" ++ quoted token.value ++ "]"
  | none => " " ++ token.value

theorem dump_eq (token : Token) : token.dump = token.location.lead ++ token.shown := by
  cases labelled : token.type.label? with
  | none => rw [dump, shown, labelled, String.append_assoc]
  | some label =>
      rw [dump, shown, labelled]
      simp only [String.append_assoc]

theorem toList_shown_of_label? {token : Token} {label : String}
    (labelled : token.type.label? = some label) :
    token.shown.toList = label.toList ++ '[' :: ((quoted token.value).toList ++ [']']) := by
  rw [shown, labelled]
  simp

theorem toList_shown_of_bare {token : Token} (bare : token.type.label? = none) :
    token.shown.toList = ' ' :: token.value.toList := by
  rw [shown, bare]
  simp

theorem any_isControl_shown {token : Token} (admits : token.type.Admits token.value) :
    token.shown.toList.any isControl = false := by
  cases labelled : token.type.label? with
  | none =>
      obtain ⟨c, known, value⟩ := TokenType.exists_symbol labelled admits
      rw [toList_shown_of_bare labelled, value, String.toList_singleton, List.any_cons,
        List.any_cons, TokenType.not_isControl_of_ofPunctuation? known]
      rfl
  | some label =>
      have plain : ∀ label ∈ TokenType.labels, label.toList.any isControl = false := by decide
      rw [toList_shown_of_label? labelled, List.any_append, List.any_cons, List.any_append,
        plain label (TokenType.mem_labels_of_label? labelled), any_isControl_quoted]
      rfl

/-- A label starts with no blank and holds no bracket, so it can be told from the value. -/
theorem shown_inj {first second : Token} (admits : first.type.Admits first.value)
    (admitsToo : second.type.Admits second.value) (same : first.shown = second.shown) :
    first.type = second.type ∧ first.value = second.value := by
  have texts := congrArg String.toList same
  have blankless : ∀ label ∈ TokenType.labels, ∀ cs ds : List Char,
      label.toList ++ cs ≠ ' ' :: ds := by
    simp [TokenType.labels]
  have bracketless : ∀ label ∈ TokenType.labels, '[' ∉ label.toList := by decide
  cases labelled : first.type.label? with
  | none =>
      rw [toList_shown_of_bare labelled] at texts
      cases labelledToo : second.type.label? with
      | none =>
          rw [toList_shown_of_bare labelledToo] at texts
          have values := String.toList_inj.1 (List.cons.inj texts).2
          obtain ⟨c, known, value⟩ := TokenType.exists_symbol labelled admits
          obtain ⟨d, knownToo, valueToo⟩ := TokenType.exists_symbol labelledToo admitsToo
          rw [value, valueToo, String.singleton_inj] at values
          rw [values, knownToo] at known
          exact ⟨(Option.some.inj known).symm, by rw [value, valueToo, values]⟩
      | some label =>
          rw [toList_shown_of_label? labelledToo] at texts
          exact absurd texts.symm
            (blankless label (TokenType.mem_labels_of_label? labelledToo) _ _)
  | some label =>
      have member := TokenType.mem_labels_of_label? labelled
      rw [toList_shown_of_label? labelled] at texts
      cases labelledToo : second.type.label? with
      | none =>
          rw [toList_shown_of_bare labelledToo] at texts
          exact absurd texts (blankless label member _ _)
      | some other =>
          have memberToo := TokenType.mem_labels_of_label? labelledToo
          rw [toList_shown_of_label? labelledToo] at texts
          obtain ⟨labels, values⟩ :=
            append_cons_inj_first (bracketless label member) (bracketless other memberToo) texts
          rw [← String.toList_inj.1 labels] at labelledToo
          refine ⟨TokenType.label?_injective labelled labelledToo, ?_⟩
          exact quoted_injective (String.toList_inj.1 (List.append_cancel_right values))

/-- What a token shows holds no tab, so the last tab of the line ends the place. -/
theorem dump_inj {first second : Token} (admits : first.type.Admits first.value)
    (admitsToo : second.type.Admits second.value) (same : first.dump = second.dump) :
    first = second := by
  have parts (token : Token) : token.dump.toList =
      (token.location.text ++ " -->").toList ++ '\t' :: token.shown.toList := by
    rw [dump_eq, Location.lead]
    simp
  have texts := congrArg String.toList same
  rw [parts, parts] at texts
  obtain ⟨places, shown⟩ := append_cons_inj_last
    (not_mem_of_isControl rfl (any_isControl_shown admits))
    (not_mem_of_isControl rfl (any_isControl_shown admitsToo)) texts
  have location := Location.text_injective
    ((String.append_left_inj _).1 (String.toList_inj.1 places))
  obtain ⟨type, value⟩ := shown_inj admits admitsToo (String.toList_inj.1 shown)
  cases first
  cases second
  cases location
  cases type
  cases value
  rfl

end Token

/-- Tokens of whatever sources and files have one dump line just when they are the same token, and
the line breaks just where the name of the file does. -/
theorem dump_lines {file source otherFile other : String} {token like : Token}
    (read : .token token ∈ scan file source) (readToo : .token like ∈ scan otherFile other) :
    (token.dump = like.dump ↔ token = like) ∧
      ('\n' ∈ token.dump.toList ↔ '\n' ∈ file.toList) := by
  have admits := admits_of_mem_scan read
  constructor
  · constructor
    · exact Token.dump_inj admits (admits_of_mem_scan readToo)
    · exact congrArg Token.dump
  · have shown : '\n' ∉ token.shown.toList :=
      not_mem_of_isControl rfl (Token.any_isControl_shown admits)
    rw [token.dump_eq, String.toList_append, List.mem_append, or_iff_left shown,
      Location.mem_lead_iff rfl (by decide), (token_of_mem_scan read).1]

/-- The second file bears the dump line of the first token as its name. -/
theorem dump_lines_of_lookalike :
    let name : Token := ⟨.identifier, "x", ⟨"a", 1, 1⟩⟩
    let literal : Token := ⟨.literal, "x", ⟨"a:001:001 -->\tID['x']", 1, 1⟩⟩
    .token name ∈ scan "a" "x" ∧ .token literal ∈ scan "a:001:001 -->\tID['x']" "'x'" ∧
      name.dump = "a:001:001 -->\tID['x']" ∧ name.dump ≠ literal.dump ∧
      '\n' ∉ literal.dump.toList := by
  intro name literal
  have read : .token name ∈ scan "a" "x" := by decide +kernel
  have readToo : .token literal ∈ scan "a:001:001 -->\tID['x']" "'x'" := by decide +kernel
  have differs : name.dump ≠ literal.dump := mt (dump_lines read readToo).1.1 (by decide)
  have oneLine : '\n' ∉ literal.dump.toList := mt (dump_lines readToo read).2.1 (by decide)
  exact ⟨read, readToo, by decide +kernel, differs, oneLine⟩

end StateDescription
