import Mathlib.Algebra.Group.Nat.Defs
import Mathlib.Data.List.Basic
import StateDescription.Json
import StateDescription.Proofs.Spellings

/-!
The text of JSON values. Every part of a text shows where it ends, so no two values have the same
text, be it on one line or on many.
-/

namespace StateDescription

/-! ### Numbers -/

namespace Hexadecimal

theorem digitChar_injOn :
    ∀ m < 16, ∀ n < 16, Nat.digitChar m = Nat.digitChar n → m = n := by
  decide

theorem fixed_injOn {width m n : Nat} (small : m < 16 ^ width) (smallToo : n < 16 ^ width)
    (same : fixed width m = fixed width n) : m = n := by
  induction width generalizing m n with
  | zero => omega
  | succ width ih =>
      obtain ⟨high, low⟩ := List.append_inj' same rfl
      have quotients : m / 16 = n / 16 := by
        apply ih _ _ high
        · rw [Nat.pow_succ] at small
          omega
        · rw [Nat.pow_succ] at smallToo
          omega
      have remainders : m % 16 = n % 16 := by
        apply digitChar_injOn _ (Nat.mod_lt m (by decide)) _ (Nat.mod_lt n (by decide))
        exact (List.cons.inj low).1
      omega

end Hexadecimal

namespace Json

/-- What is left is empty or starts with something that goes on with no number. -/
def EndsNumber (rest : List Char) : Prop :=
  ∀ c ∈ rest.head?, c.isDigit = false

theorem digits_append_inj {m n : Nat} {rest others : List Char} (ends : EndsNumber rest)
    (endsToo : EndsNumber others)
    (same : Decimal.digits m ++ rest = Decimal.digits n ++ others) : m = n ∧ rest = others := by
  have taken {k : Nat} {behind : List Char} (ends : EndsNumber behind) :
      (Decimal.digits k ++ behind).takeWhile Char.isDigit = Decimal.digits k := by
    have all : ∀ c ∈ Decimal.digits k, c.isDigit = true :=
      fun c member => Nat.isDigit_of_mem_toDigits (by decide) (by decide) member
    rw [List.takeWhile_append_of_pos all]
    cases behind with
    | nil => rw [List.takeWhile_nil, List.append_nil]
    | cons c behind => rw [List.takeWhile_cons_of_neg (by simp [ends c rfl]), List.append_nil]
  have digits := congrArg (List.takeWhile Char.isDigit) same
  rw [taken ends, taken endsToo] at digits
  rw [digits] at same
  exact ⟨Decimal.digits_injective digits, List.append_cancel_left same⟩

theorem exists_first_digit (n : Nat) :
    ∃ c digits, Decimal.digits n = c :: digits ∧ c.isDigit = true := by
  have nonempty : Decimal.digits n ≠ [] := Nat.toDigits_ne_nil
  obtain ⟨c, digits, shape⟩ := List.exists_cons_of_ne_nil nonempty
  refine ⟨c, digits, shape, ?_⟩
  exact Nat.isDigit_of_mem_toDigits (by decide) (by decide) (shape ▸ List.mem_cons_self)

/-- A minus sign is no digit, so it tells the two kinds of integers apart. -/
theorem digits_append_ne {m : Nat} {rest others : List Char} :
    Decimal.digits m ++ rest ≠ '-' :: others := by
  intro same
  obtain ⟨c, digits, shape, digit⟩ := exists_first_digit m
  rw [shape] at same
  obtain rfl := (List.cons.inj same).1
  exact absurd digit (by decide)

theorem signed_append_inj {m n : Int} {rest others : List Char} (ends : EndsNumber rest)
    (endsToo : EndsNumber others)
    (same : Decimal.signed m ++ rest = Decimal.signed n ++ others) : m = n ∧ rest = others := by
  cases m with
  | ofNat m =>
      cases n with
      | ofNat n =>
          obtain ⟨rfl, rest⟩ := digits_append_inj ends endsToo same
          exact ⟨rfl, rest⟩
      | negSucc n => exact absurd same digits_append_ne
  | negSucc m =>
      cases n with
      | ofNat n => exact absurd same.symm digits_append_ne
      | negSucc n =>
          obtain ⟨equal, rest⟩ := digits_append_inj ends endsToo (List.cons.inj same).2
          obtain rfl := Nat.succ.inj equal
          exact ⟨rfl, rest⟩

/-! ### Strings -/

theorem unit_append_inj {m n : Nat} {rest others : List Char} (small : m < 0x10000)
    (smallToo : n < 0x10000) (same : unit m ++ rest = unit n ++ others) :
    m = n ∧ rest = others := by
  obtain ⟨units, rest⟩ := List.append_inj same (by simp [unit])
  have digits : Hexadecimal.fixed 4 m = Hexadecimal.fixed 4 n := by
    simpa [unit] using units
  exact ⟨Hexadecimal.fixed_injOn small smallToo digits, rest⟩

theorem toNat_valid (c : Char) : c.toNat < 0xd800 ∨ 0xdfff < c.toNat ∧ c.toNat < 0x110000 :=
  c.valid

/-- No character has the number of the first unit of a pair. -/
theorem numbered_append_inj {c d : Char} {rest others : List Char}
    (same : numbered c ++ rest = numbered d ++ others) : c = d ∧ rest = others := by
  have valid := toNat_valid c
  have validToo := toNat_valid d
  unfold numbered at same
  split at same
  · rename_i small
    split at same
    · rename_i smallToo
      obtain ⟨equal, rest⟩ := unit_append_inj small smallToo same
      exact ⟨Char.toNat_inj.1 equal, rest⟩
    · rename_i large
      rw [List.append_assoc] at same
      obtain ⟨equal, _⟩ := unit_append_inj small (by omega) same
      omega
  · rename_i large
    rw [List.append_assoc] at same
    split at same
    · rename_i small
      obtain ⟨equal, _⟩ := unit_append_inj (by omega) small same
      omega
    · rename_i largeToo
      rw [List.append_assoc] at same
      obtain ⟨high, same⟩ := unit_append_inj (by omega) (by omega) same
      obtain ⟨low, rest⟩ := unit_append_inj (by omega) (by omega) same
      exact ⟨Char.toNat_inj.1 (by omega), rest⟩

/-- The character that a letter behind a backslash stands for, when it takes no number. -/
def short? : Char → Option Char
  | '"' => some '"'
  | '\\' => some '\\'
  | 'n' => some '\n'
  | 'r' => some '\r'
  | 't' => some '\t'
  | 'b' => some '\x08'
  | 'f' => some '\x0c'
  | _ => none

/-- Reads a character of a string, unless it is given by its number. -/
def read? : List Char → Option (Char × List Char)
  | '\\' :: letter :: rest => (short? letter).map (·, rest)
  | c :: rest => some (c, rest)
  | [] => none

theorem read?_numbered (c : Char) (rest : List Char) : read? (numbered c ++ rest) = none := by
  unfold numbered
  split <;> rfl

theorem read?_spelled (c : Char) (rest : List Char) :
    spelled c = numbered c ∨ read? (spelled c ++ rest) = some (c, rest) := by
  unfold spelled
  by_cases symbol : c = '"' ∨ c = '\\'
  · right
    rw [if_pos symbol]
    rcases symbol with rfl | rfl <;> rfl
  · rw [if_neg symbol]
    iterate 5
      split
      · rename_i equal
        exact .inr (equal ▸ rfl)
    split
    · right
      rw [not_or] at symbol
      rw [List.singleton_append, read?]
      rintro letter behind backslash
      exact absurd backslash symbol.2
    · exact .inl rfl

/-- The text of a character never starts as the end of a string. -/
theorem spelled_append_ne (c : Char) {rest others : List Char} :
    spelled c ++ rest ≠ '"' :: others := by
  intro same
  rcases read?_spelled c rest with number | short
  · rw [number, numbered] at same
    split at same <;> cases same
  · rw [same] at short
    cases short
    cases same

theorem legible_spelled : Legible spelled '"' where
  shows := fun _ _ _ _ => append_inj_of_read read?_spelled read?_numbered fun _ _ _ _ =>
    numbered_append_inj
  inside := fun c _ _ => spelled_append_ne c

theorem stringText_append_inj {text other : String} {rest others : List Char}
    (same : stringText text ++ rest = stringText other ++ others) :
    text = other ∧ rest = others := by
  simp only [stringText, List.cons_append, List.append_assoc, List.nil_append,
    List.cons.injEq, true_and] at same
  obtain ⟨equal, rest⟩ := legible_spelled.flatMap_append_inj same
  exact ⟨String.toList_inj.1 equal, rest⟩

/-! ### Elements between brackets -/

/-- The text of this value shows where it ends, unless a number goes on behind it. -/
def ShowsEnd {α : Type} (write : α → List Char) (a : α) : Prop :=
  ∀ ⦃b : α⦄ ⦃rest others : List Char⦄, EndsNumber rest → EndsNumber others →
    write a ++ rest = write b ++ others → a = b ∧ rest = others

/-- A closing bracket is neither a separator nor a part of a number. -/
def IsClosing (c : Char) : Prop :=
  c = ']' ∨ c = '}'

namespace Layout

variable {layout : Layout} {depth : Nat} {closing : Char} {rest others : List Char}

theorem intercalate_cons_eq {α : Type} (separator element : List α) (later : List (List α)) :
    separator.intercalate (element :: later) = element ++ later.flatMap (separator ++ ·) := by
  induction later generalizing element with
  | nil => simp
  | cons next later ih =>
      rw [List.intercalate_cons_cons, ih, List.flatMap_cons]
      simp only [List.append_assoc]

theorem enclosed_cons_append (layout : Layout) (depth : Nat) (opening closing : Char)
    (element : List Char) (later : List (List Char)) (rest : List Char) :
    layout.enclosed depth opening closing (element :: later) ++ rest =
      opening :: (layout.lineBreak (depth + 1) ++ (element ++
        (later.flatMap (layout.separator (depth + 1) ++ ·) ++
          (layout.lineBreak depth ++ closing :: rest)))) := by
  rw [enclosed, List.isEmpty_cons, if_neg Bool.false_ne_true, intercalate_cons_eq]
  simp only [List.append_assoc, List.cons_append, List.nil_append]

theorem separator_append_ne (closes : IsClosing closing) (level : Nat) {cs : List Char} :
    layout.separator level ++ cs ≠ layout.lineBreak depth ++ closing :: rest := by
  intro same
  cases layout with
  | oneLine => rcases closes with rfl | rfl <;> cases same
  | indented width => cases same

theorem endsNumber_tail (closes : IsClosing closing) (level : Nat) (later : List (List Char)) :
    EndsNumber (later.flatMap (layout.separator level ++ ·) ++
      (layout.lineBreak depth ++ closing :: rest)) := by
  intro c head
  cases later with
  | nil =>
      cases layout with
      | oneLine =>
          cases head
          rcases closes with rfl | rfl <;> decide
      | indented width =>
          cases head
          decide
  | cons element later =>
      cases layout with
      | oneLine =>
          cases head
          decide
      | indented width =>
          cases head
          decide

section Elements

variable {α : Type} {write : α → List Char} {first second : List α}

theorem tail_append_inj (closes : IsClosing closing) (level : Nat)
    (ends : ∀ a ∈ first, ShowsEnd write a)
    (same : (first.map write).flatMap (layout.separator level ++ ·) ++
        (layout.lineBreak depth ++ closing :: rest) =
      (second.map write).flatMap (layout.separator level ++ ·) ++
        (layout.lineBreak depth ++ closing :: others)) :
    first = second ∧ rest = others := by
  induction first generalizing second with
  | nil =>
      cases second with
      | nil =>
          rw [List.map_nil, List.flatMap_nil, List.nil_append, List.nil_append,
            List.append_cancel_left_eq, List.cons.injEq] at same
          exact ⟨rfl, same.2⟩
      | cons b second =>
          rw [List.map_cons, List.flatMap_cons, List.append_assoc, List.append_assoc] at same
          exact absurd same.symm (separator_append_ne closes level)
  | cons a first ih =>
      obtain ⟨own, later⟩ := List.forall_mem_cons.1 ends
      rw [List.map_cons, List.flatMap_cons, List.append_assoc, List.append_assoc] at same
      cases second with
      | nil => exact absurd same (separator_append_ne closes level)
      | cons b second =>
          rw [List.map_cons, List.flatMap_cons, List.append_assoc, List.append_assoc,
            List.append_cancel_left_eq] at same
          obtain ⟨rfl, tails⟩ := own (endsNumber_tail closes level _)
            (endsNumber_tail closes level _) same
          obtain ⟨rfl, rest⟩ := ih later tails
          exact ⟨rfl, rest⟩

/-- No element starts with the closing bracket, so the empty list is told apart too. -/
theorem enclosed_append_inj {opening : Char} (closes : IsClosing closing)
    (ends : ∀ a ∈ first, ShowsEnd write a)
    (starts : ∀ a (cs ds : List Char), write a ++ cs ≠ closing :: ds)
    (same : layout.enclosed depth opening closing (first.map write) ++ rest =
      layout.enclosed depth opening closing (second.map write) ++ others) :
    first = second ∧ rest = others := by
  have apart (a : α) {cs ds : List Char} :
      layout.lineBreak (depth + 1) ++ (write a ++ cs) ≠ closing :: ds := by
    cases layout with
    | oneLine => exact starts a cs ds
    | indented width =>
        intro same
        rcases closes with rfl | rfl <;> cases same
  cases first with
  | nil =>
      cases second with
      | nil => exact ⟨rfl, List.append_cancel_left same⟩
      | cons b second =>
          rw [List.map_cons, enclosed_cons_append] at same
          exact absurd (List.cons.inj same).2.symm (apart b)
  | cons a first =>
      obtain ⟨own, later⟩ := List.forall_mem_cons.1 ends
      rw [List.map_cons, enclosed_cons_append] at same
      cases second with
      | nil => exact absurd (List.cons.inj same).2 (apart a)
      | cons b second =>
          rw [List.map_cons, enclosed_cons_append, List.cons.injEq,
            List.append_cancel_left_eq] at same
          obtain ⟨rfl, tails⟩ := own (endsNumber_tail closes _ _) (endsNumber_tail closes _ _)
            same.2
          obtain ⟨rfl, rest⟩ := tail_append_inj closes _ later tails
          exact ⟨rfl, rest⟩

end Elements

end Layout

/-! ### Values -/

theorem induct {motive : Json → Prop} (null : motive null)
    (integer : ∀ n, motive (integer n)) (string : ∀ text, motive (string text))
    (array : ∀ elements, (∀ element ∈ elements, motive element) → motive (array elements))
    (object : ∀ members, (∀ member ∈ members, motive member.2) → motive (object members))
    (json : Json) : motive json :=
  @Json.rec motive (fun elements => ∀ element ∈ elements, motive element)
    (fun members => ∀ member ∈ members, motive member.2) (fun member => motive member.2)
    null integer string array object
    (fun _ none => absurd none List.not_mem_nil)
    (fun _ _ first later => List.forall_mem_cons.2 ⟨first, later⟩)
    (fun _ none => absurd none List.not_mem_nil)
    (fun _ _ first later => List.forall_mem_cons.2 ⟨first, later⟩)
    (fun _ _ value => value) json

/-- The text of a member, its name and its value. -/
def memberText (layout : Layout) (depth : Nat) (member : String × Json) : List Char :=
  stringText member.1 ++ ':' :: ' ' :: chars layout depth member.2

theorem elementChars_eq (layout : Layout) (depth : Nat) (elements : List Json) :
    elementChars layout depth elements = elements.map (chars layout depth) := by
  induction elements with
  | nil => rw [elementChars, List.map_nil]
  | cons element later ih => rw [elementChars, List.map_cons, ih]

theorem memberChars_eq (layout : Layout) (depth : Nat) (members : List (String × Json)) :
    memberChars layout depth members = members.map (memberText layout depth) := by
  induction members with
  | nil => rw [memberChars, List.map_nil]
  | cons member later ih =>
      obtain ⟨name, value⟩ := member
      rw [memberChars, List.map_cons, ih, memberText]

/-- The kinds of values, which the first characters of their texts tell apart. -/
inductive Shape
  | null
  | integer
  | string
  | array
  | object
  deriving DecidableEq

def shape : Json → Shape
  | null => .null
  | integer _ => .integer
  | string _ => .string
  | array _ => .array
  | object _ => .object

def Shape.ofHead : Char → Shape
  | 'n' => .null
  | '"' => .string
  | '[' => .array
  | '{' => .object
  | _ => .integer

theorem exists_head_enclosed (layout : Layout) (depth : Nat) (opening closing : Char)
    (elements : List (List Char)) :
    ∃ cs, layout.enclosed depth opening closing elements = opening :: cs := by
  unfold Layout.enclosed
  split
  · exact ⟨_, rfl⟩
  · exact ⟨_, rfl⟩

theorem ofHead_of_isDigit {c : Char} (digit : c.isDigit = true) :
    Shape.ofHead c = .integer ∧ ¬IsClosing c := by
  constructor
  · unfold Shape.ofHead
    split <;> first | rfl | exact absurd digit (by decide)
  · rintro (rfl | rfl) <;> exact absurd digit (by decide)

theorem exists_head (layout : Layout) (depth : Nat) (json : Json) :
    ∃ c cs, json.chars layout depth = c :: cs ∧ Shape.ofHead c = json.shape ∧
      ¬IsClosing c := by
  cases json with
  | null => exact ⟨'n', _, by rw [chars], rfl, by rintro (same | same) <;> cases same⟩
  | integer n =>
      rw [chars]
      cases n with
      | ofNat n =>
          obtain ⟨c, digits, shape, digit⟩ := exists_first_digit n
          exact ⟨c, digits, shape, ofHead_of_isDigit digit⟩
      | negSucc n => exact ⟨'-', _, rfl, rfl, by rintro (same | same) <;> cases same⟩
  | string text => exact ⟨'"', _, by rw [chars]; rfl, rfl, by rintro (same | same) <;> cases same⟩
  | array elements =>
      obtain ⟨cs, head⟩ := exists_head_enclosed layout depth '[' ']'
        (elementChars layout (depth + 1) elements)
      exact ⟨'[', cs, by rw [chars, head], rfl, by rintro (same | same) <;> cases same⟩
  | object members =>
      obtain ⟨cs, head⟩ := exists_head_enclosed layout depth '{' '}'
        (memberChars layout (depth + 1) members)
      exact ⟨'{', cs, by rw [chars, head], rfl, by rintro (same | same) <;> cases same⟩

theorem shape_eq {layout : Layout} {depth : Nat} {first second : Json} {rest others : List Char}
    (same : first.chars layout depth ++ rest = second.chars layout depth ++ others) :
    first.shape = second.shape := by
  obtain ⟨c, cs, text, shape, _⟩ := exists_head layout depth first
  obtain ⟨d, ds, other, shapeToo, _⟩ := exists_head layout depth second
  rw [text, other] at same
  rw [← shape, ← shapeToo, (List.cons.inj same).1]

theorem chars_append_ne {layout : Layout} {depth : Nat} {closing : Char}
    (closes : IsClosing closing) (json : Json) (cs ds : List Char) :
    json.chars layout depth ++ cs ≠ closing :: ds := by
  obtain ⟨c, text, head, _, open_⟩ := exists_head layout depth json
  intro same
  rw [head] at same
  exact open_ ((List.cons.inj same).1 ▸ closes)

theorem showsEnd_memberText {layout : Layout} {depth : Nat} {member : String × Json}
    (value : ShowsEnd (chars layout depth) member.2) :
    ShowsEnd (memberText layout depth) member := by
  intro other rest others ends endsToo same
  rw [memberText, memberText, List.append_assoc, List.append_assoc] at same
  obtain ⟨name, same⟩ := stringText_append_inj same
  simp only [List.cons_append, List.cons.injEq, true_and] at same
  obtain ⟨equal, rest⟩ := value ends endsToo same
  exact ⟨Prod.ext name equal, rest⟩

/-- The text of a value shows which value it is, and where it ends. -/
theorem showsEnd_chars (layout : Layout) (depth : Nat) (json : Json) :
    ShowsEnd (chars layout depth) json := by
  induction json using induct generalizing depth with
  | null =>
      intro other rest others _ _ same
      have shapes := shape_eq same
      cases other with
      | null => exact ⟨rfl, List.append_cancel_left same⟩
      | _ => cases shapes
  | integer n =>
      intro other rest others ends endsToo same
      have shapes := shape_eq same
      cases other with
      | integer m =>
          rw [chars, chars] at same
          obtain ⟨rfl, rest⟩ := signed_append_inj ends endsToo same
          exact ⟨rfl, rest⟩
      | _ => cases shapes
  | string text =>
      intro other rest others _ _ same
      have shapes := shape_eq same
      cases other with
      | string text =>
          rw [chars, chars] at same
          obtain ⟨rfl, rest⟩ := stringText_append_inj same
          exact ⟨rfl, rest⟩
      | _ => cases shapes
  | array elements ih =>
      intro other rest others _ _ same
      have shapes := shape_eq same
      cases other with
      | array others =>
          rw [chars, chars, elementChars_eq, elementChars_eq] at same
          obtain ⟨rfl, rest⟩ := Layout.enclosed_append_inj (.inl rfl)
            (fun element member => ih element member (depth + 1)) (chars_append_ne (.inl rfl)) same
          exact ⟨rfl, rest⟩
      | _ => cases shapes
  | object members ih =>
      intro other rest others _ _ same
      have shapes := shape_eq same
      cases other with
      | object others =>
          rw [chars, chars, memberChars_eq, memberChars_eq] at same
          obtain ⟨rfl, rest⟩ := Layout.enclosed_append_inj (.inr rfl)
            (fun entry member => showsEnd_memberText (ih entry member (depth + 1)))
            (fun entry cs ds same => by rw [memberText, stringText] at same; cases same) same
          exact ⟨rfl, rest⟩
      | _ => cases shapes

/-- No two values have one text. -/
theorem text_injective (layout : Layout) : Function.Injective (text layout) := by
  intro first second same
  have chars : first.chars layout 0 ++ [] = second.chars layout 0 ++ [] := by
    rw [List.append_nil, List.append_nil]
    exact String.ofList_inj.1 same
  have nothing : EndsNumber [] := by
    rintro c ⟨⟩
  exact (showsEnd_chars layout 0 first nothing nothing chars).1

end Json

end StateDescription
