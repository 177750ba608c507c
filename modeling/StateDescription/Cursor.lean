import StateDescription.Reading

/-!
Scanning with a cursor: a place in a source from which items are taken one after another.
Whoever goes on with a cursor goes on where the last item ended.
-/

namespace StateDescription

def isBlank (c : Char) : Bool :=
  c == ' ' || c == '\t' || c == '\r' || c == '\n'

structure Cursor where
  file : String
  position : Position
  rest : List Char

namespace Cursor

def start (file source : String) : Cursor :=
  ⟨file, .start, source.toList⟩

def skipBlanks (cursor : Cursor) : Cursor :=
  ⟨cursor.file, cursor.position.after (cursor.rest.takeWhile isBlank),
    cursor.rest.dropWhile isBlank⟩

/-- The next item, and the cursor right behind it. -/
def next? (cursor : Cursor) : Option (Item × Cursor) :=
  match cursor.skipBlanks.rest with
  | [] => none
  | c :: cs =>
    let position := cursor.skipBlanks.position
    let reading := Reading.ofText c cs
    some (reading.lexeme.at (position.within cursor.file),
      ⟨cursor.file, position.after reading.span, reading.rest⟩)

theorem length_rest_skipBlanks_le (cursor : Cursor) :
    cursor.skipBlanks.rest.length ≤ cursor.rest.length :=
  (List.dropWhile_sublist isBlank).length_le

theorem length_rest_lt_of_next? {cursor later : Cursor} {item : Item}
    (h : cursor.next? = some (item, later)) : later.rest.length < cursor.rest.length := by
  have blanks := cursor.length_rest_skipBlanks_le
  unfold next? at h
  split at h
  · cases h
  · rename_i c cs shape
    cases h
    have shorter := Reading.length_rest_lt c cs
    rw [shape] at blanks
    simp only
    omega

def items (cursor : Cursor) : List Item :=
  match _h : cursor.next? with
  | none => []
  | some (item, later) => item :: later.items
termination_by cursor.rest.length
decreasing_by exact length_rest_lt_of_next? _h

def finish (cursor : Cursor) : Cursor :=
  ⟨cursor.file, cursor.position.after cursor.rest, []⟩

/-- At most `limit` items, and the cursor behind the last of them, or at the end of the source
once there is no further one. -/
def take : (limit : Nat) → Cursor → List Item × Cursor
  | 0, cursor => ([], cursor)
  | limit + 1, cursor =>
    match cursor.next? with
    | none => ([], cursor.finish)
    | some (item, later) =>
      let (items, last) := take limit later
      (item :: items, last)

/-- One iteration over a cursor, with or without a limit to the number of items. -/
def iterate (limit : Option Nat) (cursor : Cursor) : List Item × Cursor :=
  match limit with
  | some limit => cursor.take limit
  | none => (cursor.items, cursor.finish)

/-- A series of iterations, each one going on where the one before it stopped. -/
def iterations : List (Option Nat) → Cursor → List (List Item)
  | [], _ => []
  | limit :: limits, cursor =>
    let (items, last) := cursor.iterate limit
    items :: iterations limits last

end Cursor

def scan (file source : String) : List Item :=
  (Cursor.start file source).items

end StateDescription
