import StateDescription.Proofs.Positions

/-!
Offsets of items. The span of every item starts at some offset of the source, and the line and
column of the item are those of this offset: they count the line feeds before it and the characters
behind the last of these.
-/

namespace StateDescription

namespace Position

/-- The offset where a line starts: behind the last line feed before an offset, or at the start of
the source. -/
def lineStart (source : List Char) (offset : Nat) : Nat :=
  ((List.range offset).reverse.find? (source[·]? = some '\n')).elim 0 (· + 1)

/-- The line and the column of an offset. -/
def ofOffset (source : List Char) (offset : Nat) : Position where
  line := 1 + (source.take offset).count '\n'
  column := offset - lineStart source offset + 1

variable {source : List Char} {offset : Nat}

theorem lineStart_succ (source : List Char) (offset : Nat) :
    lineStart source (offset + 1) =
      if source[offset]? = some '\n' then offset + 1 else lineStart source offset := by
  rw [lineStart, List.range_succ, List.reverse_concat, List.find?_cons]
  by_cases lineFeed : source[offset]? = some '\n' <;> simp [lineFeed, lineStart]

theorem lineStart_le (source : List Char) (offset : Nat) : lineStart source offset ≤ offset := by
  induction offset with
  | zero => exact Nat.le_refl 0
  | succ offset ih =>
      rw [lineStart_succ]
      split
      · exact Nat.le_refl _
      · exact Nat.le_succ_of_le ih

theorem ofOffset_succ {c : Char} (found : source[offset]? = some c) :
    ofOffset source (offset + 1) = (ofOffset source offset).next c := by
  have early := lineStart_le source offset
  have taken : source.take (offset + 1) = source.take offset ++ [c] := by
    rw [List.take_add_one, found]
    rfl
  rw [ofOffset, taken, lineStart_succ, found, next]
  by_cases lineFeed : c = '\n'
  · simp [lineFeed, ofOffset, Nat.add_assoc]
  · have column : offset + 1 - lineStart source offset = offset - lineStart source offset + 1 := by
      omega
    simp [lineFeed, ofOffset, column]

theorem after_take (inside : offset ≤ source.length) :
    start.after (source.take offset) = ofOffset source offset := by
  induction offset with
  | zero => rfl
  | succ offset ih =>
      obtain ⟨c, found⟩ : ∃ c, source[offset]? = some c := ⟨_, List.getElem?_eq_getElem inside⟩
      rw [List.take_add_one, found, after_append, ih (Nat.le_of_succ_le inside),
        ofOffset_succ found]
      rfl

theorem after_prefix (before rest : List Char) :
    start.after before = ofOffset (before ++ rest) before.length := by
  have inside : before.length ≤ (before ++ rest).length := (List.prefix_append _ _).length_le
  have taken := after_take inside
  rwa [List.take_left] at taken

theorem ofOffset_lt {later : Nat} (forward : offset < later) (inside : later ≤ source.length) :
    ofOffset source offset < ofOffset source later := by
  rw [← after_take inside, ← after_take (forward.le.trans inside),
    ← List.take_append_drop offset (source.take later), List.take_take, Nat.min_eq_left forward.le,
    after_append]
  refine lt_after ?_
  rw [← List.length_pos_iff, List.length_drop, List.length_take]
  omega

end Position

/-- A lexeme with its characters, the first of which stands at the offset. -/
structure Span where
  offset : Nat
  chars : List Char
  lexeme : Lexeme

/-- A span as an item: it stands at the line and column of its offset. -/
def Span.item (file : String) (source : List Char) (span : Span) : Item :=
  span.lexeme.at ((Position.ofOffset source span.offset).within file)

/-- From some offset on, a source consists of blanks and of these spans, in this order. -/
inductive Spans (source : List Char) : Nat → List Span → Prop
  | blanks {offset : Nat} (blank : ∀ c ∈ source.drop offset, isBlank c = true) :
      Spans source offset []
  | span {offset : Nat} {span : Span} {spans : List Span} (forward : offset ≤ span.offset)
      (blank : ∀ c ∈ (source.drop offset).take (span.offset - offset), isBlank c = true)
      (nonempty : span.chars ≠ []) (there : span.chars <+: source.drop span.offset)
      (covers : span.lexeme.Covers span.chars (source.drop (span.offset + span.chars.length)))
      (determined : Lexeme.ofSpan? span.chars = some span.lexeme)
      (more : Spans source (span.offset + span.chars.length) spans) :
      Spans source offset (span :: spans)

/-- A text from some position on, as the rest of a source behind the text before it. -/
theorem Segmented.exists_spans {file : String} {position : Position} {cs : List Char}
    {items : List Item} (segmented : Segmented file position cs items) {before : List Char}
    (place : position = Position.start.after before) :
    ∃ spans, Spans (before ++ cs) before.length spans ∧
      items = spans.map (Span.item file (before ++ cs)) := by
  induction segmented generalizing before with
  | @blanks position gap blank =>
      refine ⟨[], .blanks ?_, rfl⟩
      rwa [List.drop_left]
  | @item position gap chars rest lexeme items blank nonempty covers determined more ih =>
      subst place
      have split : before ++ (gap ++ chars ++ rest) = before ++ (gap ++ chars) ++ rest := by
        simp only [List.append_assoc]
      have shorter : before ++ (gap ++ chars ++ rest) = before ++ gap ++ (chars ++ rest) := by
        simp only [List.append_assoc]
      obtain ⟨spans, spanned, rfl⟩ := ih (Position.after_append _ before (gap ++ chars)).symm
      rw [← split] at spanned ⊢
      refine ⟨⟨(before ++ gap).length, chars, lexeme⟩ :: spans,
        .span ?_ ?_ nonempty ?_ ?_ determined ?_, ?_⟩
      · rw [List.length_append]
        exact Nat.le_add_right _ _
      · dsimp only
        rw [List.drop_left, List.length_append, Nat.add_sub_cancel_left, List.append_assoc,
          List.take_left]
        exact blank
      · rw [shorter, List.drop_left]
        exact List.prefix_append _ _
      · dsimp only
        rw [split, ← List.length_append, List.append_assoc before gap chars, List.drop_left]
        exact covers
      · simpa only [List.length_append, Nat.add_assoc] using spanned
      · rw [List.map_cons, Span.item, shorter, ← Position.after_prefix, Position.after_append]

namespace Spans

variable {source : List Char} {offset : Nat} {spans : List Span}

theorem bounds (spanned : Spans source offset spans) :
    ∀ span ∈ spans, offset ≤ span.offset ∧ span.offset < source.length := by
  induction spanned with
  | blanks => exact fun span none => absurd none List.not_mem_nil
  | @span offset first spans forward _ nonempty there _ _ _ ih =>
      intro span member
      rcases List.mem_cons.1 member with rfl | later
      · have some_char := List.length_pos_iff.2 nonempty
        have fits := there.length_le
        rw [List.length_drop] at fits
        exact ⟨forward, by omega⟩
      · obtain ⟨behind, inside⟩ := ih span later
        exact ⟨by omega, inside⟩

theorem pairwise_offsets (spanned : Spans source offset spans) :
    spans.Pairwise fun first second => first.offset < second.offset := by
  induction spanned with
  | blanks => exact .nil
  | span _ _ nonempty _ _ _ more ih =>
      refine .cons ?_ ih
      intro later member
      have some_char := List.length_pos_iff.2 nonempty
      have behind := (more.bounds later member).1
      omega

end Spans

/-- Every item stands at the line and column of the offset of its first character. So the items
stand at increasing positions, and no two of them share one. -/
theorem items_at_offsets (file source : String) :
    ∃ spans, Spans source.toList 0 spans ∧
      scan file source = spans.map (Span.item file source.toList) ∧
      (spans.map Span.offset).Pairwise (· < ·) ∧
      (spans.map fun span => Position.ofOffset source.toList span.offset).Pairwise (· < ·) ∧
      ((scan file source).map Item.location?).Nodup := by
  have segmented : Segmented file .start source.toList (scan file source) :=
    (scan_segmented file source).1
  have nothing : Position.start = Position.start.after [] := rfl
  obtain ⟨spans, spanned, items⟩ := segmented.exists_spans nothing
  rw [List.nil_append] at items spanned
  have forward := spanned.pairwise_offsets
  refine ⟨spans, spanned, items, List.pairwise_map.2 forward, List.pairwise_map.2 ?_,
    segmented.nodup_locations⟩
  refine forward.imp_of_mem ?_
  intro first second _ member before
  exact Position.ofOffset_lt before (spanned.bounds second member).2.le

end StateDescription
