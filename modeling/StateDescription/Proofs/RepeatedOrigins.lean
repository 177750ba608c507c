import Mathlib.Algebra.GroupWithZero.Nat
import Mathlib.Data.List.Dedup
import StateDescription.Proofs.TableEdits

/-!
Repeated origins. A transition is given to its object even when an earlier one has the same origin,
and then a diagnostic cites the first of them, so these diagnostics tell exactly which transitions
repeat an origin.
-/

namespace StateDescription

/-! ### Entries that repeat a key -/

section Repeats

variable {α β : Type} [DecidableEq β]

/-- The entries that have an earlier one with the same key, in order. -/
def repeats (key : α → β) (list : List α) : List α :=
  (list.zipIdx.filter fun entry => key entry.1 ∈ (list.take entry.2).map key).map Prod.fst

theorem repeats_concat (key : α → β) (list : List α) (last : α) :
    repeats key (list ++ [last]) =
      repeats key list ++ if key last ∈ list.map key then [last] else [] := by
  rw [repeats, List.zipIdx_append, List.filter_append, List.map_append, repeats]
  congr 1
  · refine congrArg (List.map Prod.fst) (List.filter_congr ?_)
    rintro ⟨entry, place⟩ member
    have inside : place ≤ list.length := by
      obtain ⟨early, _⟩ := List.getElem?_eq_some_iff.1 (List.mem_zipIdx_iff_getElem?.1 member)
      exact early.le
    rw [List.take_append_of_le_length inside]
  · by_cases repeated : key last ∈ list.map key <;> simp [repeated]

theorem mem_of_mem_repeats {key : α → β} {list : List α} {entry : α}
    (member : entry ∈ repeats key list) : entry ∈ list := by
  obtain ⟨⟨_, place⟩, kept, rfl⟩ := List.mem_map.1 member
  exact List.mem_of_getElem? (List.mem_zipIdx_iff_getElem?.1 (List.mem_filter.1 kept).1)

/-- An entry repeats a key, or it is the first one with its key. -/
theorem length_repeats (key : α → β) (list : List α) :
    (repeats key list).length + (list.map key).dedup.length = list.length := by
  induction list using List.reverseRecOn with
  | nil => rfl
  | append_singleton list last ih =>
      -- The last key counts among the keys when it is new, and its entry repeats it when it is not.
      have keys : ((list ++ [last]).map key).dedup.length =
          (key last :: list.map key).dedup.length := by
        rw [List.map_append, List.map_singleton]
        exact (List.perm_append_singleton _ _).dedup.length_eq
      rw [repeats_concat, List.length_append, List.length_append, keys]
      by_cases repeated : key last ∈ list.map key
      · rw [if_pos repeated, List.dedup_cons_of_mem repeated]
        simp only [List.length_singleton]
        omega
      · rw [if_neg repeated, List.dedup_cons_of_notMem repeated]
        simp only [List.length_nil, List.length_cons]
        omega

theorem length_sub_dedup_eq_zero_iff {list : List β} :
    list.length - list.dedup.length = 0 ↔ list.Nodup := by
  rw [Nat.sub_eq_zero_iff_le]
  constructor
  · intro short
    exact List.dedup_eq_self.1 ((List.dedup_sublist list).eq_of_length_le short)
  · intro nodup
    rw [List.dedup_eq_self.2 nodup]

/-- Repetitions under one name are repetitions among what is filed under that name. -/
theorem filter_repeats {γ : Type} [DecidableEq γ] (name : α → γ) (key : α → β) (list : List α)
    (subject : γ) :
    (repeats (fun entry => (name entry, key entry)) list).filter (name · = subject) =
      repeats key (list.filter (name · = subject)) := by
  induction list using List.reverseRecOn with
  | nil => rfl
  | append_singleton list last ih =>
      rw [repeats_concat, List.filter_append, List.filter_append, ih]
      by_cases same : name last = subject
      · have repeated : (name last, key last) ∈ list.map (fun entry => (name entry, key entry)) ↔
            key last ∈ (list.filter (name · = subject)).map key := by
          simp [same, and_comm, and_assoc]
        rw [List.filter_singleton, decide_eq_true same, cond_true, repeats_concat]
        congr 1
        by_cases earlier : key last ∈ (list.filter (name · = subject)).map key
        · rw [if_pos earlier, if_pos (repeated.2 earlier)]
          simp [same]
        · rw [if_neg earlier, if_neg (mt repeated.1 earlier)]
          rfl
      · rw [List.filter_singleton, decide_eq_false same, cond_false, List.append_nil]
        split <;> simp [same]

end Repeats

namespace SymbolTable

/-! ### Citations -/

/-- The name and origin of a transition that was given to the object of that name. -/
def originOf (entry : String × Transition) : String × String :=
  (entry.1, entry.2.origin)

/-- The diagnostic of a transition that repeats an origin. It stands at the origin and cites the
first transition of the object with that origin. -/
def citation (table : SymbolTable) (entry : String × Transition) : Diagnostic :=
  let first := (table.transitionsOf entry.1).find? (·.origin = entry.2.origin)
  ⟨.semantic (.duplicateTransition entry.2.origin entry.2.target (first.bind Transition.location)),
    entry.2.location⟩

theorem citation_of_prefix {table later : SymbolTable} {entry : String × Transition}
    (grows : table.transitionsOf entry.1 <+: later.transitionsOf entry.1)
    (known : entry.2 ∈ table.transitionsOf entry.1) :
    later.citation entry = table.citation entry := by
  obtain ⟨more, grown⟩ := grows
  rw [citation, ← grown, List.find?_append, citation]
  cases first : (table.transitionsOf entry.1).find? (·.origin = entry.2.origin) with
  | none =>
      have other := List.find?_eq_none.1 first entry.2 known
      exact absurd (decide_eq_true rfl) other
  | some transition => rfl

theorem citation_congr {table later : SymbolTable}
    (same : ∀ name, later.transitionsOf name = table.transitionsOf name) :
    later.citation = table.citation := by
  funext entry
  rw [citation, citation, same]

/-- A transition is cited for when an earlier one has its origin, and the first such one is cited
for good. -/
theorem citations_eq {object : Object} {transition : Transition} {name : String}
    {later : SymbolTable} (more : later.transitionsOf name = object.transitions ++ [transition]) :
    object.citations transition =
      if transition.origin ∈ object.transitions.map Transition.origin then
        [later.citation (name, transition)]
      else [] := by
  rw [Object.citations, Object.transition?]
  cases first : object.transitions.find? (·.origin = transition.origin) with
  | none =>
      rw [if_neg]
      · rfl
      · intro repeated
        obtain ⟨previous, member, same⟩ := List.mem_map.1 repeated
        exact List.find?_eq_none.1 first previous member (decide_eq_true same)
  | some previous =>
      have same : previous.origin = transition.origin := by simpa using List.find?_some first
      have member := List.mem_of_find?_eq_some first
      rw [if_pos (List.mem_map.2 ⟨previous, member, same⟩), citation, more, List.find?_append,
        first]
      rfl

theorem filter_citations (object : Object) (transition : Transition) :
    (object.citations transition).filter (·.kind = .duplicateTransition) =
      object.citations transition := by
  rw [Object.citations]
  cases object.transition? transition.origin <;> rfl

namespace Edits

variable {allowed : Diagnostic → Prop} {before after : SymbolTable}
variable {filed : List (String × Value)} {given : List (String × Transition)}

theorem mem_transitionsOf (edits : Edits allowed .empty filed given after)
    {entry : String × Transition} :
    entry.2 ∈ after.transitionsOf entry.1 ↔ entry ∈ given := by
  have transitions : after.transitionsOf entry.1 =
      (given.filter (·.1 = entry.1)).map Prod.snd := edits.transitionsOf entry.1
  rw [transitions]
  constructor
  · intro member
    obtain ⟨⟨name, transition⟩, kept, same⟩ := List.mem_map.1 member
    obtain ⟨found, named⟩ := List.mem_filter.1 kept
    obtain rfl : name = entry.1 := of_decide_eq_true named
    obtain rfl : transition = entry.2 := same
    exact found
  · intro member
    exact List.mem_map_of_mem (List.mem_filter.2 ⟨member, decide_eq_true rfl⟩)

theorem mem_origins (edits : Edits allowed .empty filed given after)
    {entry : String × Transition} :
    originOf entry ∈ given.map originOf ↔
      entry.2.origin ∈ (after.transitionsOf entry.1).map Transition.origin := by
  rw [List.mem_map, List.mem_map]
  constructor
  · rintro ⟨⟨name, previous⟩, member, same⟩
    obtain ⟨rfl, origin⟩ := Prod.mk.inj same
    exact ⟨previous, edits.mem_transitionsOf.2 member, origin⟩
  · rintro ⟨previous, member, origin⟩
    exact ⟨(entry.1, previous), edits.mem_transitionsOf.1 member, Prod.ext rfl origin⟩

theorem map_citation_of_prefix (edits : Edits allowed .empty filed given after)
    {later : SymbolTable}
    (grows : ∀ name, after.transitionsOf name <+: later.transitionsOf name) :
    (repeats originOf given).map later.citation = (repeats originOf given).map after.citation := by
  apply List.map_congr_left
  intro entry member
  have known := edits.mem_transitionsOf.2 (mem_of_mem_repeats member)
  exact citation_of_prefix (grows entry.1) known

/-- The citations are those of the transitions that repeat an origin, in the order in which they
were given. -/
theorem cited (edits : Edits (·.kind ≠ .duplicateTransition) .empty filed given after) :
    after.diagnostics.filter (·.kind = .duplicateTransition) =
      (repeats originOf given).map after.citation := by
  induction edits with
  | refl => rfl
  | @diagnosed _ _ after made _ fits ih =>
      have none : made.filter (·.kind = .duplicateTransition) = [] := by
        rw [List.filter_eq_nil_iff]
        intro diagnostic member same
        exact fits diagnostic member (of_decide_eq_true same)
      rw [diagnostics_addDiagnostics, List.filter_append, none, List.append_nil, ih]
      rfl
  | declared _ _ _ bare ih =>
      rw [diagnostics_declare, ih, citation_congr (transitionsOf_declare bare · _)]
  | joined _ ih =>
      rw [diagnostics_modify, ih, citation_congr
        (transitionsOf_modify (Object.keepsName_addRoles _) (fun _ => rfl) _ · _)]
  | valued _ _ ih =>
      rw [diagnostics_addValueOf, ih, citation_congr (transitionsOf_addValueOf _ _ _ · _)]
  | @given _ given after name object transition edits found ih =>
      have more := transitionsOf_addTransition found (object.citations transition) transition
      have known := transitionsOf_of_find? found
      have last := more name
      rw [if_pos rfl, known] at last
      have repeated : originOf (name, transition) ∈ given.map originOf ↔
          transition.origin ∈ object.transitions.map Transition.origin := by
        rw [edits.mem_origins, known]
      -- What was cited before is still the first of its origin, for transitions are only appended.
      have older := edits.map_citation_of_prefix fun other => ⟨_, (more other).symm⟩
      rw [diagnostics_modify, diagnostics_addDiagnostics, List.filter_append, ih,
        repeats_concat, List.map_append, older, filter_citations, citations_eq last]
      simp only [repeated]
      split <;> rfl

/-! ### Counting -/

theorem transitions_object (edits : Edits allowed .empty filed given after) {object : Object}
    (member : object ∈ after.objects) :
    object.transitions = (given.filter (·.1 = object.name)).map Prod.snd := by
  have nodup : after.names.Nodup := edits.nodup_names List.nodup_nil
  have transitions : after.transitionsOf object.name =
      (given.filter (·.1 = object.name)).map Prod.snd := edits.transitionsOf object.name
  rw [← transitions, transitionsOf_of_find? (find?_of_mem_objects nodup member)]

/-- What repeats an origin in an object are its transitions but one for each origin. -/
theorem length_repeats_object (edits : Edits allowed .empty filed given after) {object : Object}
    (member : object ∈ after.objects) :
    ((repeats originOf given).filter (·.1 = object.name)).length =
      object.transitions.length - (object.transitions.map Transition.origin).dedup.length := by
  have repeated : (repeats originOf given).filter (·.1 = object.name) =
      repeats (·.2.origin) (given.filter (·.1 = object.name)) :=
    filter_repeats Prod.fst (·.2.origin) given object.name
  have counted := length_repeats (·.2.origin) (given.filter (·.1 = object.name))
  rw [edits.transitions_object member, List.length_map, List.map_map, repeated, ← counted]
  exact (Nat.add_sub_cancel _ _).symm

theorem length_repeats_given (edits : Edits allowed .empty filed given after) :
    (repeats originOf given).length =
      (after.objects.map fun object =>
        object.transitions.length -
          (object.transitions.map Transition.origin).dedup.length).sum := by
  have all : (after.names.flatMap fun name =>
      (repeats originOf given).filter (·.1 = name)).Perm (repeats originOf given) := by
    refine perm_flatMap_filter Prod.fst (edits.nodup_names List.nodup_nil) ?_
    intro entry member
    exact edits.known_names.2 (List.mem_map_of_mem (mem_of_mem_repeats member))
  rw [← all.length_eq, List.length_flatMap, names, List.map_map]
  refine congrArg List.sum (List.map_congr_left ?_)
  intro object member
  exact edits.length_repeats_object member

end Edits

end SymbolTable

/-- The diagnostics of repeated origins correspond, in order, to the transitions that were recorded
when their object had one with that origin, and each cites the first such one. So there are as many
as there are transitions beyond one for each origin of each object. -/
theorem repeated_origins_cited (recordsFaults : Bool) (calls : List Call) :
    let table := ((Builder.new recordsFaults).after calls).table
    let recorded := (Builder.new recordsFaults).history Builder.recorded (Call.taken calls)
    let cited := table.diagnostics.filter (·.kind = .duplicateTransition)
    (∀ object ∈ table.objects,
      object.transitions = (recorded.filter (·.1 = object.name)).map Prod.snd) ∧
      recorded.map Prod.fst ⊆ table.names ∧
      cited = (repeats SymbolTable.originOf recorded).map table.citation ∧
      cited.length =
        (table.objects.map fun object =>
          object.transitions.length -
            (object.transitions.map Transition.origin).dedup.length).sum ∧
      (cited = [] ↔
        ∀ object ∈ table.objects, (object.transitions.map Transition.origin).Nodup) := by
  intro table recorded cited
  have edits := Builder.edits_after recordsFaults calls
  have citations : cited = (repeats SymbolTable.originOf recorded).map table.citation := edits.cited
  have count : cited.length = (table.objects.map fun object =>
      object.transitions.length -
        (object.transitions.map Transition.origin).dedup.length).sum := by
    rw [citations, List.length_map]
    exact edits.length_repeats_given
  refine ⟨fun _ member => edits.transitions_object member, edits.known_names.2, citations, count, ?_⟩
  rw [← List.length_eq_zero_iff, count, List.sum_eq_zero_iff_forall_eq_nat]
  constructor
  · intro none object member
    have single := none _ (List.mem_map_of_mem member)
    rw [← List.length_map Transition.origin] at single
    exact length_sub_dedup_eq_zero_iff.1 single
  · intro distinct excess member
    obtain ⟨object, found, rfl⟩ := List.mem_map.1 member
    have single := length_sub_dedup_eq_zero_iff.2 (distinct object found)
    rwa [List.length_map] at single

/-- In the text `a{x=b;x=c;x=d;}` the second and the third statement cite the first. -/
theorem repeated_origins_cite_first :
    let words := [sampleToken .identifier "a" 1, sampleToken .openBlock "\x7b" 2,
      sampleToken .identifier "x" 3, sampleToken .equals "=" 4, sampleToken .identifier "b" 5,
      sampleToken .semicolon ";" 6, sampleToken .identifier "x" 7, sampleToken .equals "=" 8,
      sampleToken .identifier "c" 9, sampleToken .semicolon ";" 10,
      sampleToken .identifier "x" 11, sampleToken .equals "=" 12,
      sampleToken .identifier "d" 13, sampleToken .semicolon ";" 14]
    let table := ((Builder.new true).after (words.map fun word => .feed (.token word))).table
    table.diagnostics.filter (·.kind = .duplicateTransition) =
        [⟨.semantic (.duplicateTransition "x" "c" (some ⟨"sample", 1, 3⟩)),
            some ⟨"sample", 1, 7⟩⟩,
          ⟨.semantic (.duplicateTransition "x" "d" (some ⟨"sample", 1, 3⟩)),
            some ⟨"sample", 1, 11⟩⟩] ∧
      ¬∀ object ∈ table.objects, (object.transitions.map Transition.origin).Nodup := by
  intro words table
  obtain ⟨_, _, _, _, none⟩ :=
    repeated_origins_cited true (words.map fun word => .feed (.token word))
  have cited : table.diagnostics.filter (·.kind = .duplicateTransition) =
      [⟨.semantic (.duplicateTransition "x" "c" (some ⟨"sample", 1, 3⟩)),
          some ⟨"sample", 1, 7⟩⟩,
        ⟨.semantic (.duplicateTransition "x" "d" (some ⟨"sample", 1, 3⟩)),
          some ⟨"sample", 1, 11⟩⟩] := by decide
  refine ⟨cited, fun distinct => ?_⟩
  have absent := none.2 distinct
  rw [cited] at absent
  cases absent

end StateDescription
