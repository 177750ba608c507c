import StateDescription.Proofs.Growth

/-!
The values of a table. They are the literals that stood in groups with owners, in order, and each
belongs to one object, the one that the group of the literal belonged to.
-/

namespace StateDescription

/-! ### Places of filed values -/

/-- The places of the values that are filed under a name. -/
def placesOf (name : String) (filed : List (String × Value)) : List Int :=
  (filed.zipIdx.filter (·.1.1 = name)).map fun entry => (entry.2 : Int)

section PlacesOf

variable {name : String} {filed : List (String × Value)}

theorem placesOf_concat (name : String) (filed : List (String × Value))
    (entry : String × Value) :
    placesOf name (filed ++ [entry]) =
      placesOf name filed ++ if entry.1 = name then [(filed.length : Int)] else [] := by
  rw [placesOf, List.zipIdx_append, List.filter_append, List.map_append, placesOf]
  congr 1
  by_cases same : entry.1 = name <;> simp [same]

theorem mem_placesOf {index : Nat} :
    (index : Int) ∈ placesOf name filed ↔ ∃ value, filed[index]? = some (name, value) := by
  simp only [placesOf, List.mem_map, List.mem_filter, decide_eq_true_eq]
  constructor
  · rintro ⟨⟨⟨_, value⟩, place⟩, ⟨member, rfl⟩, same⟩
    obtain rfl : place = index := Int.ofNat_inj.1 same
    exact ⟨value, List.mem_zipIdx_iff_getElem?.1 member⟩
  · rintro ⟨value, found⟩
    exact ⟨((name, value), index), ⟨List.mem_zipIdx_iff_getElem?.2 found, rfl⟩, rfl⟩

theorem placesOf_eq_nil (absent : name ∉ filed.map Prod.fst) : placesOf name filed = [] := by
  rw [placesOf, List.map_eq_nil_iff, List.filter_eq_nil_iff]
  rintro ⟨entry, place⟩ member same
  have found := List.mem_of_getElem? (List.mem_zipIdx_iff_getElem?.1 member)
  obtain rfl : entry.1 = name := of_decide_eq_true same
  exact absent (List.mem_map_of_mem found)

theorem pairwise_placesOf (name : String) (filed : List (String × Value)) :
    (placesOf name filed).Pairwise (· < ·) := by
  have increasing : filed.zipIdx.Pairwise fun first second => first.2 < second.2 := by
    rw [← List.pairwise_map, List.zipIdx_map_snd]
    exact List.pairwise_lt_range'
  rw [placesOf, List.pairwise_map]
  exact (increasing.filter _).imp Int.ofNat_lt.2

/-- Under names that are all different, every place stands once. -/
theorem perm_placesOf {names : List String} (nodup : names.Nodup)
    (known : filed.map Prod.fst ⊆ names) :
    (names.flatMap (placesOf · filed)).Perm
      ((List.range filed.length).map fun index : Nat => (index : Int)) := by
  have all : (names.flatMap fun name => filed.zipIdx.filter (·.1.1 = name)).Perm
      filed.zipIdx := by
    refine perm_flatMap_filter (fun entry : (String × Value) × Nat => entry.1.1) nodup ?_
    intro entry member
    have found := List.mem_of_getElem? (List.mem_zipIdx_iff_getElem?.1 member)
    exact known (List.mem_map_of_mem found)
  have indices : filed.zipIdx.map Prod.snd = List.range filed.length := by
    rw [List.zipIdx_map_snd, List.range_eq_range']
  have placed := all.map fun entry : (String × Value) × Nat => (entry.2 : Int)
  rw [List.map_flatMap] at placed
  rw [← indices, List.map_map]
  exact placed

end PlacesOf

/-! ### Values of objects -/

namespace SymbolTable

theorem mem_objects_modify {table : SymbolTable} {name : String} {change : Object → Object}
    {object : Object} (member : object ∈ (table.modify name change).objects) :
    ∃ older ∈ table.objects, object = if older.name = name then change older else older := by
  obtain ⟨older, found, rfl⟩ := List.mem_map.1 member
  exact ⟨older, found, rfl⟩

namespace Edits

variable {allowed : Diagnostic → Prop} {before after : SymbolTable}
variable {filed : List (String × Value)} {given : List (String × Transition)}

theorem values (edits : Edits allowed before filed given after) :
    after.values = before.values ++ filed.map Prod.snd := by
  induction edits with
  | refl => exact (List.append_nil _).symm
  | diagnosed _ _ ih => exact ih
  | declared _ _ _ _ ih => exact ih
  | joined _ ih => exact ih
  | @valued filed _ after name value _ _ ih =>
      change after.values ++ [value] = _
      rw [ih, List.map_append, List.append_assoc]
      rfl
  | given _ _ ih => exact ih

/-- An object has the places of the values that were filed under its name. -/
theorem values_object (edits : Edits allowed .empty filed given after) :
    ∀ object ∈ after.objects, object.values = placesOf object.name filed := by
  induction edits with
  | refl => exact fun object none => absurd none List.not_mem_nil
  | diagnosed _ _ ih => exact ih
  | @declared _ _ _ object edits fresh valueless _ ih =>
      intro other member
      rcases List.mem_append.1 member with older | last
      · exact ih other older
      · -- Nothing was filed under the name before the object was declared.
        rw [List.mem_singleton.1 last, valueless, placesOf_eq_nil]
        exact fun known => fresh (edits.known_names.1 known)
  | joined _ ih =>
      intro object member
      obtain ⟨older, found, rfl⟩ := mem_objects_modify member
      split <;> exact ih older found
  | @valued filed _ after name value edits _ ih =>
      intro object member
      obtain ⟨older, found, rfl⟩ := mem_objects_modify member
      have length : after.values.length = filed.length := by
        rw [edits.values]
        exact List.length_map _
      by_cases owner : older.name = name
      · rw [if_pos owner, length]
        change older.values ++ [_] = placesOf older.name (filed ++ [(name, value)])
        rw [ih older found, placesOf_concat, if_pos owner.symm]
      · rw [if_neg owner, placesOf_concat, if_neg (Ne.symm owner), List.append_nil]
        exact ih older found
  | given _ _ ih =>
      intro object member
      obtain ⟨older, found, rfl⟩ := mem_objects_modify member
      split <;> exact ih older found

end Edits

end SymbolTable

/-- The values of a table are the literals read in groups with owners, in order. They are
partitioned among the objects, each of which has the literals of its own groups, in increasing
order. Whatever calls follow, the table only grows. -/
theorem values_partitioned (recordsFaults : Bool) (calls : List Call) :
    let builder := (Builder.new recordsFaults).after calls
    let filed := (Builder.new recordsFaults).history Builder.filed (Call.taken calls)
    builder.table.values = filed.map Prod.snd ∧
      (∀ object ∈ builder.table.objects, object.values.Pairwise (· < ·)) ∧
      (builder.table.objects.flatMap Object.values).Perm
        ((List.range builder.table.values.length).map fun index : Nat => (index : Int)) ∧
      (∀ (index : Nat) (name : String) (value : Value), filed[index]? = some (name, value) →
        ∃ owner ∈ builder.table.objects, owner.name = name ∧
          ∀ object ∈ builder.table.objects, (index : Int) ∈ object.values ↔ object = owner) ∧
      ∀ more, builder.table.GrowsTo (builder.after more).table := by
  intro builder filed
  have edits := Builder.edits_after recordsFaults calls
  have nodup : builder.table.names.Nodup := edits.nodup_names List.nodup_nil
  have values : builder.table.values = filed.map Prod.snd := edits.values
  have places := edits.values_object
  refine ⟨values, ?_, ?_, ?_, ?_⟩
  · intro object member
    rw [places object member]
    exact pairwise_placesOf object.name filed
  · have listed : builder.table.objects.flatMap Object.values =
        builder.table.names.flatMap (placesOf · filed) := by
      rw [SymbolTable.names, List.flatMap_map]
      exact List.flatMap_congr places
    rw [listed, values, List.length_map]
    exact perm_placesOf nodup edits.known_names.1
  · intro index name value found
    have known : name ∈ builder.table.names :=
      edits.known_names.1 (List.mem_map_of_mem (List.mem_of_getElem? found))
    obtain ⟨owner, member, named⟩ := List.mem_map.1 known
    refine ⟨owner, member, named, ?_⟩
    intro object there
    rw [places object there, mem_placesOf]
    constructor
    · rintro ⟨_, same⟩
      obtain rfl : name = object.name := by
        rw [found] at same
        exact congrArg Prod.fst (Option.some.inj same)
      have first := SymbolTable.find?_of_mem_objects nodup there
      have second := SymbolTable.find?_of_mem_objects nodup member
      rw [named, first] at second
      exact Option.some.inj second
    · rintro rfl
      exact ⟨value, named ▸ found⟩
  · intro more
    have declared := (Builder.ownersDeclared_new recordsFaults).after calls
    exact Builder.growsTo_after declared more

/-- In the text `a("x" b("y") "z"` the value of `b` stands between those of `a`. -/
theorem values_partitioned_of_nested :
    let words := [sampleToken .identifier "a" 1, sampleToken .openGroup "(" 2,
      sampleToken .literal "x" 3, sampleToken .identifier "b" 7, sampleToken .openGroup "(" 8,
      sampleToken .literal "y" 9, sampleToken .closeGroup ")" 12, sampleToken .literal "z" 14]
    let builder := (Builder.new true).after (words.map fun word => .feed (.token word))
    builder.table.objects.map Object.values = [[0, 2], [1]] ∧
      (builder.table.objects.flatMap Object.values).Perm [0, 1, 2] ∧
      builder.table.GrowsTo (builder.after [.finish]).table := by
  intro words builder
  obtain ⟨_, _, partition, _, grows⟩ :=
    values_partitioned true (words.map fun word => .feed (.token word))
  have count : builder.table.values.length = 3 := by decide
  rw [count] at partition
  exact ⟨by decide, partition, grows [.finish]⟩

end StateDescription
