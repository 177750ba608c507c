import Mathlib.Data.List.Forall2
import Mathlib.Data.List.Nodup
import StateDescription.Proofs.JsonText
import StateDescription.SymbolTable.Json

/-!
What the JSON text of a symbol table or of items keeps. It keeps everything but the details that
a diagnostic shows in its message only.
-/

namespace StateDescription

open Function (Injective)

/-! ### Names -/

theorem TokenType.name_injective : Injective TokenType.name :=
  fun first second =>
    List.inj_on_of_nodup_map (l := all) (by decide) (mem_all first) (mem_all second)

theorem WriteMode.name_injective : Injective WriteMode.name := by
  rintro ⟨⟩ ⟨⟩ same <;> first | rfl | exact absurd same (by decide)

theorem Role.name_injective : Injective Role.name := by
  rintro ⟨⟩ ⟨⟩ same <;> first | rfl | exact absurd same (by decide)

namespace Roles

@[simp] theorem mem_toList {role : Role} {roles : Roles} : role ∈ roles.toList ↔ role ∈ roles := by
  rw [toList, List.mem_filter]
  exact and_iff_right (by cases role <;> decide)

theorem names_injective : Injective names := by
  intro first second same
  have lists : first.toList = second.toList := List.map_injective_iff.2 Role.name_injective same
  refine ext_iff_mem.2 fun role => ?_
  rw [← mem_toList, lists, mem_toList]

end Roles

namespace Problem.Kind

def all : List Kind :=
  [general, lexical, unfinishedLiteral, unknownEscape, unknownToken, semantic,
    duplicateTransition, undefinedIdentifier, unclosed, unattachedModifier, duplicateAttribute,
    duplicateWriteMode, unbalancedGroup, unbalancedBlock, literalOutsideGroup,
    expectedIdentifier, reservedTokenUnused, unexpectedEndOfStatement, compilation]

theorem mem_all (kind : Kind) : kind ∈ all := by
  cases kind <;> decide

theorem name_injective : Injective name :=
  fun first second =>
    List.inj_on_of_nodup_map (l := all) (by decide) (mem_all first) (mem_all second)

end Problem.Kind

/-! ### Values of the parts -/

theorem Location.toJson_injective : Injective Location.toJson := by
  rintro ⟨file, line, column⟩ ⟨file', line', column'⟩ same
  simpa [toJson] using same

theorem Location.toJson?_injective : Injective Location.toJson? := by
  rintro (_ | first) (_ | second) same
  · rfl
  · cases same
  · cases same
  · exact congrArg some (toJson_injective same)

theorem Transition.toJson_injective : Injective Transition.toJson := by
  rintro ⟨location, origin, target, mode⟩ ⟨location', origin', target', mode'⟩ same
  simp only [toJson, Json.object.injEq, List.cons.injEq, Prod.mk.injEq, Json.string.injEq,
    WriteMode.name_injective.eq_iff, Location.toJson?_injective.eq_iff, true_and, and_true] at same
  obtain ⟨rfl, rfl, rfl, rfl⟩ := same
  rfl

theorem Object.toJson_injective : Injective Object.toJson := by
  rintro ⟨name, location, roles, values, transitions⟩
    ⟨name', location', roles', values', transitions'⟩ same
  simp only [toJson, Json.object.injEq, List.cons.injEq, Prod.mk.injEq, Json.string.injEq,
    Json.array.injEq, (List.map_injective_iff.2 fun _ _ => Json.string.inj).eq_iff,
    (List.map_injective_iff.2 fun _ _ => Json.integer.inj).eq_iff,
    (List.map_injective_iff.2 Transition.toJson_injective).eq_iff,
    Roles.names_injective.eq_iff, Location.toJson?_injective.eq_iff, true_and, and_true] at same
  obtain ⟨rfl, rfl, rfl, rfl, rfl⟩ := same
  rfl

theorem Value.toJson_injective : Injective Value.toJson := by
  rintro ⟨text, location⟩ ⟨text', location'⟩ same
  simp only [toJson, Json.object.injEq, List.cons.injEq, Prod.mk.injEq, Json.string.injEq,
    Location.toJson?_injective.eq_iff, true_and, and_true] at same
  obtain ⟨rfl, rfl⟩ := same
  rfl

theorem Token.toJson_injective : Injective Token.toJson := by
  rintro ⟨type, value, location⟩ ⟨type', value', location'⟩ same
  simp only [toJson, Json.object.injEq, List.cons.injEq, Prod.mk.injEq, Json.string.injEq,
    TokenType.name_injective.eq_iff, Location.toJson_injective.eq_iff, true_and, and_true] at same
  obtain ⟨rfl, rfl, rfl⟩ := same
  rfl

theorem Diagnostic.toJson_eq_iff {first second : Diagnostic} :
    first.toJson = second.toJson ↔ first.alike second := by
  simp only [toJson, Json.object.injEq, List.cons.injEq, Prod.mk.injEq, Json.string.injEq,
    Problem.Kind.name_injective.eq_iff, Location.toJson?_injective.eq_iff, true_and, and_true,
    alike, Bool.and_eq_true, decide_eq_true_eq, and_assoc]

/-! ### Items and tables -/

namespace Item

/-- Items are alike when they are the same token, or faults whose diagnostics are alike. -/
inductive Alike : Item → Item → Prop
  | token (token : Token) : Alike (.token token) (.token token)
  | fault {first second : Fault} (alike : first.toDiagnostic.alike second.toDiagnostic) :
      Alike (.fault first) (.fault second)

theorem toJson_eq_iff {first second : Item} : first.toJson = second.toJson ↔ Alike first second := by
  constructor
  · intro same
    cases first with
    | token first =>
        cases second with
        | token second =>
            obtain rfl := Token.toJson_injective same
            exact .token first
        | fault second => simp [toJson, Token.toJson, Diagnostic.toJson] at same
    | fault first =>
        cases second with
        | token second => simp [toJson, Token.toJson, Diagnostic.toJson] at same
        | fault second => exact .fault (Diagnostic.toJson_eq_iff.1 same)
  · rintro (_ | alike)
    · rfl
    · exact Diagnostic.toJson_eq_iff.2 alike

end Item

theorem map_eq_map_iff_forall₂ {α β : Type} {f : α → β} {first second : List α} :
    first.map f = second.map f ↔ List.Forall₂ (fun a b => f a = f b) first second := by
  rw [← List.forall₂_eq_eq_eq, List.forall₂_map_left_iff, List.forall₂_map_right_iff]

theorem SymbolTable.toJson_eq_iff {first second : SymbolTable} :
    first.toJson = second.toJson ↔
      first.objects = second.objects ∧ first.values = second.values ∧
        List.Forall₂ (fun a b => a.alike b) first.diagnostics second.diagnostics := by
  simp only [toJson, Json.object.injEq, List.cons.injEq, Prod.mk.injEq, Json.array.injEq,
    (List.map_injective_iff.2 Object.toJson_injective).eq_iff,
    (List.map_injective_iff.2 Value.toJson_injective).eq_iff, map_eq_map_iff_forall₂,
    Diagnostic.toJson_eq_iff, true_and, and_true]

/-- With any indent, the texts of two tables are the same just when their objects and values are
and their diagnostics are pairwise alike, and so it is with the texts of two lists of items. -/
theorem jsonText_eq_iff (indent : Option Int) :
    (∀ first second : SymbolTable,
      first.jsonText (.ofIndent indent) = second.jsonText (.ofIndent indent) ↔
        first.objects = second.objects ∧ first.values = second.values ∧
          List.Forall₂ (fun a b => a.alike b) first.diagnostics second.diagnostics) ∧
    ∀ first second : List Item,
      Item.jsonText (.ofIndent indent) first = Item.jsonText (.ofIndent indent) second ↔
        List.Forall₂ Item.Alike first second := by
  constructor
  · intro first second
    rw [SymbolTable.jsonText, SymbolTable.jsonText, (Json.text_injective _).eq_iff,
      SymbolTable.toJson_eq_iff]
  · intro first second
    rw [Item.jsonText, Item.jsonText, (Json.text_injective _).eq_iff, Json.array.injEq,
      map_eq_map_iff_forall₂]
    simp only [Item.toJson_eq_iff]

end StateDescription
