import StateDescription.Proofs.LocationText
import StateDescription.Proofs.ScannedNames

/-!
Diagnostics that are alike. A message shows what its problem is about between words that its kind
fixes, so kind and message tell the problem. Only the citation of an earlier transition shows more
than one text, and its parts can be told apart because no name holds a blank.
-/

namespace StateDescription

/-! ### Messages with one text -/

theorem wording_inj {lead text other tail : String}
    (same : lead ++ text ++ tail = lead ++ other ++ tail) : text = other :=
  (String.append_right_inj lead).1 ((String.append_left_inj tail).1 same)

theorem LexicalProblem.eq_of_message {first second : LexicalProblem}
    (kind : first.kind = second.kind) (message : first.message = second.message) :
    first = second := by
  cases first with
  | other text =>
      cases second with
      | other more => exact congrArg other message
      | _ => cases kind
  | _ =>
      cases second <;> cases kind
      exact congrArg _ (wording_inj message)

theorem SemanticProblem.eq_of_message {first second : SemanticProblem}
    (kind : first.kind = second.kind) (single : first.kind ≠ .duplicateTransition)
    (message : first.message = second.message) : first = second := by
  cases first with
  | duplicateTransition => exact absurd rfl single
  | other text =>
      cases second with
      | other more => exact congrArg other message
      | _ => cases kind
  | _ =>
      cases second <;> cases kind
      exact congrArg _ (wording_inj message)

theorem Problem.eq_of_message {first second : Problem} (kind : first.kind = second.kind)
    (single : first.kind ≠ .duplicateTransition) (message : first.message = second.message) :
    first = second := by
  cases first with
  | lexical first =>
      cases second with
      | lexical second => exact congrArg lexical (LexicalProblem.eq_of_message kind message)
      | semantic second => cases first <;> cases second <;> cases kind
      | _ => cases first <;> cases kind
  | semantic first =>
      cases second with
      | lexical second => cases first <;> cases second <;> cases kind
      | semantic second =>
          exact congrArg semantic (SemanticProblem.eq_of_message kind single message)
      | _ => cases first <;> cases kind
  | general text =>
      cases second with
      | lexical second => cases second <;> cases kind
      | semantic second => cases second <;> cases kind
      | general other => exact congrArg general message
      | compilation => cases kind
  | compilation text =>
      cases second with
      | lexical second => cases second <;> cases kind
      | semantic second => cases second <;> cases kind
      | general => cases kind
      | compilation other => exact congrArg compilation message

/-! ### Citations -/

/-- Two texts that a separator ends are read from the front, each up to the next separator. What is
cited behind them may hold separators. -/
theorem separated_inj {α : Type} {separator : α} {lead link opening tail : List α}
    {origin other target goal cited known : List α}
    (origins : separator ∉ origin ∧ separator ∉ other)
    (targets : separator ∉ target ∧ separator ∉ goal)
    (same : lead ++ (origin ++ separator :: (link ++ (target ++ separator ::
        (opening ++ (cited ++ tail))))) =
      lead ++ (other ++ separator :: (link ++ (goal ++ separator ::
        (opening ++ (known ++ tail)))))) :
    origin = other ∧ target = goal ∧ cited = known := by
  rw [List.append_cancel_left_eq] at same
  obtain ⟨sameOrigin, behind⟩ := append_cons_inj_first origins.1 origins.2 same
  rw [List.append_cancel_left_eq] at behind
  obtain ⟨sameTarget, rest⟩ := append_cons_inj_first targets.1 targets.2 behind
  rw [List.append_cancel_left_eq, List.append_cancel_right_eq] at rest
  exact ⟨sameOrigin, sameTarget, rest⟩

theorem SemanticProblem.toList_citation (origin target : String) (previous : Location) :
    (duplicateTransition origin target (some previous)).message.toList =
      "Duplicate transition: '".toList ++ (origin.toList ++ ' ' :: (['=', '>', ' '] ++
        (target.toList ++ ' ' :: (['('] ++
          (previous.lead.toList ++ "already defined here)'".toList))))) := by
  have wording : (duplicateTransition origin target (some previous)).message =
      "Duplicate transition: '" ++ origin ++ " => " ++ target ++ " (" ++ previous.lead ++
        "already defined here)'" := rfl
  rw [wording]
  simp only [String.toList_append, List.append_assoc]
  rfl

theorem SemanticProblem.citation_inj {origin target other goal : String}
    {previous earlier : Location} (origins : ' ' ∉ origin.toList ∧ ' ' ∉ other.toList)
    (targets : ' ' ∉ target.toList ∧ ' ' ∉ goal.toList)
    (message : (duplicateTransition origin target (some previous)).message =
      (duplicateTransition other goal (some earlier)).message) :
    origin = other ∧ target = goal ∧ previous = earlier := by
  have texts := congrArg String.toList message
  rw [toList_citation, toList_citation] at texts
  obtain ⟨sameOrigin, sameTarget, sameLead⟩ := separated_inj origins targets texts
  exact ⟨String.toList_inj.1 sameOrigin, String.toList_inj.1 sameTarget,
    Location.lead_injective (String.toList_inj.1 sameLead)⟩

/-! ### Diagnostics of sources -/

theorem Token.kind_ne_of_objections {token : Token} {problem : SemanticProblem}
    (objects : problem ∈ token.objections) : problem.kind ≠ .duplicateTransition := by
  unfold objections at objects
  split at objects <;> simp only [List.mem_cons, List.not_mem_nil, or_false] at objects
  all_goals rcases objects with rfl | rfl <;> rintro ⟨⟩

namespace Diagnostic

/-- Only the citation of an earlier transition is of its kind, and it shows names that were read. -/
theorem Arises.exists_citation {source : List Item} {diagnostic : Diagnostic}
    (arises : diagnostic.Arises source) (cites : diagnostic.kind = .duplicateTransition) :
    ∃ origin ∈ Item.namesOf source, ∃ target ∈ Item.namesOf source, ∃ previous,
      diagnostic = ⟨.semantic (.duplicateTransition origin.name target.name (some previous)),
        some origin.location⟩ := by
  cases arises with
  | @fault fault =>
      obtain ⟨problem, location⟩ := fault
      cases problem <;> cases cites
  | token read objects => exact absurd cites (Token.kind_ne_of_objections objects)
  | unclosed => cases cites
  | undefined => cases cites
  | @repeated origin target previous leaves reaches =>
      exact ⟨origin, leaves, target, reaches, previous.location, rfl⟩

theorem Arises.eq_of_alike {file source otherFile other : String} {first second : Diagnostic}
    (arises : first.Arises (scan file source)) (arisesToo : second.Arises (scan otherFile other))
    (alike : first.alike second) : first = second := by
  simp only [Diagnostic.alike, Bool.and_eq_true, decide_eq_true_eq] at alike
  obtain ⟨⟨kind, message⟩, location⟩ := alike
  have spaceless {file source : String} {name : PendingName}
      (read : name ∈ Item.namesOf (scan file source)) : ' ' ∉ name.name.toList :=
    (proper_of_mem_namesOf_scan read).not_mem (by decide) (by decide) (by decide)
  have problem : first.problem = second.problem := by
    by_cases cites : first.kind = .duplicateTransition
    · obtain ⟨origin, leaves, target, reaches, previous, rfl⟩ := arises.exists_citation cites
      obtain ⟨start, leavesToo, goal, reachesToo, earlier, rfl⟩ :=
        arisesToo.exists_citation (kind.symm.trans cites)
      obtain ⟨origins, targets, cited⟩ := SemanticProblem.citation_inj
        ⟨spaceless leaves, spaceless leavesToo⟩ ⟨spaceless reaches, spaceless reachesToo⟩ message
      rw [origins, targets, cited]
    · exact Problem.eq_of_message kind cites message
  cases first
  cases second
  cases problem
  cases location
  rfl

end Diagnostic

theorem SymbolTable.arises_of_mem_ofItems {recordsFaults : Bool} {items : List Item}
    {diagnostic : Diagnostic} (found : diagnostic ∈ (ofItems recordsFaults items).diagnostics) :
    diagnostic.Arises items :=
  (madeOf_ofItems recordsFaults items).diagnostics diagnostic found

theorem SymbolTable.alike_iff {first second : SymbolTable} :
    first.alike second = true ↔
      first.objects.Perm second.objects ∧ first.values = second.values ∧
        List.Forall₂ (fun diagnostic like => diagnostic.alike like = true) first.diagnostics
          second.diagnostics := by
  simp only [alike, Bool.and_eq_true, decide_eq_true_eq, List.isPerm_iff, List.all_eq_true,
    List.forall₂_iff_zip, and_assoc, Prod.forall]

/-- Lists agree entry by entry under a relation that is equality on their entries just when they are
equal. -/
theorem forall₂_iff_eq {α : Type} {relates : α → α → Prop} {first second : List α}
    (equal : ∀ entry ∈ first, ∀ other ∈ second, relates entry other ↔ entry = other) :
    List.Forall₂ relates first second ↔ first = second := by
  induction first generalizing second with
  | nil => rw [List.forall₂_nil_left_iff, eq_comm]
  | cons entry first ih =>
      cases second with
      | nil => simp
      | cons other second =>
          have heads := equal entry List.mem_cons_self other List.mem_cons_self
          have tails := ih fun entry member other memberToo =>
            equal entry (List.mem_cons_of_mem _ member) other (List.mem_cons_of_mem _ memberToo)
          rw [List.forall₂_cons, heads, tails, List.cons.injEq]

/-- Diagnostics of whatever sources that are alike are the same, with all that they are about. So
lists of diagnostics that are alike one by one are the same, and tables that are alike hold the same
diagnostics. -/
theorem like_diagnostics_same (recordsFaults recordsFaultsToo : Bool)
    (file source otherFile other : String) :
    let first : SymbolTable := .ofItems recordsFaults (scan file source)
    let second : SymbolTable := .ofItems recordsFaultsToo (scan otherFile other)
    (∀ diagnostic ∈ first.diagnostics, ∀ like ∈ second.diagnostics,
      diagnostic.alike like = true ↔ diagnostic = like) ∧
      (List.Forall₂ (fun diagnostic like => diagnostic.alike like = true) first.diagnostics
        second.diagnostics ↔ first.diagnostics = second.diagnostics) ∧
      (first.alike second = true ↔ first.objects.Perm second.objects ∧
        first.values = second.values ∧ first.diagnostics = second.diagnostics) := by
  intro first second
  have same : ∀ diagnostic ∈ first.diagnostics, ∀ like ∈ second.diagnostics,
      diagnostic.alike like = true ↔ diagnostic = like := by
    intro diagnostic found like foundToo
    constructor
    · exact (SymbolTable.arises_of_mem_ofItems found).eq_of_alike
        (SymbolTable.arises_of_mem_ofItems foundToo)
    · rintro rfl
      exact diagnostic.alike_refl
  have lists := forall₂_iff_eq same
  refine ⟨same, lists, ?_⟩
  rw [SymbolTable.alike_iff, lists]

/-- Two citations at one place that cite different places are not alike. -/
theorem like_diagnostics_same_of_citations :
    let first := SymbolTable.ofItems true (scan "m" "a\x7bx=b; x=c;\x7d")
    let second := SymbolTable.ofItems true (scan "m" "a\x7b x=b;x=c;\x7d")
    let cites (column : Nat) : Diagnostic :=
      ⟨.semantic (.duplicateTransition "x" "c" (some ⟨"m", 1, column⟩)), some ⟨"m", 1, 8⟩⟩
    first.diagnostics = [cites 3] ∧ second.diagnostics = [cites 4] ∧
      (cites 3).alike (cites 4) = false := by
  intro first second cites
  have cited : first.diagnostics = [cites 3] := by decide +kernel
  have citedToo : second.diagnostics = [cites 4] := by decide +kernel
  obtain ⟨same, _⟩ :=
    like_diagnostics_same true true "m" "a\x7bx=b; x=c;\x7d" "m" "a\x7b x=b;x=c;\x7d"
  refine ⟨cited, citedToo, Bool.eq_false_iff.2 fun alike => ?_⟩
  have member : cites 3 ∈ first.diagnostics := by
    rw [cited]
    exact List.mem_cons_self
  have memberToo : cites 4 ∈ second.diagnostics := by
    rw [citedToo]
    exact List.mem_cons_self
  have equal := (same _ member _ memberToo).1 alike
  revert equal
  decide

/-- Names with blanks in them could not be told apart. -/
example :
    (⟨.semantic (.duplicateTransition "x => y" "z" none), none⟩ : Diagnostic).alike
      ⟨.semantic (.duplicateTransition "x" "y => z" none), none⟩ = true := by
  decide

end StateDescription
