import StateDescription.Files.Path

/-!
Normalised paths. A path is its components with slashes between them; the normalised path has the
components that say something, behind the idle ones that make it absolute or stand for nothing.
-/

namespace StateDescription.Path

/-! ### Components -/

theorem split_eq_splitOn (cs : List Char) : split cs = cs.splitOn '/' := by
  induction cs with
  | nil => rfl
  | cons c cs ih =>
      rw [split, List.splitOn_eq_splitOnP, List.splitOnP_cons_eq_if_modifyHead,
        ← List.splitOn_eq_splitOnP, ih]
      by_cases slash : c = '/'
      · simp [slash]
      · rw [if_neg slash, if_neg (by simpa using slash)]
        cases shape : cs.splitOn '/' with
        | nil => exact absurd shape (List.splitOnP_ne_nil _ _)
        | cons part parts => rfl

theorem toList_intercalate (texts : List String) :
    (String.intercalate "/" texts).toList = ['/'].intercalate (texts.map String.toList) :=
  String.toList_intercalate

theorem intercalate_components (path : String) :
    String.intercalate "/" (components path) = path := by
  rw [← String.toList_inj, toList_intercalate, components, List.map_map,
    show String.toList ∘ String.ofList = id from funext fun _ => String.toList_ofList,
    List.map_id, split_eq_splitOn, List.intercalate_splitOn]

theorem components_intercalate {texts : List String} (nonempty : texts ≠ [])
    (apart : ∀ text ∈ texts, '/' ∉ text.toList) :
    components (String.intercalate "/" texts) = texts := by
  rw [components, toList_intercalate, split_eq_splitOn,
    List.splitOn_intercalate '/' (List.forall_mem_map.2 apart) (by simpa using nonempty),
    List.map_map, show String.ofList ∘ String.toList = id from funext fun _ => String.ofList_toList,
    List.map_id]

theorem mem_of_mem_split {cs part : List Char} (member : part ∈ split cs) {c : Char}
    (inside : c ∈ part) : c ∈ cs ∧ c ≠ '/' := by
  induction cs generalizing part with
  | nil =>
      rw [List.mem_singleton.1 member] at inside
      cases inside
  | cons d cs ih =>
      rw [split] at member
      by_cases slash : d = '/'
      · rw [if_pos slash] at member
        rcases List.mem_cons.1 member with rfl | later
        · cases inside
        · obtain ⟨found, other⟩ := ih later inside
          exact ⟨List.mem_cons_of_mem _ found, other⟩
      · rw [if_neg slash] at member
        cases shape : split cs with
        | nil =>
            rw [shape] at member
            rw [List.mem_singleton.1 member, List.mem_singleton] at inside
            rw [inside]
            exact ⟨List.mem_cons_self, slash⟩
        | cons first parts =>
            rw [shape] at member ih
            rcases List.mem_cons.1 member with rfl | later
            · rcases List.mem_cons.1 inside with rfl | own
              · exact ⟨List.mem_cons_self, slash⟩
              · obtain ⟨found, other⟩ := ih List.mem_cons_self own
                exact ⟨List.mem_cons_of_mem _ found, other⟩
            · obtain ⟨found, other⟩ := ih (List.mem_cons_of_mem _ later) inside
              exact ⟨List.mem_cons_of_mem _ found, other⟩

theorem mem_of_mem_components {path component : String} (member : component ∈ components path)
    {c : Char} (inside : c ∈ component.toList) : c ∈ path.toList ∧ c ≠ '/' := by
  obtain ⟨part, isPart, rfl⟩ := List.mem_map.1 member
  rw [String.toList_ofList] at inside
  exact mem_of_mem_split isPart inside

theorem components_of_slash {path : String} {rest : List Char} (absolute : path.toList = '/' :: rest) :
    components path = "" :: components (String.ofList rest) := by
  rw [components, absolute, split, if_pos rfl, List.map_cons, components, String.toList_ofList]

theorem mem_steps_iff {path step : String} :
    step ∈ steps path ↔ step ∈ components path ∧ isIdle step = false := by
  rw [steps, List.mem_filter, Bool.not_eq_true']

/-! ### Roots -/

theorem root_cases (path : String) :
    root path = "" ∧ path.toList.head? ≠ some '/' ∨
      root path = "/" ∧ (∃ rest, path.toList = '/' :: rest) ∨
        root path = "//" ∧ ∃ rest, path.toList = '/' :: '/' :: rest := by
  unfold root
  cases shape : path.toList with
  | nil => exact .inl ⟨rfl, by rintro ⟨⟩⟩
  | cons c cs =>
      by_cases slash : c = '/'
      · subst slash
        rw [List.takeWhile_cons_of_pos (by decide), List.length_cons]
        right
        split
        · rename_i none
          cases none
        · rename_i two
          have one : (cs.takeWhile (· = '/')).length = 1 := Nat.succ.inj two
          cases cs with
          | nil => cases one
          | cons d cs =>
              by_cases slash : d = '/'
              · exact .inr ⟨rfl, cs, by rw [slash]⟩
              · rw [List.takeWhile_cons_of_neg (by simpa using slash)] at one
                cases one
        · exact .inl ⟨rfl, cs, rfl⟩
      · rw [List.takeWhile_cons_of_neg (by simpa using slash)]
        exact .inl ⟨rfl, fun same => slash (Option.some.inj same)⟩

theorem root_eq_empty_iff {path : String} : root path = "" ↔ path.toList.head? ≠ some '/' := by
  rcases root_cases path with ⟨relative, head⟩ | ⟨absolute, rest, shape⟩ | ⟨absolute, rest, shape⟩
  · exact iff_of_true relative head
  · rw [absolute, shape]
    exact iff_of_false (by decide) (not_not_intro rfl)
  · rw [absolute, shape]
    exact iff_of_false (by decide) (not_not_intro rfl)

theorem exists_eq_append_of_root (path : String) : ∃ rest, path = root path ++ rest := by
  rcases root_cases path with ⟨relative, head⟩ | ⟨absolute, rest, shape⟩ | ⟨absolute, rest, shape⟩
  · exact ⟨path, by rw [relative, String.empty_append]⟩
  · refine ⟨String.ofList rest, ?_⟩
    rw [← String.toList_inj, absolute, shape]
    simp
  · refine ⟨String.ofList rest, ?_⟩
    rw [← String.toList_inj, absolute, shape]
    simp

/-! ### The components of a normalised path -/

/-- What stands before the steps of a normalised path: an empty component for every slash of its
root, and one that says nothing if there are no steps. -/
def idleLead (path : String) : List String :=
  (root path).toList.map (fun _ => "") ++
    if steps path = [] then [if root path = "" then "." else ""] else []

theorem isIdle_of_mem_idleLead {path component : String} (member : component ∈ idleLead path) :
    isIdle component = true := by
  rcases List.mem_append.1 member with slash | last
  · obtain ⟨c, -, rfl⟩ := List.mem_map.1 slash
    rfl
  · split at last
    · rw [List.mem_singleton.1 last]
      split <;> rfl
    · cases last

theorem slash_not_mem {path component : String} (member : component ∈ idleLead path ++ steps path) :
    '/' ∉ component.toList := by
  intro inside
  rcases List.mem_append.1 member with idle | step
  · have empty := isIdle_of_mem_idleLead idle
    simp only [isIdle, Bool.or_eq_true, decide_eq_true_eq] at empty
    rcases empty with rfl | rfl <;> revert inside <;> decide
  · exact (mem_of_mem_components (mem_steps_iff.1 step).1 inside).2 rfl

theorem intercalate_empty_cons {texts : List String} (nonempty : texts ≠ []) :
    String.intercalate "/" ("" :: texts) = "/" ++ String.intercalate "/" texts := by
  cases texts with
  | nil => contradiction
  | cons text texts => rw [String.intercalate_cons_cons, String.empty_append]

/-- The steps of a path start with a character that is no slash. -/
theorem exists_head_steps {path : String} (said : steps path ≠ []) :
    ∃ c cs, (String.intercalate "/" (steps path)).toList = c :: cs ∧ c ≠ '/' := by
  cases shape : steps path with
  | nil => contradiction
  | cons step later =>
      obtain ⟨found, notIdle⟩ := mem_steps_iff.1 (shape ▸ List.mem_cons_self : step ∈ steps path)
      obtain ⟨tail, whole⟩ : ∃ tail, String.intercalate "/" (step :: later) = step ++ tail := by
        cases later with
        | nil => exact ⟨"", by rw [String.intercalate_singleton, String.append_empty]⟩
        | cons next later =>
            exact ⟨_, by rw [String.intercalate_cons_cons, String.append_assoc]⟩
      rw [whole, String.toList_append]
      cases letters : step.toList with
      | nil =>
          rw [String.toList_eq_nil_iff] at letters
          rw [letters] at notIdle
          cases notIdle
      | cons c cs =>
          exact ⟨c, cs ++ tail.toList, rfl,
            (mem_of_mem_components found (letters ▸ List.mem_cons_self)).2⟩

theorem normalised_cases (path : String) :
    root path = "" ∧ steps path = [] ∧ normalised path = "." ∨
      (root path ≠ "" ∨ steps path ≠ []) ∧
        normalised path = root path ++ String.intercalate "/" (steps path) := by
  by_cases none : steps path = []
  · unfold normalised
    rw [none]
    rcases root_cases path with ⟨root, -⟩ | ⟨root, -⟩ | ⟨root, -⟩ <;> rw [root] <;> decide
  · right
    refine ⟨.inr none, if_neg fun empty => ?_⟩
    obtain ⟨c, cs, shape, -⟩ := exists_head_steps none
    have length := congrArg String.toList empty
    rw [String.toList_append, shape] at length
    simp at length

theorem normalised_ne_empty (path : String) : normalised path ≠ "" := by
  unfold normalised
  dsimp only
  split
  · decide
  · assumption

theorem normalised_eq (path : String) :
    normalised path = String.intercalate "/" (idleLead path ++ steps path) := by
  unfold idleLead
  rcases normalised_cases path with ⟨relative, none, text⟩ | ⟨said, text⟩
  · rw [text, relative, none]
    rfl
  · rw [text]
    by_cases none : steps path = []
    · rw [none, if_pos rfl]
      rcases root_cases path with ⟨root, -⟩ | ⟨root, -⟩ | ⟨root, -⟩
      · exact absurd none (said.resolve_left (not_not_intro root))
      · rw [root]
        decide
      · rw [root]
        decide
    · rw [if_neg none, List.append_nil]
      rcases root_cases path with ⟨root, -⟩ | ⟨root, -⟩ | ⟨root, -⟩ <;> rw [root]
      · exact String.empty_append
      · exact (intercalate_empty_cons none).symm
      · change _ = String.intercalate "/" ("" :: "" :: steps path)
        rw [intercalate_empty_cons (List.cons_ne_nil _ _), intercalate_empty_cons none,
          ← String.append_assoc]
        rfl

theorem components_normalised (path : String) :
    components (normalised path) = idleLead path ++ steps path := by
  rw [normalised_eq]
  refine components_intercalate ?_ fun component => slash_not_mem
  unfold idleLead
  by_cases none : steps path = []
  · simp [none]
  · simp [none]

/-- Normalising keeps a path relative or absolute. -/
theorem root_normalised_eq_empty_iff (path : String) :
    root (normalised path) = "" ↔ root path = "" := by
  rcases normalised_cases path with ⟨relative, none, text⟩ | ⟨said, text⟩
  · rw [text, relative]
    decide
  · rw [text, root_eq_empty_iff, String.toList_append]
    rcases root_cases path with ⟨root, -⟩ | ⟨root, -⟩ | ⟨root, -⟩ <;> rw [root]
    · obtain ⟨c, cs, shape, other⟩ := exists_head_steps (said.resolve_left (not_not_intro root))
      rw [shape]
      simpa using other
    · simp
    · simp

/-! ### Characters and sizes -/

theorem mem_of_mem_intercalate {texts : List String} {c : Char}
    (member : c ∈ (String.intercalate "/" texts).toList) :
    c = '/' ∨ ∃ text ∈ texts, c ∈ text.toList := by
  induction texts with
  | nil => cases member
  | cons text texts ih =>
      cases texts with
      | nil =>
          rw [String.intercalate_singleton] at member
          exact .inr ⟨text, List.mem_cons_self, member⟩
      | cons next texts =>
          rw [String.intercalate_cons_cons, String.toList_append, String.toList_append] at member
          rcases List.mem_append.1 member with front | behind
          · rcases List.mem_append.1 front with own | slash
            · exact .inr ⟨text, List.mem_cons_self, own⟩
            · exact .inl (List.mem_singleton.1 slash)
          · rcases ih behind with slash | ⟨other, isLater, own⟩
            · exact .inl slash
            · exact .inr ⟨other, List.mem_cons_of_mem _ isLater, own⟩

theorem mem_of_mem_normalised {path : String} {c : Char} (member : c ∈ (normalised path).toList) :
    c ∈ path.toList ∨ c = '/' ∨ c = '.' := by
  rw [normalised_eq] at member
  rcases mem_of_mem_intercalate member with slash | ⟨component, found, own⟩
  · exact .inr (.inl slash)
  · rcases List.mem_append.1 found with idle | step
    · have empty := isIdle_of_mem_idleLead idle
      simp only [isIdle, Bool.or_eq_true, decide_eq_true_eq] at empty
      rcases empty with rfl | rfl
      · cases own
      · exact .inr (.inr (List.mem_singleton.1 own))
    · exact .inl (mem_of_mem_components (mem_steps_iff.1 step).1 own).1

/-- The bytes of texts, each with a byte for a slash. -/
def weight : List String → Nat
  | [] => 0
  | text :: texts => text.utf8ByteSize + 1 + weight texts

theorem size_intercalate {texts : List String} (nonempty : texts ≠ []) :
    (String.intercalate "/" texts).utf8ByteSize + 1 = weight texts := by
  induction texts with
  | nil => contradiction
  | cons text texts ih =>
      cases texts with
      | nil => rw [String.intercalate_singleton, weight, weight]
      | cons next texts =>
          have later := ih (List.cons_ne_nil _ _)
          have slash : "/".utf8ByteSize = 1 := by decide
          rw [String.intercalate_cons_cons, String.utf8ByteSize_append, String.utf8ByteSize_append,
            slash, weight, ← later]
          omega

theorem weight_le_of_sublist {texts others : List String} (sublist : texts.Sublist others) :
    weight texts ≤ weight others := by
  induction sublist with
  | slnil => exact Nat.le_refl _
  | cons text _ ih => exact Nat.le_trans ih (Nat.le_add_left _ _)
  | cons_cons text _ ih => exact Nat.add_le_add_left ih _

/-- The slashes of a root stand for empty components in front of the steps. -/
theorem lead_append_steps_sublist (path : String) :
    ((root path).toList.map (fun _ => "") ++ steps path).Sublist (components path) := by
  have keeps : ∀ texts : List String, (texts.filter (!isIdle ·)).Sublist texts :=
    fun _ => List.filter_sublist
  unfold steps
  rcases root_cases path with ⟨root, -⟩ | ⟨root, rest, shape⟩ | ⟨root, rest, shape⟩ <;> rw [root]
  · exact keeps _
  · rw [components_of_slash shape, List.filter_cons_of_neg (by decide)]
    exact (keeps _).cons_cons ""
  · rw [components_of_slash shape, components_of_slash String.toList_ofList,
      List.filter_cons_of_neg (by decide), List.filter_cons_of_neg (by decide)]
    exact ((keeps _).cons_cons "").cons_cons ""

theorem size_normalised_le {path : String} (nonempty : path ≠ "") :
    (normalised path).utf8ByteSize ≤ path.utf8ByteSize := by
  by_cases none : steps path = []
  · rcases normalised_cases path with ⟨-, -, text⟩ | ⟨-, text⟩
    · rw [text]
      exact Nat.pos_of_ne_zero (mt String.utf8ByteSize_eq_zero_iff.1 nonempty)
    · obtain ⟨rest, whole⟩ := exists_eq_append_of_root path
      have size := congrArg String.utf8ByteSize whole
      rw [String.utf8ByteSize_append] at size
      rw [text, none, String.intercalate_nil, String.append_empty, size]
      exact Nat.le_add_right _ _
  · have lighter := weight_le_of_sublist (lead_append_steps_sublist path)
    have some : components path ≠ [] := by
      intro empty
      rw [steps, empty] at none
      exact none rfl
    have parts : idleLead path ++ steps path =
        (root path).toList.map (fun _ => "") ++ steps path := by
      rw [idleLead, if_neg none, List.append_nil]
    rw [← parts, ← size_intercalate (by simp [none]), ← size_intercalate some,
      ← normalised_eq, intercalate_components] at lighter
    exact Nat.le_of_succ_le_succ lighter

end StateDescription.Path
