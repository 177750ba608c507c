import StateDescription.Proofs.Modifiers
import StateDescription.Proofs.UniqueNames

/-!
The fates of modifiers. A tracked build counts its items and keeps, for each modifier that waits,
the number of its item, and for each one that waits no longer, what became of it. No number is ever
decided twice or forgotten, so every modifier has one fate.
-/

namespace StateDescription

/-- What becomes of a modifier: a diagnostic is made about it, the item of the number `opening`
gives its role to the object of the owner, or it is lost to an opening without a name. -/
inductive Fate
  | reported (diagnostic : Diagnostic)
  | attached (opening : Nat) (owner : PendingName)
  | forfeited (opening : Nat)
  deriving DecidableEq

def Fate.diagnostic? : Fate → Option Diagnostic
  | reported diagnostic => some diagnostic
  | _ => none

/-- A build with the number of items that it has read. `waiting` are the modifiers that wait and
`decided` the fates of the others, each with the number of its item. -/
structure Tracked where
  builder : Builder
  read : Nat
  waiting : List (Nat × Modifier)
  decided : List (Nat × Fate)

namespace Tracked

def new (recordsFaults : Bool) : Tracked :=
  ⟨.new recordsFaults, 0, [], []⟩

/-- The fates that an item decides: its own when it is refused, or those of all that wait. -/
def decides (tracked : Tracked) : Handling → List (Nat × Fate)
  | .keeps | .admits _ => []
  | .refuses diagnostic => [(tracked.read, .reported diagnostic)]
  | .drops => tracked.waiting.map fun entry => (entry.1, .reported entry.2.unattached)
  | .attaches owner =>
    tracked.waiting.map fun entry =>
      (entry.1,
        if entry.2.role ∈ tracked.builder.table.rolesOf owner.name then
          .reported entry.2.duplicate
        else .attached tracked.read owner)
  | .forfeits => tracked.waiting.map fun entry => (entry.1, .forfeited tracked.read)

def leaves (tracked : Tracked) : Handling → List (Nat × Modifier)
  | .keeps | .refuses _ => tracked.waiting
  | .admits modifier => tracked.waiting ++ [(tracked.read, modifier)]
  | .drops | .attaches _ | .forfeits => []

def step (tracked : Tracked) (item : Item) : Tracked where
  builder := tracked.builder.step item
  read := tracked.read + 1
  waiting := tracked.leaves (tracked.builder.handling item)
  decided := tracked.decided ++ tracked.decides (tracked.builder.handling item)

def run (tracked : Tracked) (items : List Item) : Tracked :=
  items.foldl step tracked

/-- All fates: the end of the source reports the modifiers that still wait. -/
def fates (tracked : Tracked) : List (Nat × Fate) :=
  tracked.decided ++ tracked.waiting.map fun entry => (entry.1, .reported entry.2.unattached)

/-- The diagnostics of modifiers, each with the number of the item that it is about. -/
def cited (tracked : Tracked) : List (Nat × Diagnostic) :=
  tracked.fates.filterMap fun entry => entry.2.diagnostic?.map (entry.1, ·)

/-- The numbers of the modifiers with a fate and of those that wait. -/
def numbers (tracked : Tracked) : List Nat :=
  tracked.decided.map Prod.fst ++ tracked.waiting.map Prod.fst

@[simp] theorem builder_run (tracked : Tracked) (items : List Item) :
    (tracked.run items).builder = tracked.builder.run items := by
  induction items generalizing tracked with
  | nil => rfl
  | cons item items ih => exact ih (tracked.step item)

@[simp] theorem read_run (tracked : Tracked) (items : List Item) :
    (tracked.run items).read = tracked.read + items.length := by
  induction items generalizing tracked with
  | nil => rfl
  | cons item items ih =>
      rw [List.length_cons, Nat.add_comm items.length, ← Nat.add_assoc]
      exact ih (tracked.step item)

theorem run_concat (tracked : Tracked) (items : List Item) (item : Item) :
    tracked.run (items ++ [item]) = (tracked.run items).step item :=
  List.foldl_concat _ _ _ _

theorem prefix_decided_run (tracked : Tracked) (items : List Item) :
    tracked.decided <+: (tracked.run items).decided := by
  induction items generalizing tracked with
  | nil => exact List.prefix_refl _
  | cons item items ih => exact (List.prefix_append _ _).trans (ih (tracked.step item))

/-! ### Numbers -/

variable {tracked : Tracked} {item : Item}

theorem map_fst_fates (tracked : Tracked) : tracked.fates.map Prod.fst = tracked.numbers := by
  rw [fates, numbers, List.map_append, List.map_map]
  rfl

/-- An item that is admitted or refused brings its number. No other number comes or goes. -/
theorem numbers_step (tracked : Tracked) (item : Item) :
    (tracked.step item).numbers.Perm tracked.numbers ∧ item.role? = none ∨
      (tracked.step item).numbers.Perm (tracked.read :: tracked.numbers) := by
  have handles := tracked.builder.handles_handling item
  rw [step, numbers, numbers]
  dsimp only
  generalize tracked.builder.handling item = handling at handles
  -- Whatever is decided of the modifiers that wait, their numbers stay as they are.
  have moved (fate : Nat × Modifier → Fate) :
      ((tracked.decided ++ tracked.waiting.map fun entry => (entry.1, fate entry)).map Prod.fst ++
          ([] : List Nat)).Perm
        (tracked.decided.map Prod.fst ++ tracked.waiting.map Prod.fst) := by
    rw [List.append_nil, List.map_append, List.map_map]
    rfl
  cases handles with
  | keeps other =>
      left
      rw [decides, List.append_nil]
      exact ⟨.refl _, other⟩
  | admits modifier =>
      right
      rw [decides, List.append_nil, leaves, List.map_append, ← List.append_assoc]
      exact List.perm_append_singleton _ _
  | refuses concerns =>
      right
      rw [decides, List.map_append, List.append_assoc]
      exact List.perm_middle
  | drops other => exact .inl ⟨moved _, other⟩
  | attaches type waiting => exact .inl ⟨moved _, Item.role?_of_opens? type⟩
  | forfeits type waiting => exact .inl ⟨moved _, Item.role?_of_opens? type⟩

section Runs

variable (recordsFaults : Bool) (items : List Item)

theorem lt_of_mem_numbers {number : Nat}
    (member : number ∈ ((new recordsFaults).run items).numbers) : number < items.length := by
  induction items using List.reverseRecOn with
  | nil => cases member
  | append_singleton items item ih =>
      rw [run_concat] at member
      rw [List.length_append, List.length_singleton]
      rcases numbers_step ((new recordsFaults).run items) item with ⟨same, _⟩ | more
      · exact Nat.lt_succ_of_lt (ih (same.mem_iff.1 member))
      · rcases List.mem_cons.1 (more.mem_iff.1 member) with rfl | older
        · rw [read_run]
          exact Nat.lt_succ_of_le (Nat.zero_add _).le
        · exact Nat.lt_succ_of_lt (ih older)

/-- No modifier has two fates, and none that has one waits. -/
theorem nodup_numbers : ((new recordsFaults).run items).numbers.Nodup := by
  induction items using List.reverseRecOn with
  | nil => exact List.nodup_nil
  | append_singleton items item ih =>
      rw [run_concat]
      rcases numbers_step ((new recordsFaults).run items) item with ⟨same, _⟩ | more
      · exact same.nodup_iff.2 ih
      · rw [more.nodup_iff, List.nodup_cons, read_run]
        refine ⟨?_, ih⟩
        intro member
        have below := lt_of_mem_numbers recordsFaults items member
        exact absurd below (Nat.not_lt.2 (Nat.zero_add _).ge)

/-- Every modifier has a fate or waits. -/
theorem mem_numbers {number : Nat} {role : Role}
    (gives : items[number]?.bind Item.role? = some role) :
    number ∈ ((new recordsFaults).run items).numbers := by
  induction items using List.reverseRecOn with
  | nil => cases gives
  | append_singleton items item ih =>
      rw [run_concat]
      obtain ⟨fed, found, role⟩ := Option.bind_eq_some_iff.1 gives
      rcases Nat.lt_or_ge number items.length with early | late
      · rw [List.getElem?_append_left early] at gives
        have member := ih gives
        rcases numbers_step ((new recordsFaults).run items) item with ⟨same, _⟩ | more
        · exact same.mem_iff.2 member
        · exact more.mem_iff.2 (List.mem_cons_of_mem _ member)
      · obtain ⟨inside, same⟩ := List.getElem?_eq_some_iff.1 found
        rw [List.length_append, List.length_singleton] at inside
        obtain rfl : number = items.length := by omega
        rw [List.getElem_concat_length rfl] at same
        rcases numbers_step ((new recordsFaults).run items) item with ⟨_, none⟩ | more
        · rw [same, role] at none
          cases none
        · rw [more.mem_iff, read_run]
          exact List.mem_cons.2 (.inl (Nat.zero_add _).symm)

/-! ### Modifiers that wait -/

theorem map_snd_leaves (tracked : Tracked) (handling : Handling) :
    (tracked.leaves handling).map Prod.snd =
      handling.waiting (tracked.waiting.map Prod.snd) := by
  cases handling with
  | admits modifier => exact List.map_append
  | _ => rfl

/-- The modifiers that wait are those of the builder. -/
theorem map_snd_waiting_run :
    ((new recordsFaults).run items).waiting.map Prod.snd =
      ((Builder.new recordsFaults).run items).modifiers := by
  induction items using List.reverseRecOn with
  | nil => rfl
  | append_singleton items item ih =>
      rw [run_concat, Builder.run_concat, (Builder.handled_step _ item).modifiers, ← ih, step,
        map_snd_leaves, builder_run]
      rfl

/-- Every modifier that waits is the token of its number. -/
theorem getElem?_of_mem_waiting {number : Nat} {modifier : Modifier}
    (waits : (number, modifier) ∈ ((new recordsFaults).run items).waiting) :
    items[number]? = some (.token modifier.toToken) := by
  induction items using List.reverseRecOn with
  | nil => cases waits
  | append_singleton items item ih =>
      have older (member : (number, modifier) ∈ ((new recordsFaults).run items).waiting) :
          (items ++ [item])[number]? = some (.token modifier.toToken) := by
        have found := ih member
        rwa [List.getElem?_append_left (List.getElem?_eq_some_iff.1 found).1]
      rw [run_concat, step] at waits
      have handles := ((new recordsFaults).run items).builder.handles_handling item
      generalize ((new recordsFaults).run items).builder.handling item = handling at handles waits
      cases handles with
      | keeps => exact older waits
      | refuses => exact older waits
      | admits added =>
          rcases List.mem_append.1 waits with member | last
          · exact older member
          · obtain ⟨rfl, rfl⟩ := Prod.mk.inj (List.mem_singleton.1 last)
            rw [read_run]
            change (items ++ [_])[0 + items.length]? = _
            rw [Nat.zero_add]
            exact List.getElem?_concat_length
      | _ => cases waits

/-! ### Diagnostics -/

theorem diagnostics_attached (waiting : List (Nat × Modifier)) (roles : Roles) (opening : Nat)
    (owner : PendingName) :
    (waiting.map fun entry =>
        (entry.1,
          if entry.2.role ∈ roles then Fate.reported entry.2.duplicate
          else .attached opening owner)).filterMap (fun entry => entry.2.diagnostic?) =
      ((waiting.map Prod.snd).filter (·.role ∈ roles)).map Modifier.duplicate := by
  induction waiting with
  | nil => rfl
  | cons entry waiting ih =>
      rw [List.map_cons, List.map_cons]
      by_cases repeated : entry.2.role ∈ roles
      · rw [List.filter_cons_of_pos (by simpa using repeated), if_pos repeated, List.map_cons, ← ih]
        rfl
      · rw [List.filter_cons_of_neg (by simpa using repeated), if_neg repeated, ← ih]
        rfl

theorem diagnostics_unattached (waiting : List (Nat × Modifier)) :
    (waiting.map fun entry => (entry.1, Fate.reported entry.2.unattached)).filterMap
        (fun entry => entry.2.diagnostic?) =
      (waiting.map Prod.snd).map Modifier.unattached := by
  rw [List.filterMap_map, List.map_map]
  exact congrFun List.filterMap_eq_map waiting

theorem diagnostics_decides (tracked : Tracked)
    (same : tracked.waiting.map Prod.snd = tracked.builder.modifiers) (handling : Handling) :
    (tracked.decides handling).filterMap (fun entry => entry.2.diagnostic?) =
      handling.diagnostics tracked.builder := by
  cases handling with
  | keeps => rfl
  | admits modifier => rfl
  | refuses diagnostic => rfl
  | drops =>
      rw [Handling.diagnostics, ← same]
      exact diagnostics_unattached tracked.waiting
  | attaches owner =>
      rw [Handling.diagnostics, ← same]
      exact diagnostics_attached tracked.waiting _ tracked.read owner
  | forfeits =>
      rw [decides, List.filterMap_map]
      exact List.filterMap_eq_nil_iff.2 fun _ _ => rfl

theorem diagnostics_run :
    ((new recordsFaults).run items).decided.filterMap (fun entry => entry.2.diagnostic?) =
      ((Builder.new recordsFaults).run items).table.diagnostics.filter
        Diagnostic.isOfModifier := by
  induction items using List.reverseRecOn with
  | nil => rfl
  | append_singleton items item ih =>
      have same := map_snd_waiting_run recordsFaults items
      have follows := builder_run (new recordsFaults) items
      rw [run_concat, Builder.run_concat, (Builder.handled_step _ item).diagnostics, ← ih, step]
      dsimp only
      rw [List.filterMap_append, diagnostics_decides _ (by rw [same, follows]; rfl), follows]
      rfl

theorem map_snd_cited (tracked : Tracked) :
    tracked.cited.map Prod.snd = tracked.fates.filterMap fun entry => entry.2.diagnostic? := by
  rw [cited, List.map_filterMap]
  congr 1
  funext entry
  rw [Option.map_map]
  exact Option.map_id'

/-- The cited diagnostics are all that the table has about modifiers. -/
theorem cited_run :
    ((new recordsFaults).run items).cited.map Prod.snd =
      (SymbolTable.ofItems recordsFaults items).diagnostics.filter Diagnostic.isOfModifier := by
  have leftovers : (((Builder.new recordsFaults).run items).leftovers).filter
      Diagnostic.isOfModifier =
        ((Builder.new recordsFaults).run items).modifiers.map Modifier.unattached := by
    have none (names : List PendingName) :
        (names.map PendingName.unclosed).filter Diagnostic.isOfModifier = [] :=
      List.filter_eq_nil_iff.2 (List.forall_mem_map.2 fun _ _ => Bool.false_ne_true)
    rw [Builder.leftovers, List.filter_append, none, List.append_nil,
      Builder.filter_isOfModifier_unattached]
  rw [Builder.ofItems_eq, SymbolTable.diagnostics_addDiagnostics, List.filter_append, leftovers,
    map_snd_cited, fates, List.filterMap_append, diagnostics_run, diagnostics_unattached,
    map_snd_waiting_run]

/-! ### Openings -/

/-- The modifier of that number waits when the item `opening` opens a group or block. -/
structure WaitsAt (recordsFaults : Bool) (items : List Item) (number opening : Nat) : Prop where
  opens : ∃ token frame, items[opening]? = some (.token token) ∧ token.type.opens? = some frame
  waits : number ∈ ((new recordsFaults).run (items.take opening)).waiting.map Prod.fst

/-- What was found where a fate was decided. -/
def Decided (recordsFaults : Bool) (items : List Item) (number : Nat) : Fate → Prop
  | .reported diagnostic =>
    ∃ token, items[number]? = some (.token token) ∧
      (diagnostic = token.unattached ∨ diagnostic = token.duplicate)
  | .attached opening owner =>
    let current := (Builder.new recordsFaults).run (items.take opening)
    WaitsAt recordsFaults items number opening ∧ current.names.head? = some owner ∧
      ∃ role, items[number]?.bind Item.role? = some role ∧
        role ∉ current.table.rolesOf owner.name
  | .forfeited opening =>
    WaitsAt recordsFaults items number opening ∧
      ((Builder.new recordsFaults).run (items.take opening)).names = []

variable {recordsFaults items}

theorem getElem?_append_of_some {α : Type} {items : List α} {number : Nat} {item : α}
    (found : items[number]? = some item) (more : List α) :
    (items ++ more)[number]? = some item := by
  rwa [List.getElem?_append_left (List.getElem?_eq_some_iff.1 found).1]

theorem role?_append {number : Nat} {role : Role}
    (gives : items[number]?.bind Item.role? = some role) (more : List Item) :
    (items ++ more)[number]?.bind Item.role? = some role := by
  obtain ⟨item, found, given⟩ := Option.bind_eq_some_iff.1 gives
  rw [getElem?_append_of_some found]
  exact given

theorem role?_of_mem_waiting {number : Nat} {modifier : Modifier}
    (waits : (number, modifier) ∈ ((new recordsFaults).run items).waiting) :
    items[number]?.bind Item.role? = some modifier.role := by
  rw [getElem?_of_mem_waiting recordsFaults items waits]
  exact modifier.role.role?_tokenType

theorem WaitsAt.append {number opening : Nat} (waits : WaitsAt recordsFaults items number opening)
    (more : List Item) :
    (items ++ more).take opening = items.take opening ∧
      WaitsAt recordsFaults (items ++ more) number opening := by
  obtain ⟨⟨token, frame, found, opens⟩, member⟩ := waits
  have inside := (List.getElem?_eq_some_iff.1 found).1
  have same : (items ++ more).take opening = items.take opening :=
    List.take_append_of_le_length inside.le
  refine ⟨same, ⟨token, frame, getElem?_append_of_some found more, opens⟩, ?_⟩
  rwa [same]

theorem Decided.append {number : Nat} {fate : Fate}
    (decided : Decided recordsFaults items number fate) (more : List Item) :
    Decided recordsFaults (items ++ more) number fate := by
  cases fate with
  | reported diagnostic =>
      obtain ⟨token, found, concerns⟩ := decided
      exact ⟨token, getElem?_append_of_some found more, concerns⟩
  | attached opening owner =>
      obtain ⟨waits, newest, role, gives, fresh⟩ := decided
      obtain ⟨same, waits⟩ := waits.append more
      refine ⟨waits, ?_, role, role?_append gives more, ?_⟩
      · rwa [same]
      · rwa [same]
  | forfeited opening =>
      obtain ⟨waits, none⟩ := decided
      obtain ⟨same, waits⟩ := waits.append more
      refine ⟨waits, ?_⟩
      rwa [same]

theorem read_run_new (recordsFaults : Bool) (items : List Item) :
    ((new recordsFaults).run items).read = items.length :=
  (read_run _ items).trans (Nat.zero_add _)

theorem waitsAt_last {token : Token} {frame : Option Site → Frame} {number : Nat}
    (opens : token.type.opens? = some frame)
    (waits : number ∈ ((new recordsFaults).run items).waiting.map Prod.fst) :
    WaitsAt recordsFaults (items ++ [.token token]) number items.length where
  opens := ⟨token, frame, List.getElem?_concat_length, opens⟩
  waits := by rwa [List.take_left]

theorem token_of_mem_waiting {number : Nat} {modifier : Modifier}
    (waits : (number, modifier) ∈ ((new recordsFaults).run items).waiting) (more : List Item) :
    (items ++ more)[number]? = some (.token modifier.toToken) :=
  getElem?_append_of_some (getElem?_of_mem_waiting recordsFaults items waits) more

theorem decided_of_mem_decides {item : Item} {handling : Handling} {entry : Nat × Fate}
    (handles : ((Builder.new recordsFaults).run items).Handles item handling)
    (member : entry ∈ ((new recordsFaults).run items).decides handling) :
    Decided recordsFaults (items ++ [item]) entry.1 entry.2 := by
  have follows : ((new recordsFaults).run items).builder = (Builder.new recordsFaults).run items :=
    builder_run _ items
  have read := read_run_new recordsFaults items
  have past : (items ++ [item]).take items.length = items := List.take_left
  cases handles with
  | keeps => cases member
  | admits => cases member
  | @refuses token diagnostic concerns =>
      obtain rfl := List.mem_singleton.1 member
      rw [read]
      exact ⟨token, List.getElem?_concat_length, concerns⟩
  | drops =>
      obtain ⟨⟨number, modifier⟩, waits, rfl⟩ := List.mem_map.1 member
      exact ⟨modifier.toToken, token_of_mem_waiting waits _, .inl rfl⟩
  | @attaches token frame owner around type waiting =>
      obtain ⟨⟨number, modifier⟩, waits, rfl⟩ := List.mem_map.1 member
      dsimp only
      split
      · exact ⟨modifier.toToken, token_of_mem_waiting waits _, .inr rfl⟩
      · rename_i fresh
        rw [follows] at fresh
        rw [read]
        refine ⟨waitsAt_last type (List.mem_map_of_mem waits), ?_, modifier.role,
          role?_append (role?_of_mem_waiting waits) _, ?_⟩
        · rw [past, waiting]
          rfl
        · rwa [past]
  | @forfeits token frame type waiting =>
      obtain ⟨⟨number, modifier⟩, waits, rfl⟩ := List.mem_map.1 member
      rw [read]
      refine ⟨waitsAt_last type (List.mem_map_of_mem waits), ?_⟩
      rwa [past]

theorem decided_run (recordsFaults : Bool) (items : List Item) :
    ∀ entry ∈ ((new recordsFaults).run items).decided,
      Decided recordsFaults items entry.1 entry.2 := by
  induction items using List.reverseRecOn with
  | nil => exact fun _ none => absurd none List.not_mem_nil
  | append_singleton items item ih =>
      intro entry member
      rw [run_concat, step] at member
      rcases List.mem_append.1 member with older | latest
      · exact (ih _ older).append [item]
      · have handles := ((Builder.new recordsFaults).run items).handles_handling item
        rw [builder_run] at latest
        exact decided_of_mem_decides handles latest

theorem run_append (tracked : Tracked) (first second : List Item) :
    tracked.run (first ++ second) = (tracked.run first).run second :=
  List.foldl_append

/-- Whatever an item decides stays decided. -/
theorem mem_decided_of_mem_decides {opening : Nat} {item : Item} {entry : Nat × Fate}
    (found : items[opening]? = some item)
    (member : entry ∈ ((new recordsFaults).run (items.take opening)).decides
      (((Builder.new recordsFaults).run (items.take opening)).handling item)) :
    entry ∈ ((new recordsFaults).run items).decided := by
  have next : items.take (opening + 1) = items.take opening ++ [item] := by
    rw [List.take_add_one, found]
    rfl
  have early : entry ∈ ((new recordsFaults).run (items.take (opening + 1))).decided := by
    rw [next, run_concat, step, builder_run]
    exact List.mem_append_right _ member
  have later := prefix_decided_run ((new recordsFaults).run (items.take (opening + 1)))
    (items.drop (opening + 1))
  rw [← run_append, List.take_append_drop] at later
  exact later.subset early

/-! ### Roles -/

theorem mem_decides_attached {handling : Handling} {number opening : Nat} {owner : PendingName}
    {tracked : Tracked} :
    (number, .attached opening owner) ∈ tracked.decides handling ↔
      handling = .attaches owner ∧ opening = tracked.read ∧
        ∃ modifier, (number, modifier) ∈ tracked.waiting ∧
          modifier.role ∉ tracked.builder.table.rolesOf owner.name := by
  cases handling with
  | attaches other =>
      simp only [decides, List.mem_map, Prod.mk.injEq, Prod.exists, Handling.attaches.injEq]
      constructor
      · rintro ⟨_, modifier, waits, rfl, same⟩
        split at same
        · cases same
        · rename_i fresh
          cases same
          exact ⟨rfl, rfl, modifier, waits, fresh⟩
      · rintro ⟨rfl, rfl, modifier, waits, fresh⟩
        exact ⟨number, modifier, waits, rfl, if_neg fresh⟩
  | _ => simp [decides]

theorem mem_roles_iff_waits (recordsFaults : Bool) (items : List Item) (role : Role) :
    role ∈ ((Builder.new recordsFaults).run items).roles ↔
      ∃ number modifier, (number, modifier) ∈ ((new recordsFaults).run items).waiting ∧
        modifier.role = role := by
  rw [Builder.mem_roles_run, ← map_snd_waiting_run, List.map_map, List.mem_map, Prod.exists]
  rfl

/-- A declaration attaches the modifiers whose roles the object has not yet. -/
theorem exists_attached_iff (recordsFaults : Bool) (items : List Item) (item : Item)
    (handling : Handling) (name : String) (role : Role) :
    (∃ number opening owner,
        (number, .attached opening owner) ∈ ((new recordsFaults).run items).decides handling ∧
          owner.name = name ∧ (items ++ [item])[number]?.bind Item.role? = some role) ↔
      (handling.GivesTo name ∧ role ∈ ((Builder.new recordsFaults).run items).roles) ∧
        role ∉ ((Builder.new recordsFaults).run items).table.rolesOf name := by
  have follows : ((new recordsFaults).run items).builder =
      (Builder.new recordsFaults).run items := builder_run _ items
  constructor
  · rintro ⟨number, opening, owner, decides, rfl, gives⟩
    obtain ⟨rfl, _, modifier, waiting, fresh⟩ := mem_decides_attached.1 decides
    rw [role?_append (role?_of_mem_waiting waiting)] at gives
    obtain rfl := Option.some.inj gives
    rw [follows] at fresh
    exact ⟨⟨rfl, (mem_roles_iff_waits _ _ _).2 ⟨number, modifier, waiting, rfl⟩⟩, fresh⟩
  · rintro ⟨⟨givesTo, waits⟩, fresh⟩
    cases handling with
    | attaches owner =>
        obtain rfl : owner.name = name := givesTo
        obtain ⟨number, modifier, waiting, rfl⟩ := (mem_roles_iff_waits _ _ _).1 waits
        rw [← follows] at fresh
        exact ⟨number, _, owner, mem_decides_attached.2 ⟨rfl, rfl, modifier, waiting, fresh⟩, rfl,
          role?_append (role?_of_mem_waiting waiting) [item]⟩
    | _ => cases givesTo

/-- The roles of an object are those of the modifiers that declarations of its name attached. -/
theorem mem_rolesOf_run (recordsFaults : Bool) (items : List Item) (name : String) (role : Role) :
    role ∈ ((Builder.new recordsFaults).run items).table.rolesOf name ↔
      ∃ number opening owner,
        (number, .attached opening owner) ∈ ((new recordsFaults).run items).decided ∧
          owner.name = name ∧ items[number]?.bind Item.role? = some role := by
  induction items using List.reverseRecOn with
  | nil =>
      constructor
      · exact fun none => absurd none (Roles.not_mem_through role)
      · rintro ⟨_, _, _, none, _⟩
        cases none
  | append_singleton items item ih =>
      have latest := exists_attached_iff recordsFaults items item
        (((Builder.new recordsFaults).run items).handling item) name role
      rw [Builder.run_concat, (Builder.handled_step _ item).rolesOf, run_concat, step, builder_run]
      constructor
      · intro has
        by_cases known : role ∈ ((Builder.new recordsFaults).run items).table.rolesOf name
        · obtain ⟨number, opening, owner, member, named, gives⟩ := ih.1 known
          exact ⟨number, opening, owner, List.mem_append_left _ member, named,
            role?_append gives [item]⟩
        · obtain ⟨number, opening, owner, member, rest⟩ :=
            latest.2 ⟨has.resolve_left known, known⟩
          exact ⟨number, opening, owner, List.mem_append_right _ member, rest⟩
      · rintro ⟨number, opening, owner, member, named, gives⟩
        rcases List.mem_append.1 member with member | decides
        · have early : number ∈ ((new recordsFaults).run items).numbers :=
            List.mem_append_left _ (List.mem_map_of_mem member)
          rw [List.getElem?_append_left (lt_of_mem_numbers recordsFaults items early)] at gives
          exact .inl (ih.2 ⟨number, opening, owner, member, named, gives⟩)
        · exact .inr (latest.1 ⟨number, opening, owner, decides, named, gives⟩).1

/-! ### Fates -/

theorem fate_unique {number : Nat} {first second : Fate}
    (one : (number, first) ∈ ((new recordsFaults).run items).fates)
    (other : (number, second) ∈ ((new recordsFaults).run items).fates) : first = second := by
  have nodup : (((new recordsFaults).run items).fates.map Prod.fst).Nodup := by
    rw [map_fst_fates]
    exact nodup_numbers recordsFaults items
  have same := List.inj_on_of_nodup_map nodup one other rfl
  exact (Prod.mk.inj same).2

theorem decided_of_mem_fates {number : Nat} {fate : Fate}
    (member : (number, fate) ∈ ((new recordsFaults).run items).fates) :
    Decided recordsFaults items number fate := by
  rcases List.mem_append.1 member with decided | leftover
  · exact decided_run recordsFaults items _ decided
  · obtain ⟨⟨_, modifier⟩, waits, same⟩ := List.mem_map.1 leftover
    obtain ⟨rfl, rfl⟩ := Prod.mk.inj same
    exact ⟨modifier.toToken, getElem?_of_mem_waiting recordsFaults items waits, .inl rfl⟩

/-- What is left over is reported, so every other fate was decided by an item. -/
theorem mem_decided_of_mem_fates {tracked : Tracked} {number : Nat} {fate : Fate}
    (other : fate.diagnostic? = none) (member : (number, fate) ∈ tracked.fates) :
    (number, fate) ∈ tracked.decided := by
  rcases List.mem_append.1 member with decided | leftover
  · exact decided
  · obtain ⟨_, _, same⟩ := List.mem_map.1 leftover
    obtain ⟨_, rfl⟩ := Prod.mk.inj same
    cases other

theorem mem_cited {tracked : Tracked} {number : Nat} {diagnostic : Diagnostic} :
    (number, diagnostic) ∈ tracked.cited ↔ (number, .reported diagnostic) ∈ tracked.fates := by
  rw [cited, List.mem_filterMap]
  constructor
  · rintro ⟨⟨_, fate⟩, member, same⟩
    cases fate with
    | reported made =>
        obtain ⟨rfl, rfl⟩ := Prod.mk.inj (Option.some.inj same)
        exact member
    | _ => cases same
  · intro member
    exact ⟨_, member, rfl⟩

theorem exists_of_mem_cited {tracked : Tracked} {number : Nat}
    (member : number ∈ tracked.cited.map Prod.fst) :
    ∃ diagnostic, (number, .reported diagnostic) ∈ tracked.fates := by
  obtain ⟨⟨_, diagnostic⟩, cites, rfl⟩ := List.mem_map.1 member
  exact ⟨diagnostic, mem_cited.1 cites⟩

theorem cited_sublist (fates : List (Nat × Fate)) :
    ((fates.filterMap fun entry => entry.2.diagnostic?.map (entry.1, ·)).map Prod.fst).Sublist
      (fates.map Prod.fst) := by
  induction fates with
  | nil => exact .slnil
  | cons entry fates ih =>
      obtain ⟨number, fate⟩ := entry
      cases fate with
      | reported diagnostic => exact ih.cons_cons number
      | _ => exact ih.cons number

/-- No modifier is cited twice. -/
theorem nodup_cited (recordsFaults : Bool) (items : List Item) :
    (((new recordsFaults).run items).cited.map Prod.fst).Nodup := by
  refine (cited_sublist _).nodup ?_
  rw [map_fst_fates]
  exact nodup_numbers recordsFaults items

/-- What it means that a fate befalls the modifier of that number.
- It is reported: one diagnostic is made about it, with its value and its place.
- It is attached: it waits when an opening declares the owner, it is not reported, and the object
  of the owner has not its role before and has it in the end.
- It is forfeited: it waits when an opening finds no name, and this is reported. -/
def Befalls (recordsFaults : Bool) (items : List Item) (number : Nat) (token : Token)
    (role : Role) : Fate → Prop
  | .reported diagnostic =>
    let cited := ((new recordsFaults).run items).cited
    (diagnostic = token.unattached ∨ diagnostic = token.duplicate) ∧
      (number, diagnostic) ∈ cited ∧ (cited.map Prod.fst).count number = 1
  | .attached opening owner =>
    let current := (Builder.new recordsFaults).run (items.take opening)
    WaitsAt recordsFaults items number opening ∧ current.names.head? = some owner ∧
      number ∉ ((new recordsFaults).run items).cited.map Prod.fst ∧
      role ∉ current.table.rolesOf owner.name ∧
      role ∈ (SymbolTable.ofItems recordsFaults items).rolesOf owner.name
  | .forfeited opening =>
    let current := (Builder.new recordsFaults).run (items.take opening)
    WaitsAt recordsFaults items number opening ∧ current.names = [] ∧
      ∃ token, items[opening]? = some (.token token) ∧
        current.reports (.token token) =
          [⟨.semantic (.expectedIdentifier token.value), some token.location⟩]

theorem WaitsAt.read_eq {number opening : Nat}
    (waits : WaitsAt recordsFaults items number opening) :
    ((new recordsFaults).run (items.take opening)).read = opening := by
  obtain ⟨_, _, found, _⟩ := waits.opens
  rw [read_run_new, List.length_take_of_le (List.getElem?_eq_some_iff.1 found).1.le]

theorem reports_of_bare {builder : Builder} {token : Token} {frame : Option Site → Frame}
    (opens : token.type.opens? = some frame) (waiting : builder.names = []) :
    builder.reports (.token token) =
      [⟨.semantic (.expectedIdentifier token.value), some token.location⟩] := by
  apply Builder.reports_eq
  rw [Builder.step_of_opens? opens, Builder.openBody, waiting]
  rfl

section OneModifier

variable {number : Nat} {token : Token} {role : Role} {fate : Fate}

theorem befalls_of_mem_fates (found : items[number]? = some (.token token))
    (gives : token.type.role? = some role)
    (member : (number, fate) ∈ ((new recordsFaults).run items).fates) :
    Befalls recordsFaults items number token role fate := by
  have decided := decided_of_mem_fates member
  cases fate with
  | reported diagnostic =>
      obtain ⟨same, there, concerns⟩ := decided
      obtain rfl : token = same := by
        rw [found] at there
        cases there
        rfl
      have cites := mem_cited.2 member
      refine ⟨concerns, cites, ?_⟩
      exact List.count_eq_one_of_mem (nodup_cited recordsFaults items) (List.mem_map_of_mem cites)
  | attached opening owner =>
      obtain ⟨waits, newest, other, given, fresh⟩ := decided
      rw [found] at given
      obtain rfl : role = other := Option.some.inj (gives.symm.trans given)
      refine ⟨waits, newest, ?_, fresh, ?_⟩
      · intro cites
        obtain ⟨diagnostic, reported⟩ := exists_of_mem_cited cites
        cases fate_unique member reported
      · rw [Builder.ofItems_eq]
        refine (mem_rolesOf_run recordsFaults items owner.name role).2
          ⟨number, opening, owner, ?_, rfl, ?_⟩
        · exact mem_decided_of_mem_fates rfl member
        · rw [found]
          exact gives
  | forfeited opening =>
      obtain ⟨waits, none⟩ := decided
      obtain ⟨opener, frame, there, opens⟩ := waits.opens
      exact ⟨waits, none, opener, there, reports_of_bare opens none⟩

theorem mem_fates_of_befalls (found : items[number]? = some (.token token))
    (gives : token.type.role? = some role)
    (befalls : Befalls recordsFaults items number token role fate) :
    (number, fate) ∈ ((new recordsFaults).run items).fates := by
  cases fate with
  | reported diagnostic => exact mem_cited.1 befalls.2.1
  | attached opening owner =>
      obtain ⟨waitsAt, newest, _, fresh, _⟩ := befalls
      obtain ⟨opener, frame, there, opens⟩ := waitsAt.opens
      obtain ⟨⟨_, modifier⟩, waiting, rfl⟩ := List.mem_map.1 waitsAt.waits
      obtain rfl : role = modifier.role := by
        have given := role?_append (role?_of_mem_waiting waiting) (items.drop opening)
        rw [List.take_append_drop, found] at given
        exact Option.some.inj (gives.symm.trans given)
      obtain ⟨around, names⟩ := List.head?_eq_some_iff.1 newest
      refine List.mem_append_left _ (mem_decided_of_mem_decides there ?_)
      rw [Builder.handling_of_opens? opens, names]
      refine mem_decides_attached.2 ⟨rfl, waitsAt.read_eq.symm, modifier, waiting, ?_⟩
      rwa [builder_run]
  | forfeited opening =>
      obtain ⟨waitsAt, none, _⟩ := befalls
      obtain ⟨opener, frame, there, opens⟩ := waitsAt.opens
      obtain ⟨entry, waiting, same⟩ := List.mem_map.1 waitsAt.waits
      refine List.mem_append_left _ (mem_decided_of_mem_decides there ?_)
      rw [Builder.handling_of_opens? opens, none]
      refine List.mem_map.2 ⟨entry, waiting, ?_⟩
      rw [same, waitsAt.read_eq]

end OneModifier

end Runs

end Tracked

theorem SymbolTable.mem_roles_ofItems {recordsFaults : Bool} {items : List Item} {object : Object}
    (member : object ∈ (SymbolTable.ofItems recordsFaults items).objects) (role : Role) :
    role ∈ object.roles ↔
      role ∈ (SymbolTable.ofItems recordsFaults items).rolesOf object.name := by
  have nodup : (SymbolTable.ofItems recordsFaults items).names.Nodup := by
    rw [Builder.ofItems_eq]
    exact (Builder.edits_run (Builder.ownersDeclared_new recordsFaults) List.nodup_nil
      items).nodup_names List.nodup_nil
  rw [SymbolTable.rolesOf_of_find? (SymbolTable.find?_of_mem_objects nodup member)]

/-- The modifiers that wait in a tracked build are those of the builder, each the token of its
number, and the diagnostics that it cites are all that the table has about modifiers, each about
the token of its number. One fate befalls every modifier, and the roles of an object are those of
the modifiers that were attached by declarations of its name. -/
theorem modifier_fates (recordsFaults : Bool) (items : List Item) :
    let table := SymbolTable.ofItems recordsFaults items
    let tracked (place : Nat) := (Tracked.new recordsFaults).run (items.take place)
    let cited := ((Tracked.new recordsFaults).run items).cited
    (∀ place, (tracked place).waiting.map Prod.snd =
        ((Builder.new recordsFaults).run (items.take place)).modifiers ∧
          ∀ entry ∈ (tracked place).waiting, items[entry.1]? = some (.token entry.2.toToken)) ∧
      cited.map Prod.snd = table.diagnostics.filter Diagnostic.isOfModifier ∧
      (∀ entry ∈ cited, ∃ token, items[entry.1]? = some (.token token) ∧
        (entry.2 = token.unattached ∨ entry.2 = token.duplicate)) ∧
      (∀ number token role, items[number]? = some (.token token) →
        token.type.role? = some role →
          ∃! fate, Tracked.Befalls recordsFaults items number token role fate) ∧
      ∀ object ∈ table.objects, ∀ role, role ∈ object.roles ↔
        ∃ number token opening owner, items[number]? = some (.token token) ∧
          token.type.role? = some role ∧ owner.name = object.name ∧
          Tracked.Befalls recordsFaults items number token role (.attached opening owner) := by
  intro table tracked cited
  refine ⟨?_, Tracked.cited_run _ _, ?_, ?_, ?_⟩
  · intro place
    refine ⟨Tracked.map_snd_waiting_run _ _, ?_⟩
    rintro ⟨number, modifier⟩ waits
    have found := Tracked.token_of_mem_waiting waits (items.drop place)
    rwa [List.take_append_drop] at found
  · rintro ⟨number, diagnostic⟩ member
    exact Tracked.decided_of_mem_fates (Tracked.mem_cited.1 member)
  · intro number token role found gives
    have given : items[number]?.bind Item.role? = some role := by
      rw [found]
      exact gives
    have numbered := Tracked.mem_numbers recordsFaults items given
    rw [← Tracked.map_fst_fates] at numbered
    obtain ⟨⟨_, fate⟩, member, rfl⟩ := List.mem_map.1 numbered
    refine ⟨fate, Tracked.befalls_of_mem_fates found gives member, ?_⟩
    intro other befalls
    exact Tracked.fate_unique (Tracked.mem_fates_of_befalls found gives befalls) member
  · intro object member role
    rw [SymbolTable.mem_roles_ofItems member]
    constructor
    · intro has
      rw [Builder.ofItems_eq] at has
      obtain ⟨number, opening, owner, decided, named, given⟩ :=
        (Tracked.mem_rolesOf_run recordsFaults items object.name role).1 has
      obtain ⟨item, found, gives⟩ := Option.bind_eq_some_iff.1 given
      cases item with
      | fault fault => cases gives
      | token token =>
          exact ⟨number, token, opening, owner, found, gives, named,
            Tracked.befalls_of_mem_fates found gives (List.mem_append_left _ decided)⟩
    · rintro ⟨number, token, opening, owner, _, _, named, _, _, _, _, has⟩
      rwa [← named]

/-- The text `*a(*)*a:{}:(` with modifiers of all fates: the first is attached to `a`, the second
stands in a group, the third repeats the first, the fourth is attached too, and the last is lost. -/
theorem modifier_fates_sample :
    let items : List Item :=
      [.token (sampleToken .star "*" 1), .token (sampleToken .identifier "a" 2),
        .token (sampleToken .openGroup "(" 3), .token (sampleToken .star "*" 4),
        .token (sampleToken .closeGroup ")" 5), .token (sampleToken .star "*" 6),
        .token (sampleToken .colon ":" 7), .token (sampleToken .identifier "a" 8),
        .token (sampleToken .openBlock "\x7b" 9), .token (sampleToken .closeBlock "\x7d" 10),
        .token (sampleToken .colon ":" 11), .token (sampleToken .openGroup "(" 12)]
    let owner (column : Int) : PendingName := ⟨"a", ⟨"sample", 1, column⟩, false⟩
    let object : Object := ⟨"a", some ⟨"sample", 1, 2⟩, .hub, [], []⟩
    ((Tracked.new true).run items).fates =
        [(0, .attached 2 (owner 2)), (3, .reported (sampleToken .star "*" 4).unattached),
          (5, .reported (sampleToken .star "*" 6).duplicate), (6, .attached 8 (owner 8)),
          (10, .forfeited 11)] ∧
      (∃! fate, Tracked.Befalls true items 0 (sampleToken .star "*" 1) .entryPoint fate) ∧
      (∃! fate, Tracked.Befalls true items 5 (sampleToken .star "*" 6) .entryPoint fate) ∧
      object ∈ (SymbolTable.ofItems true items).objects ∧
      ∃ number token opening owner, items[number]? = some (.token token) ∧
        token.type.role? = some .endPoint ∧ owner.name = "a" ∧
        Tracked.Befalls true items number token .endPoint (.attached opening owner) := by
  intro items owner object
  have declared : object ∈ (SymbolTable.ofItems true items).objects := by decide
  obtain ⟨_, _, _, fates, roles⟩ := modifier_fates true items
  exact ⟨by decide, fates 0 _ _ rfl rfl, fates 5 _ _ rfl rfl, declared,
    (roles object declared .endPoint).1 (by decide)⟩

end StateDescription
