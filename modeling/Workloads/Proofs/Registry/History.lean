import Mathlib.Data.List.Induction
import Workloads.Proofs.Lists
import Workloads.Proofs.Registry
import Workloads.Proofs.Text.Order
import Workloads.Registry.Guarded

/-!
# The registry is its history

Whatever the registry shows can be told from the actions that were carried out
and from what they were answered.  A key is present if an addition has entered
it and no deletion has come after; the record under it is the task that was
stored last as a whole, with the later modifications made to it in their order.
An addition and an update take their key from the task while a modification may
give the record another id, so that keys and ids can differ; all of this is
about keys.
-/

namespace Workloads.Registry

/-! ## One action -/

/-- What an action makes of the record under a key. -/
def Action.follow (key : String) (record : Option Task) :
    Action → Option Task
  | add task => if task.id = key then some (record.getD task) else record
  | update task =>
    if task.id = key then record.map (fun _ => task) else record
  | modify other change =>
    if other = key then record.map (fun task => (change task).task)
    else record
  | delete other => if other = key then none else record
  | get _ | count | isEmpty | ids => record

theorem find?_perform
    (registry : Registry) (action : Action) (key : String) :
    (registry.perform action).registry.find? key =
      action.follow key (registry.find? key) := by
  cases action with
  | add task =>
      cases found : registry.find? task.id with
      | none =>
          by_cases own : task.id = key
          · subst own
            simp [perform, add_of_absent found, Action.follow, found]
          · simp [perform, add_of_absent found, Action.follow, own]
      | some stored =>
          by_cases own : task.id = key
          · subst own
            simp [perform, add_of_present found, Action.follow, found]
          · simp [perform, add_of_present found, Action.follow, own]
  | update task =>
      cases found : registry.find? task.id with
      | none =>
          by_cases own : task.id = key
          · subst own
            simp [perform, update_of_absent found, Action.follow, found]
          · simp [perform, update_of_absent found, Action.follow, own]
      | some stored =>
          by_cases own : task.id = key
          · subst own
            simp [perform, update_of_present found, Action.follow, found]
          · simp [perform, update_of_present found, Action.follow, own]
  | modify other change =>
      cases found : registry.find? other with
      | none =>
          by_cases own : other = key
          · subst own
            simp [perform, Action.follow, found]
          · simp [perform, Action.follow, found, own]
      | some stored =>
          by_cases own : other = key
          · subst own
            simp [perform, Action.follow, found]
          · simp [perform, Action.follow, found, own]
  | delete other => simp [perform, Action.follow]
  | get other => rfl
  | count => rfl
  | isEmpty => rfl
  | ids => rfl

/-- The task that an action stores as a whole, if it is accepted. -/
def Action.whole? : Action → Option Task
  | add task | update task => some task
  | _ => none

/-- The change that an action makes to the record under a key. -/
def Action.change? (key : String) : Action → Option (Task → Edited)
  | modify other change => if other = key then some change else none
  | _ => none

/-- A record after changes, one after the other. -/
def amended (task : Task) (changes : List (Task → Edited)) : Task :=
  changes.foldl (fun task change => (change task).task) task

theorem amended_append
    (task : Task) (first second : List (Task → Edited)) :
    amended task (first ++ second) = amended (amended task first) second :=
  List.foldl_append

namespace Guarded

/-! ## Histories -/

/-- The registry after some actions, from an empty one. -/
def after (actions : List Action) : Guarded :=
  actions.foldl (fun guarded action => (guarded.perform action).guarded) {}

/-- What an action is answered that comes after others. -/
def answer (early : List Action) (action : Action) : Reply :=
  ((after early).perform action).reply

/-- The record under a key after some actions. -/
def stored (actions : List Action) (key : String) : Option Task :=
  (after actions).tasks.find? key

section

variable {early late actions : List Action} {action : Action}
  {key : String} {task : Task}

theorem after_concat (actions : List Action) (action : Action) :
    after (actions ++ [action]) = ((after actions).perform action).guarded := by
  simp [after]

theorem tasks_after_concat (actions : List Action) (action : Action) :
    (after (actions ++ [action])).tasks =
      ((after actions).tasks.perform action).registry := by
  rw [after_concat, perform, recover_acquire]

theorem answer_eq (early : List Action) (action : Action) :
    answer early action = ((after early).tasks.perform action).reply := by
  simp [answer, perform]

theorem stored_concat (actions : List Action) (action : Action)
    (key : String) :
    stored (actions ++ [action]) key =
      action.follow key (stored actions key) := by
  rw [stored, tasks_after_concat, find?_perform]
  rfl

theorem answer_add (early : List Action) (task : Task) :
    answer early (.add task) = .accepted (stored early task.id).isNone := by
  rw [answer_eq, stored]
  cases found : (after early).tasks.find? task.id with
  | none => simp [Registry.perform, add_of_absent found]
  | some stored => simp [Registry.perform, add_of_present found]

theorem answer_update (early : List Action) (task : Task) :
    answer early (.update task) =
      .accepted (stored early task.id).isSome := by
  rw [answer_eq, stored]
  cases found : (after early).tasks.find? task.id with
  | none => simp [Registry.perform, update_of_absent found]
  | some stored => simp [Registry.perform, update_of_present found]

/-! ## What a history tells -/

/-- Whether an addition enters a task under a key. -/
def Enters (early : List Action) (action : Action) (key : String) : Prop :=
  ∃ task, action = .add task ∧ task.id = key ∧
    answer early action = .accepted true

/-- Whether an addition has entered a key and no deletion has come after. -/
def Entered (actions : List Action) (key : String) : Prop :=
  ∃ early action late, actions = early ++ action :: late ∧
    Enters early action key ∧ .delete key ∉ late

/-- Whether an addition or an update stores a task as a whole. -/
def Stores (early : List Action) (action : Action) (task : Task) : Prop :=
  action.whole? = some task ∧ answer early action = .accepted true

/-- Whether a task is the one that was stored last under a key, with the later
modifications made to it in their order. -/
def Recounted (actions : List Action) (key : String) (task : Task) : Prop :=
  ∃ early action late whole, actions = early ++ action :: late ∧
    Stores early action whole ∧ whole.id = key ∧
    .delete key ∉ late ∧
    (∀ middle other rest later, late = middle ++ other :: rest →
      Stores (early ++ action :: middle) other later → later.id ≠ key) ∧
    task = amended whole (late.filterMap (Action.change? key))

/-- What an action does to the record under a key. -/
inductive Effect (early : List Action) (action : Action) (key : String) :
    Option Task → Option Task → Prop where
  | entered {task : Task} (enters : Enters early action key)
      (stores : Stores early action task) (own : task.id = key) :
      Effect early action key none (some task)
  | replaced {old task : Task} (stores : Stores early action task)
      (own : task.id = key) (other : action ≠ .delete key) :
      Effect early action key (some old) (some task)
  | deleted {record : Option Task} (own : action = .delete key) :
      Effect early action key record none
  | kept {record : Option Task} (other : action ≠ .delete key)
      (partly : ∀ task, Stores early action task → task.id ≠ key) :
      Effect early action key record
        (record.map (fun task =>
          amended task (action.change? key).toList))

/-- These are all the cases. -/
theorem effect (early : List Action) (action : Action) (key : String) :
    Effect early action key (stored early key)
      (stored (early ++ [action]) key) := by
  rw [stored_concat]
  -- Reading leaves every record alone.
  have untouched (other : action ≠ .delete key)
      (partly : ∀ task, Stores early action task → task.id ≠ key)
      (bare : action.change? key = none) :
      Effect early action key (stored early key) (stored early key) := by
    have same : Effect early action key (stored early key) _ :=
      .kept other partly
    simpa [bare, amended] using same
  cases action with
  | add task =>
      by_cases own : task.id = key
      · subst own
        cases found : stored early task.id with
        | none =>
            have accepted : answer early (.add task) = .accepted true := by
              rw [answer_add, found]
              rfl
            simp only [Action.follow, if_true, Option.getD]
            exact .entered ⟨task, rfl, rfl, accepted⟩ ⟨rfl, accepted⟩ rfl
        | some old =>
            rw [found] at untouched
            simp only [Action.follow, if_true, Option.getD]
            refine untouched nofun ?_ rfl
            rintro other ⟨_, accepted⟩
            rw [answer_add, found] at accepted
            cases accepted
      · simp only [Action.follow, own, if_false]
        refine untouched nofun ?_ rfl
        rintro other ⟨same, _⟩
        cases same
        exact own
  | update task =>
      by_cases own : task.id = key
      · subst own
        cases found : stored early task.id with
        | none =>
            rw [found] at untouched
            simp only [Action.follow, if_true, Option.map]
            refine untouched nofun ?_ rfl
            rintro other ⟨_, accepted⟩
            rw [answer_update, found] at accepted
            cases accepted
        | some old =>
            have accepted : answer early (.update task) = .accepted true := by
              rw [answer_update, found]
              rfl
            simp only [Action.follow, if_true, Option.map]
            exact .replaced ⟨rfl, accepted⟩ rfl nofun
      · simp only [Action.follow, own, if_false]
        refine untouched nofun ?_ rfl
        rintro other ⟨same, _⟩
        cases same
        exact own
  | modify other change =>
      have partly (task : Task) :
          Stores early (.modify other change) task → task.id ≠ key := by
        rintro ⟨⟨⟩, _⟩
      by_cases own : other = key
      · have changed :
            Effect early (.modify other change) key (stored early key) _ :=
          .kept nofun partly
        simpa [Action.follow, Action.change?, own, amended] using changed
      · simp only [Action.follow, own, if_false]
        exact untouched nofun partly (by simp [Action.change?, own])
  | delete other =>
      by_cases own : other = key
      · simp only [Action.follow, own, if_true]
        exact .deleted rfl
      · simp only [Action.follow, own, if_false]
        refine untouched ?_ ?_ rfl
        · rintro ⟨⟩
          exact own rfl
        · rintro task ⟨⟨⟩, _⟩
  | get _ | count | isEmpty | ids =>
      refine untouched nofun ?_ rfl
      rintro task ⟨⟨⟩, _⟩

/-! ## Presence -/

/-- A key that is absent and present later has been entered in between, and
not deleted since. -/
theorem entered_between
    (absent : stored early key = none)
    (present : stored (early ++ late) key ≠ none) :
    ∃ middle action rest, late = middle ++ action :: rest ∧
      Enters (early ++ middle) action key ∧ .delete key ∉ rest := by
  induction late using List.reverseRecOn with
  | nil =>
      rw [List.append_nil] at present
      exact absurd absent present
  | append_singleton late last hypothesis =>
      have earlier (other : last ≠ .delete key)
          (before : stored (early ++ late) key ≠ none) :
          ∃ middle action rest,
            late ++ [last] = middle ++ action :: rest ∧
              Enters (early ++ middle) action key ∧
              .delete key ∉ rest := by
        rcases hypothesis before with
          ⟨middle, action, rest, rfl, enters, kept⟩
        refine ⟨middle, action, rest ++ [last], by simp, enters, ?_⟩
        simpa [kept] using other.symm
      have effect := effect (early ++ late) last key
      rw [List.append_assoc] at effect
      generalize stored (early ++ (late ++ [last])) key = after
        at effect present
      cases before : stored (early ++ late) key with
      | none =>
          rw [before] at effect
          cases effect with
          | entered enters stores own =>
              exact ⟨late, last, [], rfl, enters, List.not_mem_nil⟩
          | deleted own => exact absurd rfl present
          | kept other partly => exact absurd rfl present
      | some old =>
          have there : stored (early ++ late) key ≠ none := by
            rw [before]
            exact Option.some_ne_none _
          rw [before] at effect
          cases effect with
          | replaced stores own other => exact earlier other there
          | deleted own => exact absurd rfl present
          | kept other partly => exact earlier other there

/-- A key that is present and not deleted stays present. -/
theorem present_of_kept
    (present : stored early key ≠ none) (kept : .delete key ∉ late) :
    stored (early ++ late) key ≠ none := by
  induction late using List.reverseRecOn with
  | nil => simpa using present
  | append_singleton late last hypothesis =>
      rw [List.mem_append, List.mem_singleton, not_or] at kept
      have there := hypothesis kept.1
      have effect := effect (early ++ late) last key
      rw [List.append_assoc] at effect
      generalize stored (early ++ (late ++ [last])) key = after at effect ⊢
      generalize stored (early ++ late) key = before at effect there
      cases effect with
      | entered enters stores own => exact Option.some_ne_none _
      | replaced stores own other => exact Option.some_ne_none _
      | deleted own => exact absurd own.symm kept.2
      | kept other partly => simpa using there

/-- A key that is present and absent later has been deleted in between while
it was present. -/
theorem deleted_between
    (present : stored early key ≠ none)
    (absent : stored (early ++ late) key = none) :
    ∃ middle rest, late = middle ++ .delete key :: rest ∧
      stored (early ++ middle) key ≠ none := by
  induction late using List.reverseRecOn with
  | nil =>
      rw [List.append_nil] at absent
      exact absurd absent present
  | append_singleton late last hypothesis =>
      by_cases before : stored (early ++ late) key = none
      · rcases hypothesis before with ⟨middle, rest, rfl, there⟩
        exact ⟨middle, rest ++ [last], by simp, there⟩
      · have effect := effect (early ++ late) last key
        rw [List.append_assoc, absent] at effect
        generalize record : stored (early ++ late) key = old
          at effect before
        generalize after : (none : Option Task) = new at effect
        cases effect with
        | entered enters stores own => cases after
        | replaced stores own other => cases after
        | deleted own =>
            subst own
            refine ⟨late, [], rfl, ?_⟩
            rw [record]
            exact before
        | kept other partly =>
            exact absurd (Option.map_eq_none_iff.mp after.symm) before

theorem present_of_enters (enters : Enters early action key) :
    stored (early ++ [action]) key ≠ none := by
  rcases enters with ⟨task, rfl, rfl, accepted⟩
  rw [stored_concat]
  simp [Action.follow]

/-- What is entered was absent. -/
theorem absent_of_enters (enters : Enters early action key) :
    stored early key = none := by
  rcases enters with ⟨task, rfl, rfl, accepted⟩
  rw [answer_add] at accepted
  simpa using accepted

/-- A key is present if and only if it has been entered and not deleted
since. -/
theorem stored_ne_none_iff :
    stored actions key ≠ none ↔ Entered actions key := by
  constructor
  · intro present
    have nothing : stored [] key = none := rfl
    rcases entered_between nothing present with
      ⟨early, action, late, whole, enters, kept⟩
    exact ⟨early, action, late, whole, enters, kept⟩
  · rintro ⟨early, action, late, rfl, enters, kept⟩
    rw [List.append_cons]
    exact present_of_kept (present_of_enters enters) kept

/-! ## Records -/

theorem stored_of_stores (stores : Stores early action task) :
    stored (early ++ [action]) task.id = some task := by
  have whole := stores.1
  have effect := effect early action task.id
  generalize stored (early ++ [action]) task.id = after at effect ⊢
  generalize stored early task.id = before at effect
  cases effect with
  | entered enters other own =>
      cases whole.symm.trans other.1
      rfl
  | replaced other own apart =>
      cases whole.symm.trans other.1
      rfl
  | deleted own =>
      subst own
      cases whole
  | kept other partly => exact absurd rfl (partly task stores)

/-- As long as a record is neither deleted nor replaced it is only modified. -/
theorem stored_of_kept {whole : Task}
    (found : stored early key = some whole)
    (kept : .delete key ∉ late)
    (last : ∀ middle other rest later, late = middle ++ other :: rest →
      Stores (early ++ middle) other later → later.id ≠ key) :
    stored (early ++ late) key =
      some (amended whole (late.filterMap (Action.change? key))) := by
  induction late using List.reverseRecOn with
  | nil => simpa [amended] using found
  | append_singleton late final hypothesis =>
      rw [List.mem_append, List.mem_singleton, not_or] at kept
      have before := hypothesis kept.1 (by
        intro middle other rest later split
        exact last middle other (rest ++ [final]) later (by simp [split]))
      have effect := effect (early ++ late) final key
      rw [List.append_assoc, before] at effect
      generalize stored (early ++ (late ++ [final])) key = after at effect ⊢
      cases effect with
      | replaced stores own other =>
          exact absurd own (last late final [] _ rfl stores)
      | deleted own => exact absurd own.symm kept.2
      | kept other partly =>
          rw [filterMap_concat, amended_append]
          rfl

/-- The last stored task is still the last one after an action that neither
stores another task nor deletes the key. -/
theorem Recounted.concat (told : Recounted actions key task)
    (other : action ≠ .delete key)
    (partly : ∀ later, Stores actions action later → later.id ≠ key) :
    Recounted (actions ++ [action]) key
      (amended task (action.change? key).toList) := by
  rcases told with
    ⟨early, storing, late, whole, rfl, stores, own, kept, last, rfl⟩
  refine ⟨early, storing, late ++ [action], whole, by simp, stores, own,
    by simpa [kept] using other.symm, ?_, ?_⟩
  · intro middle next rest later split storesLater
    rcases append_cons_eq_concat split.symm with
      ⟨rfl, rfl⟩ | ⟨shorter, whole⟩
    · exact partly later storesLater
    · exact last middle next shorter later whole.symm storesLater
  · rw [filterMap_concat, amended_append]

/-- The record under a key is the task that was stored last, with the later
modifications. -/
theorem stored_eq_some_iff :
    stored actions key = some task ↔ Recounted actions key task := by
  constructor
  · intro found
    induction actions using List.reverseRecOn generalizing task with
    | nil => cases found
    | append_singleton actions last hypothesis =>
        have effect := effect actions last key
        rw [found] at effect
        generalize before : stored actions key = record at effect
        generalize result : some task = shown at effect
        cases effect with
        | entered enters stores own =>
            cases result
            exact ⟨actions, last, [], task, rfl, stores, own,
              List.not_mem_nil, by simp, rfl⟩
        | replaced stores own other =>
            cases result
            exact ⟨actions, last, [], task, rfl, stores, own,
              List.not_mem_nil, by simp, rfl⟩
        | deleted own => cases result
        | kept other partly =>
            rcases Option.map_eq_some_iff.mp result.symm with
              ⟨old, rfl, rfl⟩
            exact (hypothesis before).concat other partly
  · rintro
      ⟨early, action, late, whole, rfl, stores, rfl, kept, last, rfl⟩
    rw [List.append_cons]
    refine stored_of_kept (stored_of_stores stores) kept ?_
    intro middle other rest later split
    rw [← List.append_cons]
    exact last middle other rest later split

/-! ## Rivals -/

/-- Of two additions in a stretch without an effective deletion the later one
finds the key present, so that it does not enter it. -/
theorem not_enters_twice {left right : Nat} {first second : Action}
    (only : ∀ before rest, late = before ++ .delete key :: rest →
      stored (early ++ before) key = none)
    (here : late[left]? = some first)
    (firstEnters : Enters (early ++ late.take left) first key)
    (secondEnters : Enters (early ++ late.take right) second key) :
    ¬left < right := by
  intro below
  rcases exists_split_of_getElem? here with ⟨front, back, rfl, rfl⟩
  obtain ⟨distance, rfl⟩ := Nat.exists_eq_add_of_lt below
  rw [List.take_left] at firstEnters
  have further :
      early ++ (front ++ first :: back).take (front.length + distance + 1) =
        early ++ front ++ [first] ++ back.take distance := by
    rw [Nat.add_assoc, List.take_length_add_append]
    simp
  rw [further] at secondEnters
  rcases deleted_between (present_of_enters firstEnters)
      (absent_of_enters secondEnters) with
    ⟨between, others, split, present⟩
  have whole :
      back = between ++ .delete key :: (others ++ back.drop distance) := by
    have parts := List.take_append_drop distance back
    rw [split] at parts
    simpa using parts.symm
  have absent := only (front ++ first :: between)
    (others ++ back.drop distance) (by
      rw [List.append_assoc, List.cons_append, ← whole])
  exact present (by simpa using absent)

/-- Between an absence and a later presence, with no effective deletion in
between, exactly one addition enters the key. -/
theorem enters_unique
    (absent : stored early key = none)
    (present : stored (early ++ late) key ≠ none)
    (only : ∀ before rest, late = before ++ .delete key :: rest →
      stored (early ++ before) key = none) :
    ∃! index, ∃ action, late[index]? = some action ∧
      Enters (early ++ late.take index) action key := by
  rcases entered_between absent present with
    ⟨before, action, rest, rfl, enters, _⟩
  have place : (before ++ action :: rest)[before.length]? = some action := by
    simp
  have mine :
      Enters (early ++ (before ++ action :: rest).take before.length) action
        key := by
    rw [List.take_left]
    exact enters
  refine ⟨before.length, ⟨action, place, mine⟩, ?_⟩
  rintro index ⟨other, there, others⟩
  apply Nat.le_antisymm
  · exact Nat.le_of_not_lt (not_enters_twice only place mine others)
  · exact Nat.le_of_not_lt (not_enters_twice only there others mine)

end

/-! ## Histories of the registry -/

/-- What the actions up to now tell of the registry, of the answers that it
gives next, and of what a refused action leaves. -/
structure Told (actions : List Action) : Prop where
  /-- A key is present if and only if it has been entered and not deleted
  since. -/
  present :
    ∀ key, stored actions key ≠ none ↔ Entered actions key
  /-- The record is the task that was stored last, with the later
  modifications in their order; this is what a look-up answers. -/
  recounted :
    ∀ key, answer actions (.get key) = .record (stored actions key) ∧
      ∀ task, stored actions key = some task ↔ Recounted actions key task
  /-- An addition is accepted if and only if its key is absent, and changes
  nothing otherwise. -/
  added :
    ∀ task, ∃ accepted,
      answer actions (.add task) = .accepted accepted ∧
        (accepted = true ↔ ¬Entered actions task.id) ∧
        (accepted = false →
          (after (actions ++ [.add task])).tasks = (after actions).tasks)
  /-- An update is accepted if and only if its key is present, and changes
  nothing otherwise. -/
  updated :
    ∀ task, ∃ accepted,
      answer actions (.update task) = .accepted accepted ∧
        (accepted = true ↔ Entered actions task.id) ∧
        (accepted = false →
          (after (actions ++ [.update task])).tasks = (after actions).tasks)
  /-- A modification answers nothing if and only if its key is absent; it then
  changes nothing, and comes to the same whatever its code is. -/
  unmodified :
    ∀ key change,
      (answer actions (.modify key change) = .modified none ↔
          ¬Entered actions key) ∧
        (¬Entered actions key →
          (after (actions ++ [.modify key change])).tasks =
              (after actions).tasks ∧
            ∀ other,
              (after actions).perform (.modify key other) =
                (after actions).perform (.modify key change))
  /-- Between two effective deletions of a key, with no other one in between,
  exactly one addition enters it. -/
  winner :
    ∀ early middle key, actions = early ++ [.delete key] ++ middle →
      stored early key ≠ none → stored actions key ≠ none →
      (∀ before rest, middle = before ++ .delete key :: rest →
        stored (early ++ [.delete key] ++ before) key = none) →
        ∃! index, ∃ action, middle[index]? = some action ∧
          Enters (early ++ [.delete key] ++ middle.take index) action key
  /-- After a deletion only an addition brings a key back. -/
  revived :
    ∀ early late key, actions = early ++ [.delete key] ++ late →
      stored actions key ≠ none →
        ∃ before action rest, late = before ++ action :: rest ∧
          Enters (early ++ [.delete key] ++ before) action key
  /-- The ids are the present keys in increasing order of their octets, and
  their number is the size. -/
  listed :
    ∃ ids, answer actions .ids = .keys ids ∧
      (ids.map Bytes.ofText).Pairwise (fun left right => left < right) ∧
      (∀ key, key ∈ ids ↔ Entered actions key) ∧
      answer actions .count = .number ids.length ∧
      answer actions .isEmpty = .truth ids.isEmpty

section

variable {actions : List Action}

theorem absent_iff {key : String} :
    stored actions key = none ↔ ¬Entered actions key := by
  rw [← stored_ne_none_iff, not_not]

theorem stored_deleted (early : List Action) (key : String) :
    stored (early ++ [.delete key]) key = none := by
  rw [stored_concat]
  simp [Action.follow]

/-- An addition that is refused changes nothing. -/
theorem add_refused {task : Task}
    (found : stored actions task.id ≠ none) :
    (after (actions ++ [.add task])).tasks = (after actions).tasks := by
  rcases Option.ne_none_iff_exists'.mp found with ⟨old, present⟩
  rw [tasks_after_concat, Registry.perform, add_of_present present]

/-- An update that is refused changes nothing. -/
theorem update_refused {task : Task}
    (absent : stored actions task.id = none) :
    (after (actions ++ [.update task])).tasks = (after actions).tasks := by
  have missing : (after actions).tasks.find? task.id = none := absent
  rw [tasks_after_concat, Registry.perform, update_of_absent missing]

/-- A modification of an absent key does not look at its code. -/
theorem modify_absent {key : String} (absent : stored actions key = none)
    (change : Task → Edited) :
    (after actions).tasks.perform (.modify key change) =
      { reply := .modified none, registry := (after actions).tasks } := by
  have missing : (after actions).tasks.find? key = none := absent
  simp [Registry.perform, missing]

end

/-- The registry is its history. -/
theorem told (actions : List Action) : Told actions where
  present key := stored_ne_none_iff
  recounted key := by
    constructor
    · rw [answer_eq]
      rfl
    · intro task
      exact stored_eq_some_iff
  added task := by
    refine ⟨_, answer_add actions task, ?_, ?_⟩
    · rw [Option.isNone_iff_eq_none]
      exact absent_iff
    · intro refused
      apply add_refused
      intro absent
      rw [absent] at refused
      cases refused
  updated task := by
    refine ⟨_, answer_update actions task, ?_, ?_⟩
    · rw [Option.isSome_iff_ne_none]
      exact stored_ne_none_iff
    · intro refused
      apply update_refused
      simpa using refused
  unmodified key change := by
    constructor
    · rw [← absent_iff, answer_eq]
      cases found : stored actions key with
      | none => simp [modify_absent found]
      | some task =>
          have present : (after actions).tasks.find? key = some task := found
          simp only [Registry.perform, present]
          split <;> simp
    · intro unentered
      have absent := absent_iff.mpr unentered
      constructor
      · rw [tasks_after_concat, modify_absent absent]
      · intro other
        simp [perform, modify_absent absent]
  winner early middle key split effective present only := by
    subst split
    exact enters_unique (stored_deleted early key) present only
  revived early late key split present := by
    subst split
    rcases entered_between (stored_deleted early key) present with
      ⟨before, action, rest, whole, enters, _⟩
    exact ⟨before, action, rest, whole, enters⟩
  listed := by
    refine ⟨(after actions).tasks.keys, ?_, ?_, ?_, ?_, ?_⟩
    · rw [answer_eq]
      rfl
    · rw [List.pairwise_map]
      exact (KeyMap.keys_ordered _).imp Bytes.ofText_lt
    · intro key
      rw [KeyMap.mem_keys, Option.isSome_iff_ne_none]
      exact stored_ne_none_iff
    · rw [answer_eq, KeyMap.keys, List.length_map]
      rfl
    · rw [answer_eq, KeyMap.keys]
      cases entries : (after actions).tasks.entries with
      | nil => simp [Registry.perform, KeyMap.size, entries]
      | cons first rest => simp [Registry.perform, KeyMap.size, entries]

end Guarded

end Workloads.Registry
