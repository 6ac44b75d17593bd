import Workloads.Proofs.Registry.History
import Workloads.Proofs.Registry.Interruption

/-!
# Poison never shows

A registry behind its lock answers as one does that has no lock and whose
modifications never break off, whatever has broken off before: instead of code
that breaks off there are the changes it makes until then.  The operations
without a lock are those by which tasks live, so that these may look at the
registry alone.
-/

namespace Workloads.Registry

/-! ## Maps without a lock -/

/-- An operation on a map without a lock; the code of a modification runs to its
end. -/
inductive Plain where
  | get (key : String)
  | add (task : Task)
  | update (task : Task)
  | modify (key : String) (change : Task → Task)
  | delete (key : String)
  | count
  | isEmpty
  | ids

namespace Plain

/-- What an operation answers and leaves, by look-ups, entries and erasures. -/
def perform (map : KeyMap Task) : Plain → Reply × KeyMap Task
  | get key => (.record (map.get? key), map)
  | add task =>
    match map.get? task.id with
    | none => (.accepted true, map.insert task.id task)
    | some _ => (.accepted false, map)
  | update task =>
    match map.get? task.id with
    | none => (.accepted false, map)
    | some _ => (.accepted true, map.insert task.id task)
  | modify key change =>
    match map.get? key with
    | none => (.modified none, map)
    | some task =>
      (.modified (some (change task)), map.insert key (change task))
  | delete key => (.done, map.erase key)
  | count => (.number map.keys.length, map)
  | isEmpty => (.truth map.keys.isEmpty, map)
  | ids => (.keys map.keys, map)

/-- The map after some operations, from an empty one. -/
def after (actions : List Plain) : KeyMap Task :=
  actions.foldl (fun map action => (action.perform map).2) ∅

end Plain

/-- The operation without a lock: instead of code that breaks off it has the
changes made until then. -/
def Action.plain : Action → Plain
  | get key => .get key
  | add task => .add task
  | update task => .update task
  | modify key change => .modify key (fun task => (change task).task)
  | delete key => .delete key
  | count => .count
  | isEmpty => .isEmpty
  | ids => .ids

/-- Whether an operation is a modification whose own code breaks off. -/
def Action.BreaksOff (registry : Registry) (action : Action) : Prop :=
  ∃ key change task, action = .modify key change ∧
    registry.find? key = some task ∧ (change task).panicked = true

/-! ## One operation -/

theorem breaksOff_modify {registry : Registry} {key : String}
    {change : Task → Edited} {task : Task}
    (found : registry.find? key = some task) :
    (Action.modify key change).BreaksOff registry ↔
      (change task).panicked = true := by
  simp [Action.BreaksOff, found]

/-- An operation leaves what it leaves without a lock, and unless it fails it
answers the same. -/
theorem perform_plain (registry : Registry) (action : Action) :
    (registry.perform action).registry =
        (action.plain.perform registry).2 ∧
      (¬action.BreaksOff registry →
        (registry.perform action).reply =
          (action.plain.perform registry).1) := by
  cases action with
  | add task =>
      cases found : registry.get? task.id with
      | none =>
          simp [perform, Action.plain, Plain.perform, found,
            add_of_absent found]
      | some stored =>
          simp [perform, Action.plain, Plain.perform, found,
            add_of_present found]
  | update task =>
      cases found : registry.get? task.id with
      | none =>
          simp [perform, Action.plain, Plain.perform, found,
            update_of_absent found]
      | some stored =>
          simp [perform, Action.plain, Plain.perform, found,
            update_of_present found]
  | modify key change =>
      cases found : registry.get? key with
      | none =>
          simp [perform, find?, Action.plain, Plain.perform, found]
      | some task =>
          rw [breaksOff_modify found]
          simp +contextual [perform, find?, Action.plain, Plain.perform,
            found]
  | count =>
      simp [perform, Action.plain, Plain.perform, KeyMap.size, KeyMap.keys]
  | isEmpty =>
      refine ⟨rfl, fun _ => ?_⟩
      simp only [perform, Action.plain, Plain.perform, KeyMap.size,
        KeyMap.keys]
      cases registry.entries <;> rfl
  | get _ | delete _ | ids => exact ⟨rfl, fun _ => rfl⟩

/-- An operation fails if and only if its own code breaks off. -/
theorem reply_eq_broken_iff (registry : Registry) (action : Action) :
    (registry.perform action).reply = .broken ↔
      action.BreaksOff registry := by
  cases action with
  | modify key change =>
      cases found : registry.find? key with
      | none => simp [perform, Action.BreaksOff, found]
      | some task => simp [perform, breaksOff_modify found, found]
  | get _ | add _ | update _ | delete _ | count | isEmpty | ids =>
      simp [perform, Action.BreaksOff]

namespace Guarded

/-! ## All operations -/

/-- Behind the lock stands what stands there without one. -/
theorem tasks_after (actions : List Action) :
    (after actions).tasks = Plain.after (actions.map Action.plain) := by
  induction actions using List.reverseRecOn with
  | nil => rfl
  | append_singleton actions last hypothesis =>
      rw [tasks_after_concat, (perform_plain _ _).1, hypothesis,
        List.map_append, Plain.after, Plain.after, List.foldl_append]
      rfl

/-- The lock is poisoned if and only if some operation has broken off. -/
theorem poisoned_after_iff (actions : List Action) :
    (after actions).poisoned = true ↔
      ∃ early action late, actions = early ++ action :: late ∧
        answer early action = .broken := by
  induction actions using List.reverseRecOn with
  | nil => simp [after]
  | append_singleton actions last hypothesis =>
      have marked : (after (actions ++ [last])).poisoned =
          ((after actions).poisoned || answer actions last == .broken) := by
        rw [after_concat, answer, perform]
      rw [marked, Bool.or_eq_true, hypothesis, beq_iff_eq]
      constructor
      · rintro (⟨early, action, late, rfl, broken⟩ | broken)
        · exact ⟨early, action, late ++ [last], by simp, broken⟩
        · exact ⟨actions, last, [], rfl, broken⟩
      · rintro ⟨early, action, late, whole, broken⟩
        rcases append_cons_eq_concat whole.symm with
          ⟨rfl, rfl⟩ | ⟨rest, split⟩
        · exact .inr broken
        · exact .inl ⟨early, action, rest, split.symm, broken⟩

/-- What operations leave of earlier failures and of their own. -/
structure Unmarred (early : List Action) (action : Action) : Prop where
  /-- The lock remembers whether an operation has broken off. -/
  poisoned :
    (after early).poisoned = true ↔
      ∃ before broken rest, early = before ++ broken :: rest ∧
        answer before broken = .broken
  /-- All the same the records are those of a registry without a lock. -/
  records : (after early).tasks = Plain.after (early.map Action.plain)
  /-- An operation fails if and only if its own code breaks off. -/
  fails :
    answer early action = .broken ↔
      action.BreaksOff (Plain.after (early.map Action.plain))
  /-- Otherwise it answers what it answers without a lock. -/
  answers :
    ¬action.BreaksOff (Plain.after (early.map Action.plain)) →
      answer early action =
        (action.plain.perform (Plain.after (early.map Action.plain))).1
  /-- A modification keeps the keys and the other records, whether its code
  breaks off or not. -/
  confined :
    ∀ key change, action = .modify key change →
      (after (early ++ [action])).tasks.ids = (after early).tasks.ids ∧
        ∀ other ≠ key, stored (early ++ [action]) other = stored early other
  /-- Without a lock a series of edits is made up to its first failure. -/
  made :
    ∀ key edits, action = .modify key (fun task => task.edit edits) →
      action.plain = .modify key (Edit.applyAll (Edit.made edits))

/-- Whatever has broken off before, a registry behind its lock answers as one
without a lock. -/
theorem poison_never_shows (early : List Action) (action : Action) :
    Unmarred early action where
  poisoned := poisoned_after_iff early
  records := tasks_after early
  fails := by
    rw [answer_eq, reply_eq_broken_iff, tasks_after]
  answers runs := by
    rw [← tasks_after] at runs ⊢
    rw [answer_eq, (perform_plain _ _).2 runs]
  confined key change own := by
    have left : (after (early ++ [action])).tasks =
        (after early).modified key change := by
      rw [own, after_concat, modified]
    constructor
    · rw [left, ids_modified]
    · intro other apart
      rw [stored, left, find?_modified_of_ne apart, stored]
  made key edits own := by
    subst own
    simp only [Action.plain, Task.edit_eq]

end Guarded

end Workloads.Registry
