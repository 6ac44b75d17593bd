import Workloads.Proofs.KeyMap
import Workloads.Proofs.Registry
import Workloads.Proofs.Task.Edits
import Workloads.Registry.Guarded

/-!
# Modifications that break off

A record is modified where it is stored, one change after the other, and the
lock that was held is recovered as it was left.  So code that breaks off leaves
the changes it has made: the keys and all other records are the old ones, but
the registry is the old one only if the record has come back to what it was.
-/

namespace Workloads.Registry.Guarded

variable {guarded : Guarded} {key : String} {change : Task → Edited}
  {task : Task}

/-! ## One modification -/

/-- The registry after a modification, whether its code breaks off or not. -/
def modified (guarded : Guarded) (key : String) (change : Task → Edited) :
    Registry :=
  (guarded.perform (.modify key change)).guarded.tasks

theorem perform_modify_of_absent
    (absent : guarded.tasks.find? key = none) (change : Task → Edited) :
    guarded.perform (.modify key change) =
      { reply := .modified none, guarded, events := [] } := by
  have quiet : (Reply.modified none == Reply.broken) = false := rfl
  simp [perform, Registry.perform, absent, quiet]

theorem perform_modify_of_broken
    (found : guarded.tasks.find? key = some task)
    (broken : (change task).panicked = true) :
    guarded.perform (.modify key change) =
      { reply := .broken
        guarded :=
          { tasks := guarded.tasks.insert key (change task).task
            poisoned := true }
        events := [] } := by
  simp [perform, Registry.perform, found, broken]

theorem modified_of_absent
    (absent : guarded.tasks.find? key = none) (change : Task → Edited) :
    guarded.modified key change = guarded.tasks := by
  rw [modified, perform_modify_of_absent absent]

theorem modified_of_present
    (found : guarded.tasks.find? key = some task)
    (change : Task → Edited) :
    guarded.modified key change =
      guarded.tasks.insert key (change task).task := by
  simp [modified, perform, Registry.perform, found]

/-- No key is gained or lost. -/
theorem ids_modified (guarded : Guarded) (key : String)
    (change : Task → Edited) :
    (guarded.modified key change).ids = guarded.tasks.ids := by
  cases found : guarded.tasks.find? key with
  | none => rw [modified_of_absent found]
  | some task =>
      rw [modified_of_present found]
      exact KeyMap.keys_insert_of_present (Option.isSome_of_eq_some found) _

/-- The other records are the old ones. -/
theorem find?_modified_of_ne {other : String} (apart : other ≠ key)
    (change : Task → Edited) :
    (guarded.modified key change).find? other =
      guarded.tasks.find? other := by
  cases found : guarded.tasks.find? key with
  | none => rw [modified_of_absent found]
  | some task =>
      rw [modified_of_present found, find?_insert, if_neg (Ne.symm apart)]

/-- The registry is the old one if and only if the record is. -/
theorem modified_eq_iff :
    guarded.modified key change = guarded.tasks ↔
      ∀ task, guarded.tasks.find? key = some task →
        (change task).task = task := by
  cases found : guarded.tasks.find? key with
  | none => simp [modified_of_absent found]
  | some task =>
      rw [modified_of_present found, KeyMap.insert_eq_self_iff, ← find?,
        found, Option.some_inj]
      simp [eq_comm]

/-! ## Code that breaks off -/

/-- What a modification answers and leaves whose code breaks off. -/
structure Interrupted (guarded : Guarded) (key : String)
    (change : Task → Edited) : Prop where
  /-- The code is not run where the key is absent. -/
  absent :
    guarded.tasks.find? key = none →
      guarded.perform (.modify key change) =
        { reply := .modified none, guarded, events := [] }
  /-- Where it is present the failure is passed on and remembered, and the
  changes made before it stay. -/
  present :
    ∀ task, guarded.tasks.find? key = some task →
      (guarded.perform (.modify key change)).reply = .broken ∧
        (guarded.perform (.modify key change)).guarded.poisoned = true ∧
        (guarded.modified key change).find? key = some (change task).task
  /-- No key is gained or lost. -/
  keys : (guarded.modified key change).ids = guarded.tasks.ids
  /-- The other records are the old ones. -/
  others :
    ∀ other ≠ key,
      (guarded.modified key change).find? other = guarded.tasks.find? other
  /-- The registry is the old one if and only if the record is. -/
  spared :
    guarded.modified key change = guarded.tasks ↔
      ∀ task, guarded.tasks.find? key = some task → (change task).task = task
  /-- Of a series of edits that is the case if and only if the last value put
  into each field before the failure is the one that was there. -/
  restored :
    ∀ edits, change = (fun task => task.edit edits) →
      (guarded.modified key change = guarded.tasks ↔
        ∀ task, guarded.tasks.find? key = some task →
          Edit.Restore (Edit.made edits) task)

/-- A modification whose code breaks off where the record is stored is not
undone. -/
theorem modification_interrupted
    (breaks : ∀ task, guarded.tasks.find? key = some task →
      (change task).panicked = true) :
    Interrupted guarded key change where
  absent absent := perform_modify_of_absent absent change
  present task found := by
    rw [modified, perform_modify_of_broken found (breaks task found)]
    exact ⟨rfl, rfl, by simp⟩
  keys := ids_modified guarded key change
  others other apart := find?_modified_of_ne apart change
  spared := modified_eq_iff
  restored edits written := by
    rw [modified_eq_iff]
    subst written
    simp only [Task.edit_eq, Edit.applyAll_eq_self_iff]

/-! A task that runs is ended in two ways that break off: in the one its old
status has been put back before, in the other it has ended and no reason is
recorded yet. -/

/-- The task. -/
def runningTask : Task :=
  { Task.ofSpec { id := "a", label := "b" } with
    status := .running
    containerId := some "c" }

/-- A registry that holds nothing but the task. -/
def runningRegistry : Guarded :=
  { tasks := Registry.add ∅ runningTask |>.2 }

/-- The task is ended and runs again before the failure. -/
def undoneEdits : List Edit :=
  [.setStatus .terminated, .setStatus .running, .panic]

/-- The task is ended, and the failure comes before the reason. -/
def halfDoneEdits : List Edit :=
  [.setStatus .terminated, .panic, .setReason (some "done"),
    .setMessage (some "")]

theorem running_found :
    runningRegistry.tasks.find? "a" = some runningTask := by
  have absent : find? ∅ runningTask.id = none := rfl
  rw [runningRegistry, add_of_absent absent]
  exact (find?_insert ∅ "a" "a" runningTask).trans (if_pos rfl)

theorem modification_interrupted_undone :
    runningRegistry.tasks.find? "a" = some runningTask ∧
      (runningTask.edit undoneEdits).panicked = true ∧
      runningRegistry.modified "a" (fun task => task.edit undoneEdits) =
        runningRegistry.tasks := by
  have breaks (task : Task) : (task.edit undoneEdits).panicked = true :=
    rfl
  have interrupted : Interrupted runningRegistry "a"
      (fun task => task.edit undoneEdits) :=
    modification_interrupted (fun task _ => breaks task)
  refine ⟨running_found, breaks _, (interrupted.restored _ rfl).mpr ?_⟩
  intro task found
  cases running_found.symm.trans found
  constructor
  case status =>
    rintro value ⟨⟩
    rfl
  all_goals rintro value ⟨⟩

theorem interrupted_termination_half_done :
    runningRegistry.tasks.find? "a" = some runningTask ∧
      (runningTask.edit halfDoneEdits).panicked = true ∧
      (runningRegistry.modified "a"
          (fun task => task.edit halfDoneEdits)).find? "a" =
        some { runningTask with status := .terminated } ∧
      runningRegistry.modified "a" (fun task => task.edit halfDoneEdits) ≠
        runningRegistry.tasks := by
  have left : runningTask.edit halfDoneEdits =
      { task := { runningTask with status := .terminated }
        panicked := true } :=
    rfl
  have broken : (runningTask.edit halfDoneEdits).panicked = true := by
    rw [left]
  have found :
      (runningRegistry.modified "a"
          (fun task => task.edit halfDoneEdits)).find? "a" =
        some { runningTask with status := .terminated } := by
    rw [modified_of_present running_found, left]
    simp
  refine ⟨running_found, broken, found, ?_⟩
  intro same
  rw [same, running_found, Option.some_inj] at found
  have statuses := congrArg Task.status found
  exact absurd statuses (by decide)

end Workloads.Registry.Guarded
