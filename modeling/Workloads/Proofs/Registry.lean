import Workloads.Registry.Basic

/-!
# Laws of the registry

What each registry operation leaves under each key.  The operations of the
worker look at records through `find?` only, so these laws are all that the
later modules know about the registry.
-/

namespace Workloads

/-! ## Look-up -/

namespace Registry

@[simp]
theorem find?_insert
    (registry : Registry) (key other : String) (task : Task) :
    Registry.find? (registry.insert key task) other =
      if key = other then some task else registry.find? other :=
  KeyMap.get?_insert registry key other task

@[simp]
theorem find?_delete
    (registry : Registry) (key other : String) :
    (registry.delete key).find? other =
      if key = other then none else registry.find? other :=
  KeyMap.get?_erase registry key other

/-- What is found after a deletion was there before. -/
theorem find?_of_delete
    {registry : Registry} {key other : String} {task : Task}
    (found : Registry.find? (registry.delete key) other = some task) :
    registry.find? other = some task := by
  rw [find?_delete] at found
  exact (Option.ite_none_left_eq_some.mp found).2

/-- An insertion that changes what is found has been made there. -/
theorem find?_insert_changed
    {registry : Registry} {key other : String} {old new task : Task}
    (before : registry.find? other = some old)
    (after : Registry.find? (registry.insert key task) other = some new)
    (changed : new ≠ old) :
    key = other ∧ new = task := by
  rw [find?_insert] at after
  by_cases own : key = other
  · rw [if_pos own] at after
    cases after
    exact ⟨own, rfl⟩
  · rw [if_neg own, before] at after
    cases after
    exact absurd rfl changed

/-! ## Changes -/

theorem add_of_absent
    {registry : Registry} {task : Task}
    (absent : registry.find? task.id = none) :
    registry.add task = (true, registry.insert task.id task) := by
  simp [add, has, absent]

theorem add_of_present
    {registry : Registry} {task stored : Task}
    (found : registry.find? task.id = some stored) :
    registry.add task = (false, registry) := by
  simp [add, has, found]

theorem update_of_absent
    {registry : Registry} {task : Task}
    (absent : registry.find? task.id = none) :
    registry.update task = (false, registry) := by
  simp [update, has, absent]

theorem update_of_present
    {registry : Registry} {task stored : Task}
    (found : registry.find? task.id = some stored) :
    registry.update task = (true, registry.insert task.id task) := by
  simp [update, has, found]

theorem modify_of_absent
    {registry : Registry} {key : String} {change : Task → Task}
    (absent : registry.find? key = none) :
    registry.modify key change = (none, registry) := by
  simp [modify, absent]

theorem modify_of_present
    {registry : Registry} {key : String} {task : Task}
    {change : Task → Task}
    (found : registry.find? key = some task) :
    registry.modify key change =
      (some (change task), registry.insert key (change task)) := by
  simp [modify, found]

end Registry

/-! ## Records -/

@[simp]
theorem Status.isFinal_eq_false_iff (status : Status) :
    status.isFinal = false ↔ status ≠ terminated := by
  cases status <;> simp [isFinal]

namespace Task

@[simp]
theorem settle_id (task : Task) (reason message : String) :
    (task.settle reason message).id = task.id := by
  rw [settle]
  split <;> rfl

@[simp]
theorem settle_containerId (task : Task) (reason message : String) :
    (task.settle reason message).containerId = task.containerId := by
  rw [settle]
  split <;> rfl

/-- Whatever it was before, a settled task has ended. -/
@[simp]
theorem settle_status (task : Task) (reason message : String) :
    (task.settle reason message).status = .terminated := by
  rw [settle]
  split
  next ended => exact (Status.isFinal_iff _).mp ended
  next => rfl

theorem settle_of_ended
    {task : Task} (ended : task.status = .terminated)
    (reason message : String) :
    task.settle reason message = task := by
  simp [settle, ended, Status.isFinal]

theorem settle_of_live
    {task : Task} (live : task.status ≠ .terminated)
    (reason message : String) :
    task.settle reason message = task.terminate reason message := by
  simp [settle, live]

@[simp]
theorem started_id (task : Task) (container : String) :
    (task.started container).id = task.id := by
  rw [started]
  split <;> rfl

@[simp]
theorem started_containerId (task : Task) (container : String) :
    (task.started container).containerId = some container := by
  rw [started]
  split <;> rfl

theorem started_of_ended
    {task : Task} (ended : task.status = .terminated)
    (container : String) :
    task.started container = { task with containerId := some container } := by
  simp [started, ended, Status.isFinal]

theorem started_of_live
    {task : Task} (live : task.status ≠ .terminated)
    (container : String) :
    task.started container =
      { task with containerId := some container, status := .running } := by
  simp [started, live]

end Task

end Workloads
