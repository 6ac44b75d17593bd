import Mathlib.Data.List.Induction
import Workloads.Proofs.Lists
import Workloads.Task.Basic

/-!
# What edits make of a record

A series of edits is carried out up to its first failure.  In each field the
record then has the value that was put there last, and the one it had before if
none was put there.  So edits leave a record as it was if and only if the last
value put into each field is the old one.
-/

namespace Workloads

namespace Edit

/-- The edits that are made: those before the first failure. -/
def made (edits : List Edit) : List Edit :=
  edits.takeWhile (fun edit => edit ≠ panic)

/-- A record after edits none of which fails. -/
def applyAll (edits : List Edit) (task : Task) : Task :=
  edits.foldl (fun task edit => edit.apply task) task

/-! ## Values put into fields -/

/-- The id that an edit puts into a record. -/
def id? : Edit → Option String
  | setId id => some id
  | _ => none

/-- The status that an edit puts into a record. -/
def status? : Edit → Option Status
  | setStatus status => some status
  | terminate _ _ => some .terminated
  | _ => none

/-- The container that an edit puts into a record. -/
def containerId? : Edit → Option (Option String)
  | setContainerId container => some container
  | _ => none

/-- The reason that an edit puts into a record. -/
def reason? : Edit → Option (Option String)
  | setReason reason => some reason
  | terminate reason _ => some (some reason)
  | _ => none

/-- The message that an edit puts into a record. -/
def message? : Edit → Option (Option String)
  | setMessage message => some message
  | terminate _ message => some (some message)
  | _ => none

/-- The value that edits put into a field last. -/
def last? {Value : Type} (value? : Edit → Option Value)
    (edits : List Edit) : Option Value :=
  (edits.filterMap value?).getLast?

theorem last?_concat {Value : Type} (value? : Edit → Option Value)
    (edits : List Edit) (edit : Edit) :
    last? value? (edits ++ [edit]) =
      (value? edit).or (last? value? edits) := by
  rw [last?, filterMap_concat, List.getLast?_append]
  cases value? edit <;> rfl

theorem apply_eq (edit : Edit) (task : Task) :
    edit.apply task =
      { task with
        id := edit.id?.getD task.id
        status := edit.status?.getD task.status
        containerId := edit.containerId?.getD task.containerId
        reason := edit.reason?.getD task.reason
        message := edit.message?.getD task.message } := by
  cases edit <;> rfl

/-- In each field a record has the last value, or the one it had. -/
theorem applyAll_eq (edits : List Edit) (task : Task) :
    applyAll edits task =
      { task with
        id := (last? id? edits).getD task.id
        status := (last? status? edits).getD task.status
        containerId := (last? containerId? edits).getD task.containerId
        reason := (last? reason? edits).getD task.reason
        message := (last? message? edits).getD task.message } := by
  induction edits using List.reverseRecOn with
  | nil => rfl
  | append_singleton edits edit hypothesis =>
      rw [applyAll, List.foldl_append, List.foldl_cons, List.foldl_nil,
        ← applyAll, hypothesis, apply_eq]
      simp only [last?_concat, Option.getD_or]

/-! ## Edits that leave a record as it was -/

/-- Whether the last value put into each field is the one that a record has. -/
structure Restore (edits : List Edit) (task : Task) : Prop where
  id : ∀ value ∈ last? id? edits, value = task.id
  status : ∀ value ∈ last? status? edits, value = task.status
  containerId : ∀ value ∈ last? containerId? edits, value = task.containerId
  reason : ∀ value ∈ last? reason? edits, value = task.reason
  message : ∀ value ∈ last? message? edits, value = task.message

theorem getD_eq_right_iff {Value : Type} {new : Option Value} {old : Value} :
    new.getD old = old ↔ ∀ value ∈ new, value = old := by
  cases new <;> simp

theorem applyAll_eq_self_iff {edits : List Edit} {task : Task} :
    applyAll edits task = task ↔ Restore edits task := by
  rw [applyAll_eq]
  cases task
  simp only [Task.mk.injEq, getD_eq_right_iff, and_true]
  constructor
  · rintro ⟨id, status, containerId, reason, message⟩
    exact ⟨id, status, containerId, reason, message⟩
  · rintro ⟨id, status, containerId, reason, message⟩
    exact ⟨id, status, containerId, reason, message⟩

end Edit

/-- Edits break off if there is a failure among them; those before it are
made. -/
theorem Task.edit_eq (task : Task) (edits : List Edit) :
    task.edit edits =
      { task := Edit.applyAll (Edit.made edits) task
        panicked := decide (.panic ∈ edits) } := by
  induction edits generalizing task with
  | nil => rfl
  | cons edit rest hypothesis =>
      cases edit with
      | panic => simp [Task.edit, Edit.made, Edit.applyAll]
      | _ => simp [Task.edit, hypothesis, Edit.made, Edit.applyAll]

end Workloads
