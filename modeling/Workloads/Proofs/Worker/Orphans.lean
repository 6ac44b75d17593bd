import Workloads.Proofs.Worker.Shutdown

/-!
# Orphans

Once nothing is under way, every container that was started and not shut down
should run for a record.  This fails in exactly two ways: an operation of an
earlier task takes the container out of the record of a later task of the same
id, or a launch of the earlier task fails and ends that record, and in either
case nobody has asked for the container's stop or removal.
-/

namespace Workloads

/-- What the records say about the containers that are up. -/
structure Accounted
    (history : List Moment) (registry : Registry) : Prop where
  /-- The containers that were started and neither stopped nor removed are
  those of the running records. -/
  running :
    ∀ container,
      ((∃ id, Returned history id container) ∧
          ¬StopDone history container ∧ ¬RemoveDone history container) ↔
        ∃ id task, registry.find? id = some task ∧
          task.status = .running ∧ task.containerId = some container
  /-- A container is held by one record only. -/
  single :
    ∀ container left right first second,
      registry.find? left = some first →
      first.containerId = some container →
      registry.find? right = some second →
      second.containerId = some container →
        left = right

/-- How a container is left to itself. -/
inductive Stranded (history : List Moment) (registry : Registry)
    (container : String) : Prop where
  /-- It was taken out of its record before anyone asked for its stop or its
  removal. -/
  | displaced {early late : List Moment} {moment : Moment} {id : String}
      {task : Task}
      (split : history = early ++ moment :: late)
      (displaces : moment.cause.Displaces id)
      (found : moment.before.find? id = some task)
      (held : task.containerId = some container)
      (unstopped : ¬StopIssued early container)
      (unremoved : ¬RemoveIssued early container)
  /-- Its record has ended, and nobody has asked for its stop or its
  removal. -/
  | ended {id : String} {task : Task}
      (found : registry.find? id = some task)
      (ended : task.status = .terminated)
      (held : task.containerId = some container)
      (unstopped : ¬StopIssued history container)
      (unremoved : ¬RemoveIssued history container)

/-! ## Containers adrift -/

/-- Whether a container was started and is now known to nobody. -/
structure Adrift (history : List Moment) (registry : Registry)
    (container : String) : Prop where
  started : ∃ id, Returned history id container
  unstopped : ¬StopIssued history container
  unremoved : ¬RemoveIssued history container
  unheld :
    ∀ id task, registry.find? id = some task →
      task.containerId ≠ some container

namespace Run

variable {seconds : Nat} {history : List Moment} {world : World}
  {ticket : Nat} {cause : Cause} {id container : String} {task : Task}

/-- Nobody finds a container again that is adrift. -/
theorem adrift_step
    (fresh : Fresh (history ++ [world.moment seconds ticket cause]))
    (adrift : Adrift history world.registry container) :
    Adrift (history ++ [world.moment seconds ticket cause])
      (world.moment seconds ticket cause).after container := by
  have leads := Cause.leads_segment seconds world.registry cause
  rcases adrift.started with ⟨owner, started⟩
  have elsewhere : ∀ key, cause.returned? ≠ some (key, container) :=
    fun key returned => fresh.unseen returned started
  constructor
  · exact ⟨owner, returned_append.mpr (.inl started)⟩
  · rw [stopIssued_append, stopIssued_singleton]
    rintro (old | new)
    · exact adrift.unstopped old
    · rcases Moment.stops_iff.mp new with ⟨suspension, limit, next, call⟩
      cases leads.asksToStop next call with
      | terminating found live held same next =>
          exact adrift.unheld _ _ found held
      | quelling after ended => exact elsewhere _ rfl
      | late other found held after ended =>
          exact adrift.unheld _ _ found held
  · rw [removeIssued_append, removeIssued_singleton]
    rintro (old | new)
    · exact adrift.unremoved old
    · rcases Moment.removes_iff.mp new with ⟨suspension, next, call⟩
      cases leads.asksToRemove next call with
      | requested found ended held same =>
          exact adrift.unheld _ _ found held
      | dropping same => exact elsewhere _ rfl
  · intro key new found held
    rcases leads.writes.container found held with
      ⟨old, before, heldBefore, _⟩ | returned
    · exact adrift.unheld key old before heldBefore
    · exact elsewhere key returned

/-- A container that is taken out of its record before anyone has asked for
its stop or its removal is adrift. -/
theorem adrift_of_displaced (past : Run seconds history world)
    (fresh : Fresh (history ++ [world.moment seconds ticket cause]))
    (displaces : cause.Displaces id)
    (found : world.registry.find? id = some task)
    (held : task.containerId = some container)
    (unstopped : ¬StopIssued history container)
    (unremoved : ¬RemoveIssued history container) :
    Adrift (history ++ [world.moment seconds ticket cause])
      (world.moment seconds ticket cause).after container := by
  have leads := Cause.leads_segment seconds world.registry cause
  have started := past.held_returned found held
  have elsewhere : ∀ key, cause.returned? ≠ some (key, container) :=
    fun key returned => fresh.unseen returned started
  constructor
  · exact ⟨id, returned_append.mpr (.inl started)⟩
  · rw [stopIssued_append, stopIssued_singleton]
    rintro (old | new)
    · exact unstopped old
    · rcases Moment.stops_iff.mp new with ⟨suspension, limit, next, call⟩
      cases leads.asksToStop next call with
      | quelling after ended => exact elsewhere _ rfl
      | _ => cases displaces
  · rw [removeIssued_append, removeIssued_singleton]
    rintro (old | new)
    · exact unremoved old
    · rcases Moment.removes_iff.mp new with ⟨suspension, next, call⟩
      cases leads.asksToRemove next call with
      | requested => cases displaces
      | dropping same => exact elsewhere _ rfl
  · intro key new after heldAfter
    rcases leads.writes.container after heldAfter with
      ⟨old, before, heldBefore, _⟩ | returned
    · -- It would still have to be in the record that it was taken out of.
      have own : key = id :=
        fresh.of_append.owner_eq
          (past.held_returned before heldBefore) started
      subst own
      exact elsewhere key (leads.displaced displaces found after heldAfter)
    · exact elsewhere key returned

/-- From then on the container is adrift for good. -/
theorem adrift_of_lost (run : Run seconds history world)
    (fresh : Fresh history)
    {early late : List Moment} {moment : Moment}
    (split : history = early ++ moment :: late)
    (displaces : moment.cause.Displaces id)
    (found : moment.before.find? id = some task)
    (held : task.containerId = some container)
    (unstopped : ¬StopIssued early container)
    (unremoved : ¬RemoveIssued early container) :
    Adrift history world.registry container := by
  induction run generalizing late with
  | empty => simp at split
  | @step history world ticket cause past allowed hypothesis =>
      rcases append_cons_eq_concat split.symm with
        ⟨rfl, rfl⟩ | ⟨rest, shorter⟩
      · exact past.adrift_of_displaced fresh displaces found held unstopped
          unremoved
      · exact adrift_step fresh
          (hypothesis fresh.of_append shorter.symm)

/-- Once nothing is under way, the containers that are up are those of the
running records, unless some container is left to itself. -/
theorem accounted_iff (run : Run seconds history world)
    (fresh : Fresh history) (compliant : Compliant history)
    (quiet : ∀ ticket, world.flights ticket = none) :
    Accounted history world.registry ↔
      ∀ container, ¬Stranded history world.registry container := by
  have stopDone {container : String} :
      StopDone history container ↔ StopIssued history container :=
    run.stopDone_iff compliant quiet
  have removeDone {container : String} :
      RemoveDone history container ↔ RemoveIssued history container :=
    run.removeDone_iff compliant quiet
  constructor
  · intro accounted container stranded
    cases stranded with
    | displaced split displaces found held unstopped unremoved =>
        have adrift :=
          run.adrift_of_lost fresh split displaces found held unstopped
            unremoved
        rcases (accounted.running container).mp
            ⟨adrift.started, stopDone.not.mpr adrift.unstopped,
              removeDone.not.mpr adrift.unremoved⟩ with
          ⟨id, task, stored, _, here⟩
        exact adrift.unheld id task stored here
    | @ended id task found ended held unstopped unremoved =>
        rcases (accounted.running container).mp
            ⟨⟨id, run.held_returned found held⟩,
              stopDone.not.mpr unstopped, removeDone.not.mpr unremoved⟩ with
          ⟨other, record, stored, running, here⟩
        have same :=
          accounted.single container id other task record found held
            stored here
        subst same
        cases found.symm.trans stored
        cases ended.symm.trans running
  · intro safe
    constructor
    · intro container
      constructor
      · rintro ⟨⟨id, returned⟩, unstopped, unremoved⟩
        rw [stopDone] at unstopped
        rw [removeDone] at unremoved
        rcases run.returned_held returned with
          ⟨task, found, held⟩ | removed |
            ⟨early, moment, late, task, rfl, displaces, found, held⟩
        · refine ⟨id, task, found, ?_, held⟩
          have sound := run.sound id task found
          cases status : task.status with
          | pending => cases held.symm.trans (sound.bare status)
          | running => rfl
          | terminated =>
              exact absurd (.ended found status held unstopped unremoved)
                (safe container)
        · exact absurd removed unremoved
        · rw [stopIssued_append, not_or] at unstopped
          rw [removeIssued_append, not_or] at unremoved
          exact absurd
            (.displaced rfl displaces found held unstopped.1 unremoved.1)
            (safe container)
      · rintro ⟨id, task, found, running, held⟩
        have live : task.status ≠ .terminated := by
          rw [running]
          decide
        refine ⟨⟨id, run.held_returned found held⟩, ?_, ?_⟩
        · rw [stopDone]
          intro issued
          rcases run.stop_awaited fresh compliant issued found held live with
            ⟨ticket, request, limit, waits⟩
          cases (quiet ticket).symm.trans waits
        · rw [removeDone]
          intro issued
          exact live (run.removed_ended fresh issued found held)
    · intro container left right first second leftFound leftHeld
        rightFound rightHeld
      exact fresh.owner_eq (run.held_returned leftFound leftHeld)
        (run.held_returned rightFound rightHeld)

end Run

end Workloads
