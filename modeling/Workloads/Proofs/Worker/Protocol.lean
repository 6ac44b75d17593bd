import Workloads.Proofs.Worker.Launches

/-!
# The life of a container

Where no id is launched twice and no container is started twice, a container
is run, then stopped, then removed, each time in this order, whichever calls
fail and however long the operations wait for one another.
-/

namespace Workloads

/-- How the containers of a history are handled up to a state of the
registry. -/
structure ContainerProtocol
    (history : List Moment) (registry : Registry) : Prop where
  /-- A container is run at most once for an id. -/
  runOnce : ∀ id, (runIds history).count id ≤ 1
  /-- A container that was started is in the record of its id, or its removal
  was asked for. -/
  held :
    ∀ id container, Returned history id container →
      (∃ task, registry.find? id = some task ∧
          task.containerId = some container) ∨
        RemoveIssued history container
  /-- A container of an ended record was asked to stop. -/
  stopped :
    ∀ id container task, Returned history id container →
      registry.find? id = some task →
      task.status = .terminated →
      task.containerId = some container →
        StopIssued history container
  /-- No container is asked to stop after its removal was asked for. -/
  removedLast :
    ∀ early moment late container, history = early ++ moment :: late →
      RemoveIssued early container → ¬moment.Stops container
  /-- A removal that was asked for asks for a container's removal only after
  the container was asked to stop. -/
  stoppedFirst :
    ∀ early moment late id container, history = early ++ moment :: late →
      moment.cause = .begun (.remove id) →
      moment.Removes container →
        StopIssued early container

namespace Run

variable {seconds : Nat} {history : List Moment} {world : World}
  {id container : String}

/-- The containers of ids that are launched once are never replaced, and a
removal forgets no other container than its own. -/
theorem displaced_removed (run : Run seconds history world)
    (once : LaunchedOnce history)
    (displaced : Displaced history id container) :
    RemoveIssued history container := by
  rcases displaced with
    ⟨early, moment, late, task, rfl, displaces, found, held⟩
  rcases run.split_leads with ⟨past, earlier, allowed, before, _⟩
  rw [before] at found
  have onceBefore := once.of_append
  have returned := earlier.held_returned found held
  generalize moment.cause = cause at allowed displaces
  cases displaces with
  | replacing =>
      rcases returned with ⟨first, member, before⟩
      rcases Cause.returned?_eq_some.mp before with ⟨seen, answered⟩
      cases allowed with
      | answer waits =>
          exact absurd answered
            (earlier.running_unanswered onceBefore waits member)
  | forgetting own =>
      subst own
      cases allowed with
      | answer waits =>
          have seen := earlier.handle_returned waits rfl
          rw [earlier.returned_unique onceBefore returned seen,
            removeIssued_append]
          exact .inl (earlier.remove_issued waits rfl)

/-- No container is asked to stop once its removal was asked for. -/
theorem not_stops_of_removed
    {early late : List Moment} {moment : Moment}
    (run : Run seconds (early ++ moment :: late) world)
    (once : LaunchedOnce (early ++ moment :: late))
    (fresh : Fresh (early ++ moment :: late))
    (removed : RemoveIssued early container) :
    ¬moment.Stops container := by
  intro stops
  rcases run.split_leads with ⟨past, earlier, allowed, _, leads⟩
  rcases Moment.stops_iff.mp stops with ⟨suspension, limit, next, call⟩
  generalize same : moment.cause = cause at allowed leads
  cases leads.asksToStop next call with
  | terminating found live held =>
      exact live
        (earlier.removed_ended fresh.of_append removed found held)
  | @quelling id seen task _ after ended =>
      rcases earlier.remove_returned removed with ⟨owner, before⟩
      have returned : moment.cause.returned? = some (id, container) := by
        rw [same]
        rfl
      rw [List.append_cons] at fresh
      exact fresh.of_append.unseen returned before
  | late other found held =>
      cases allowed with
      | answer waits =>
          exact other
            (earlier.returned_unique once.of_append
              (earlier.held_returned found held)
              (earlier.handle_returned waits rfl))

/-- Containers are run, then stopped, then removed. -/
theorem containerProtocol (run : Run seconds history world)
    (once : LaunchedOnce history) (fresh : Fresh history) :
    ContainerProtocol history world.registry := by
  constructor
  · intro id
    exact List.nodup_iff_count_le_one.mp (run.runIds_sublist.nodup once) id
  · intro id container returned
    rcases run.returned_held returned with held | removed | displaced
    · exact .inl held
    · exact .inr removed
    · exact .inr (run.displaced_removed once displaced)
  · intro id container task _ found ended held
    rcases run.ended_stopped found ended held with stopped | failed
    · exact stopped
    · exact absurd failed (run.not_endedByFailure once)
  · rintro early moment late container rfl removed
    exact run.not_stops_of_removed once fresh removed
  · rintro early moment late id container rfl begun removes
    rcases run.split_leads with ⟨past, earlier, _, _, leads⟩
    rcases Moment.removes_iff.mp removes with ⟨suspension, next, call⟩
    rw [begun] at leads
    cases leads.asksToRemove next call with
    | requested found ended held =>
        rcases earlier.ended_stopped found ended held with stopped | failed
        · exact stopped
        · exact absurd failed (earlier.not_endedByFailure once.of_append)

end Run

end Workloads
