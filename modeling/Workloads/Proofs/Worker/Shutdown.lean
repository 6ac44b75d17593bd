import Workloads.Proofs.Worker.Containers

/-!
# Shutting containers down

Which operation asks for a container's stop and for its removal, and in what
state the record is then.  A record that ends with a container has had the
container's stop asked for, with one exception: a launch that fails ends
whatever record it finds, and stops nothing.
-/

namespace Workloads

namespace Run

variable {seconds : Nat} {history : List Moment} {world : World}

/-- An operation that waits for a stop has asked for it. -/
theorem stop_issued (run : Run seconds history world)
    {ticket limit : Nat} {suspension : Suspension} {container : String}
    (waits : world.flights ticket = some suspension)
    (call : suspension.call = .stop container limit) :
    StopIssued history container := by
  rcases run.suspended waits with ⟨moment, member, _, next⟩
  exact ⟨moment, member, Moment.stops_iff.mpr ⟨_, _, next, call⟩⟩

/-- An operation that waits for a removal has asked for it. -/
theorem remove_issued (run : Run seconds history world)
    {ticket : Nat} {suspension : Suspension} {container : String}
    (waits : world.flights ticket = some suspension)
    (call : suspension.call = .remove container) :
    RemoveIssued history container := by
  rcases run.suspended waits with ⟨moment, member, _, next⟩
  exact ⟨moment, member, Moment.removes_iff.mpr ⟨_, next, call⟩⟩

end Run

/-! ## Calls that succeed -/

/-- The call that has succeeded when a cause comes about. -/
def Cause.completed? : Cause → Option RuntimeCall
  | begun _ => none
  | answered suspension reply =>
      match reply with
      | .ok _ => some suspension.call
      | .error _ => none

/-- Whether the stop of a container has succeeded. -/
def StopDone (history : List Moment) (container : String) : Prop :=
  ∃ moment ∈ history, ∃ limit,
    moment.cause.completed? = some (.stop container limit)

/-- Whether the removal of a container has succeeded. -/
def RemoveDone (history : List Moment) (container : String) : Prop :=
  ∃ moment ∈ history, moment.cause.completed? = some (.remove container)

theorem Cause.of_completed {cause : Cause} {call : RuntimeCall}
    (completed : cause.completed? = some call) :
    ∃ suspension value,
      cause = .answered suspension (.ok value) ∧ suspension.call = call := by
  cases cause with
  | begun operation => cases completed
  | answered suspension reply =>
      cases reply with
      | error failure => cases completed
      | ok value =>
          cases completed
          exact ⟨suspension, value, rfl, rfl⟩

/-- The call that has failed when a cause comes about. -/
def Cause.failed? : Cause → Option RuntimeCall
  | begun _ => none
  | answered suspension reply =>
      match reply with
      | .ok _ => none
      | .error _ => some suspension.call

/-- Whether only runs have failed, and no stop or removal. -/
def Compliant (history : List Moment) : Prop :=
  ∀ moment ∈ history, ∀ call,
    moment.cause.failed? = some call → ∃ task, call = .run task

/-- A history in which nothing has failed. -/
theorem Compliant.of_no_failure {history : List Moment}
    (nothing :
      history.filterMap (fun moment => moment.cause.failed?) = []) :
    Compliant history := by
  intro moment member call failed
  rw [List.filterMap_eq_nil_iff.mp nothing moment member] at failed
  cases failed

theorem Compliant.of_append {early late : List Moment}
    (compliant : Compliant (early ++ late)) : Compliant early :=
  fun moment member =>
    compliant moment (List.mem_append_left _ member)

namespace Run

variable {seconds : Nat} {history : List Moment} {world : World}
  {container : String}

/-- The call of an operation is waited for until it is answered. -/
theorem waiting_or_answered (run : Run seconds history world)
    {moment : Moment} (member : moment ∈ history) {suspension : Suspension}
    (next : moment.segment.next = .waiting suspension) :
    world.flights moment.ticket = some suspension ∨
      ∃ later ∈ history, ∃ reply,
        later.cause = .answered suspension reply := by
  induction run with
  | empty => cases member
  | @step history world ticket cause past allowed hypothesis =>
      rcases List.mem_append.mp member with old | new
      · rcases hypothesis old with waits | ⟨later, laterMember, answered⟩
        · by_cases own : moment.ticket = ticket
          · rw [own] at waits
            rcases past.answered_of_waiting allowed waits with ⟨reply, rfl⟩
            exact .inr ⟨_, List.mem_append_right _ List.mem_cons_self,
              reply, rfl⟩
          · left
            rw [World.advance_flights_other _ own]
            exact waits
        · exact .inr ⟨later, List.mem_append_left _ laterMember, answered⟩
      · rw [List.mem_singleton.mp new] at next ⊢
        exact .inl (World.advance_flights_own _ next)

/-- Once nobody waits, every stop or removal that was asked for has been
answered, and so it has succeeded; none has succeeded that was not asked
for. -/
theorem completed_iff (run : Run seconds history world)
    (compliant : Compliant history)
    (quiet : ∀ ticket, world.flights ticket = none)
    {call : RuntimeCall} (later : ∀ task, call ≠ .run task) :
    (∃ moment ∈ history, moment.cause.completed? = some call) ↔
      ∃ moment ∈ history, moment.call? = some call := by
  constructor
  · rintro ⟨moment, member, completed⟩
    rcases Cause.of_completed completed with
      ⟨suspension, value, answered, rfl⟩
    rcases run.of_mem member with
      ⟨early, late, past, rfl, earlier, allowed, _⟩
    rw [answered] at allowed
    cases allowed with
    | answer waits =>
        rcases earlier.suspended waits with ⟨issue, issueMember, _, next⟩
        refine ⟨issue, List.mem_append_left _ issueMember, ?_⟩
        rw [Moment.call?, next]
        rfl
  · rintro ⟨moment, member, made⟩
    rcases Option.map_eq_some_iff.mp made with ⟨suspension, waiting, rfl⟩
    rcases run.waiting_or_answered member
        (Next.suspension?_eq_some.mp waiting) with
      waits | ⟨answer, answerMember, reply, answered⟩
    · cases (quiet _).symm.trans waits
    · refine ⟨answer, answerMember, ?_⟩
      cases reply with
      | ok value =>
          rw [answered]
          rfl
      | error failure =>
          have failed : answer.cause.failed? = some suspension.call := by
            rw [answered]
            rfl
          rcases compliant answer answerMember _ failed with ⟨task, same⟩
          exact absurd same (later task)

theorem stopDone_iff (run : Run seconds history world)
    (compliant : Compliant history)
    (quiet : ∀ ticket, world.flights ticket = none) :
    StopDone history container ↔ StopIssued history container := by
  have completed (limit : Nat) :
      (∃ moment ∈ history,
          moment.cause.completed? = some (.stop container limit)) ↔
        ∃ moment ∈ history, moment.call? = some (.stop container limit) :=
    run.completed_iff compliant quiet (by simp)
  constructor
  · rintro ⟨moment, member, limit, done⟩
    rcases (completed limit).mp ⟨moment, member, done⟩ with
      ⟨issue, issueMember, made⟩
    exact ⟨issue, issueMember, limit, made⟩
  · rintro ⟨moment, member, limit, made⟩
    rcases (completed limit).mpr ⟨moment, member, made⟩ with
      ⟨answer, answerMember, done⟩
    exact ⟨answer, answerMember, limit, done⟩

theorem removeDone_iff (run : Run seconds history world)
    (compliant : Compliant history)
    (quiet : ∀ ticket, world.flights ticket = none) :
    RemoveDone history container ↔ RemoveIssued history container :=
  run.completed_iff compliant quiet (by simp)

end Run

/-! ## Ended records -/

/-- Whether a launch has failed and so ended a record that held a
container. -/
def EndedByFailure (history : List Moment) (id container : String) : Prop :=
  ∃ moment ∈ history, ∃ seen task failure,
    moment.cause = .answered (.running id seen) (.error failure) ∧
      moment.before.find? id = some task ∧
      task.status ≠ .terminated ∧
      task.containerId = some container

theorem EndedByFailure.append
    {early : List Moment} {id container : String}
    (ended : EndedByFailure early id container) (late : List Moment) :
    EndedByFailure (early ++ late) id container := by
  rcases ended with ⟨moment, member, rest⟩
  exact ⟨moment, List.mem_append_left _ member, rest⟩

/-- What ends a record that holds a container. -/
theorem Cause.Writes.ends
    {registry : Registry} {cause : Cause} {segment : Segment}
    {key container : String} {old new : Task}
    (writes : Writes registry cause segment)
    (before : registry.find? key = some old)
    (live : old.status ≠ .terminated)
    (after : segment.registry.find? key = some new)
    (ended : new.status = .terminated)
    (held : new.containerId = some container) :
    (∃ request limit reply,
        cause = .answered (.stopping key request container limit)
          (.ok reply)) ∨
      (∃ task limit,
        segment.next = .waiting (.stoppingLate task container limit)) ∨
      (∃ seen failure,
        cause = .answered (.running key seen) (.error failure) ∧
          old.containerId = some container) := by
  have changed : new ≠ old := by
    rintro rfl
    exact live ended
  cases writes with
  | nothing same =>
      rw [same, before] at after
      cases after
      exact absurd rfl changed
  | entered absent stored =>
      rw [stored] at after
      rcases Registry.find?_insert_changed before after changed with ⟨rfl, _⟩
      cases before.symm.trans absent
  | ended found bare stored =>
      rw [stored] at after
      rcases Registry.find?_insert_changed before after changed with
        ⟨rfl, rfl⟩
      rw [StopRequest.settle, Task.settle_containerId, bare] at held
      cases held
  | @stopped id seen request limit reply task segment found stored late =>
      rw [stored] at after
      rcases Registry.find?_insert_changed before after changed with
        ⟨rfl, rfl⟩
      rw [StopRequest.settle, Task.settle_containerId] at held
      by_cases same : container = seen
      · subst same
        exact .inl ⟨request, limit, reply, rfl⟩
      · exact .inr (.inl ⟨_, _, late container held same⟩)
  | recorded found stored quelled =>
      rw [stored] at after
      rcases Registry.find?_insert_changed before after changed with
        ⟨rfl, rfl⟩
      cases before.symm.trans found
      rw [Task.started_of_live live] at ended
      cases ended
  | @failed id seen task failure segment found stored =>
      rw [stored] at after
      rcases Registry.find?_insert_changed before after changed with
        ⟨rfl, rfl⟩
      cases before.symm.trans found
      rw [Task.settle_containerId] at held
      exact .inr (.inr ⟨seen, failure, rfl, held⟩)
  | removedBare found ended' bare stored =>
      rw [stored] at after
      cases before.symm.trans (Registry.find?_of_delete after)
      exact absurd rfl changed
  | removed stored =>
      rw [stored] at after
      cases before.symm.trans (Registry.find?_of_delete after)
      exact absurd rfl changed

/-- A launch that finds its task ended stops its container. -/
theorem Cause.Leads.quells
    {seconds : Nat} {registry : Registry} {cause : Cause}
    {segment : Segment} {key container : String} {task : Task}
    (leads : Leads seconds registry cause segment)
    (returned : cause.returned? = some (key, container))
    (found : registry.find? key = some task)
    (ended : task.status = .terminated) :
    ∃ shown limit,
      segment.next = .waiting (.quelling shown container limit) := by
  rcases Cause.returned?_eq_some.mp returned with ⟨seen, rfl⟩
  cases leads with
  | recorded found' live =>
      cases found.symm.trans found'
      exact absurd ended live
  | quelling => exact ⟨_, _, rfl⟩
  | dropping absent => cases found.symm.trans absent

namespace Run

variable {seconds : Nat} {history : List Moment} {world : World}
  {id container : String} {task : Task}

/-- A record that has ended holds a container whose stop was asked for, or a
failed launch has ended it. -/
theorem ended_stopped (run : Run seconds history world)
    (found : world.registry.find? id = some task)
    (ended : task.status = .terminated)
    (held : task.containerId = some container) :
    StopIssued history container ∨ EndedByFailure history id container := by
  induction run generalizing task with
  | empty => cases found
  | @step history world ticket cause past allowed hypothesis =>
      have leads := Cause.leads_segment seconds world.registry cause
      rw [stopIssued_append, stopIssued_singleton]
      cases before : world.registry.find? id with
      | none =>
          rcases leads.writes.of_absent before found with ⟨spec, _, _, rfl⟩
          cases ended
      | some old =>
          by_cases oldEnded : old.status = .terminated
          · rcases ((leads.writes.follows before found).of_ended
              oldEnded).2 with same | ⟨_, returned, held'⟩
            · rcases hypothesis before oldEnded (same ▸ held) with
                stopped | failed
              · exact .inl (.inl stopped)
              · exact .inr (failed.append _)
            · cases held.symm.trans held'
              rcases leads.quells returned before oldEnded with
                ⟨shown, limit, next⟩
              exact .inl (.inr (Moment.stops_iff.mpr ⟨_, _, next, rfl⟩))
          · rcases leads.writes.ends before oldEnded found ended held with
              ⟨request, limit, reply, rfl⟩ | ⟨shown, limit, next⟩ |
                ⟨seen, failure, rfl, oldHeld⟩
            · cases allowed with
              | answer waits =>
                  exact .inl (.inl (past.stop_issued waits rfl))
            · exact .inl (.inr (Moment.stops_iff.mpr ⟨_, _, next, rfl⟩))
            · exact .inr ⟨_, List.mem_append_right _ List.mem_cons_self,
                seen, old, failure, rfl, before, oldEnded, oldHeld⟩

end Run

/-! ## Asking for removals and stops -/

namespace Cause

/-- Who asks for the removal of a container, and what is found then. -/
inductive AsksToRemove (registry : Registry) (container : String) :
    Cause → Segment → Prop where
  /-- A removal finds it in the record of an ended task. -/
  | requested {id : String} {task : Task} {segment : Segment}
      (found : registry.find? id = some task)
      (ended : task.status = .terminated)
      (held : task.containerId = some container)
      (same : segment.registry = registry) :
      AsksToRemove registry container (.begun (.remove id)) segment
  /-- The launch that has just started it finds its record gone. -/
  | dropping {id : String} {seen : Task} {segment : Segment}
      (same : segment.registry = registry) :
      AsksToRemove registry container
        (.answered (.running id seen) (.ok container)) segment

/-- Who asks for the stop of a container, and what is found then. -/
inductive AsksToStop (registry : Registry) (container : String) :
    Cause → Segment → Prop where
  /-- A termination finds it in the record of a live task. -/
  | terminating {id : String} {request : StopRequest} {task : Task}
      {limit : Nat} {segment : Segment}
      (found : registry.find? id = some task)
      (live : task.status ≠ .terminated)
      (held : task.containerId = some container)
      (same : segment.registry = registry)
      (next :
        segment.next = .waiting (.stopping id request container limit)) :
      AsksToStop registry container (.begun (.terminate id request)) segment
  /-- The launch that has just started it finds its task ended. -/
  | quelling {id : String} {seen task : Task} {segment : Segment}
      (after : segment.registry.find? id = some task)
      (ended : task.status = .terminated) :
      AsksToStop registry container
        (.answered (.running id seen) (.ok container)) segment
  /-- A termination has stopped another container, finds this one in the
  record and ends the task. -/
  | late {id seen : String} {request : StopRequest} {limit : Nat}
      {reply : Unit} {old new : Task} {segment : Segment}
      (other : container ≠ seen)
      (found : registry.find? id = some old)
      (held : old.containerId = some container)
      (after : segment.registry.find? id = some new)
      (ended : new.status = .terminated) :
      AsksToStop registry container
        (.answered (.stopping id request seen limit) (.ok reply)) segment

variable {seconds : Nat} {registry : Registry} {cause : Cause}
  {segment : Segment} {suspension : Suspension} {container : String}

theorem Leads.asksToRemove (leads : Leads seconds registry cause segment)
    (next : segment.next = .waiting suspension)
    (call : suspension.call = .remove container) :
    AsksToRemove registry container cause segment := by
  cases leads <;> cases next <;> cases call
  case removing found ended held =>
    exact .requested found ended held rfl
  case dropping absent => exact .dropping rfl

theorem Leads.asksToStop {limit : Nat}
    (leads : Leads seconds registry cause segment)
    (next : segment.next = .waiting suspension)
    (call : suspension.call = .stop container limit) :
    AsksToStop registry container cause segment := by
  cases leads <;> cases next <;> cases call
  case stopping found live held =>
    exact .terminating found live held rfl rfl
  case quelling id seen task found ended =>
    refine @AsksToStop.quelling registry container id seen
      (task.started container) _ ?_ ?_
    · simp [Segment.await]
    · rw [Task.started_of_ended ended]
      exact ended
  case stoppingLate id seen request reply task found held other =>
    refine @AsksToStop.late registry container id seen request limit reply
      task (request.settle task) _ other found held ?_ ?_
    · simp [Segment.await]
    · simp [StopRequest.settle]

end Cause

/-- After its stop, a termination leaves no live record under its id. -/
theorem Cause.Leads.stop_ends
    {seconds : Nat} {registry : Registry} {segment : Segment}
    {id container : String} {request : StopRequest} {limit : Nat}
    {reply : Unit} {task : Task}
    (leads : Leads seconds registry
      (.answered (.stopping id request container limit) (.ok reply)) segment)
    (found : segment.registry.find? id = some task) :
    task.status = .terminated := by
  cases leads with
  | stoppedUnknown absent => cases found.symm.trans absent
  | stopped found' accounted =>
      simp only [Segment.succeed, Registry.find?_insert, if_true,
        Option.some.injEq] at found
      rw [← found, StopRequest.settle, Task.settle_status]
  | stoppingLate found' held other =>
      simp only [Segment.await, Registry.find?_insert, if_true,
        Option.some.injEq] at found
      rw [← found, StopRequest.settle, Task.settle_status]

namespace Run

variable {seconds : Nat} {history : List Moment} {world : World}
  {id container : String} {task : Task}

/-- A record whose container was asked to be removed has ended. -/
theorem removed_ended (run : Run seconds history world)
    (fresh : Fresh history)
    (issued : RemoveIssued history container)
    (found : world.registry.find? id = some task)
    (held : task.containerId = some container) :
    task.status = .terminated := by
  induction run generalizing task with
  | empty => cases found
  | @step history world ticket cause past allowed hypothesis =>
      have leads := Cause.leads_segment seconds world.registry cause
      rw [removeIssued_append, removeIssued_singleton] at issued
      rcases issued with old | new
      · rcases leads.writes.container found held with
          ⟨earlier, before, heldBefore, ends⟩ | returned
        · exact ends (hypothesis fresh.of_append old before heldBefore)
        · rcases past.remove_returned old with ⟨owner, seen⟩
          exact absurd seen (fresh.unseen returned)
      · rcases Moment.removes_iff.mp new with ⟨suspension, next, call⟩
        cases leads.asksToRemove next call with
        | @requested key ended _ found' endedStatus held' same =>
            have before : world.registry.find? id = some task := same ▸ found
            have own : key = id :=
              fresh.of_append.owner_eq (past.held_returned found' held')
                (past.held_returned before held)
            subst own
            cases before.symm.trans found'
            exact endedStatus
        | dropping same =>
            have before : world.registry.find? id = some task := same ▸ found
            exact absurd (past.held_returned before held)
              (fresh.unseen rfl)

end Run

/-! ## Stops that are waited for -/

/-- As long as a record lives on after its container was asked to stop, a
termination waits for that stop. -/
theorem Run.stop_awaited
    {seconds : Nat} {history : List Moment} {world : World}
    {id container : String} {task : Task}
    (run : Run seconds history world)
    (fresh : Fresh history) (compliant : Compliant history)
    (issued : StopIssued history container)
    (found : world.registry.find? id = some task)
    (held : task.containerId = some container)
    (live : task.status ≠ .terminated) :
    ∃ ticket request limit,
      world.flights ticket =
        some (.stopping id request container limit) := by
  induction run generalizing task with
  | empty => cases found
  | @step history world ticket cause past allowed hypothesis =>
      have leads := Cause.leads_segment seconds world.registry cause
      have returned := (past.step allowed).held_returned found held
      rw [stopIssued_append, stopIssued_singleton] at issued
      rcases issued with old | new
      · rcases leads.writes.container found held with
          ⟨earlier, before, heldBefore, ends⟩ | returnedNow
        · have liveBefore : earlier.status ≠ .terminated :=
            fun ended => live (ends ended)
          rcases hypothesis fresh.of_append compliant.of_append old before
              heldBefore liveBefore with
            ⟨waiter, request, limit, waits⟩
          by_cases own : waiter = ticket
          · -- The stop is answered now, and so it leaves no live record.
            subst own
            rcases past.answered_of_waiting allowed waits with ⟨reply, rfl⟩
            cases reply with
            | ok reply => exact absurd (leads.stop_ends found) live
            | error failure =>
                rcases compliant _ (List.mem_append_right _
                    List.mem_cons_self) _ rfl with
                  ⟨_, impossible⟩
                cases impossible
          · refine ⟨waiter, request, limit, ?_⟩
            rw [World.advance_flights_other _ own]
            exact waits
        · rcases past.stop_returned old with ⟨owner, seen⟩
          exact absurd seen (fresh.unseen returnedNow)
      · rcases Moment.stops_iff.mp new with ⟨suspension, limit, next, call⟩
        cases leads.asksToStop next call with
        | @terminating key request old limit _ before _ heldBefore _ next =>
            have own : id = key := by
              refine fresh.owner_eq returned ?_
              rw [returned_append]
              exact .inl (past.held_returned before heldBefore)
            subst own
            exact ⟨ticket, request, limit, World.advance_flights_own _ next⟩
        | @quelling key seen ended _ after endedStatus =>
            have own : id = key := by
              refine fresh.owner_eq returned ?_
              rw [returned_append, returned_singleton]
              exact .inr rfl
            subst own
            cases found.symm.trans after
            exact absurd endedStatus live
        | @late key _ _ _ _ old ended _ _ before heldBefore after
            endedStatus =>
            have own : id = key := by
              refine fresh.owner_eq returned ?_
              rw [returned_append]
              exact .inl (past.held_returned before heldBefore)
            subst own
            cases found.symm.trans after
            exact absurd endedStatus live

end Workloads
