import Workloads.Proofs.Worker.Record

/-!
# Containers

A container enters a run with the answer to a launch's `run` call.  From then
on it is known by the record of that launch's id and by the operations that
were suspended with it in hand, and by nobody else.  So whoever stops or
removes a container works for the id that it was started for.
-/

namespace Workloads

/-! ## What a history says about a container -/

/-- Whether a container is asked to stop in a moment. -/
def Moment.Stops (moment : Moment) (container : String) : Prop :=
  ∃ seconds, moment.call? = some (.stop container seconds)

/-- Whether a container is asked to be removed in a moment. -/
def Moment.Removes (moment : Moment) (container : String) : Prop :=
  moment.call? = some (.remove container)

theorem Moment.stops_iff {moment : Moment} {container : String} :
    moment.Stops container ↔
      ∃ suspension seconds, moment.segment.next = .waiting suspension ∧
        suspension.call = .stop container seconds := by
  simp only [Stops, call?, Option.map_eq_some_iff, Next.suspension?_eq_some]
  exact exists_comm

theorem Moment.removes_iff {moment : Moment} {container : String} :
    moment.Removes container ↔
      ∃ suspension, moment.segment.next = .waiting suspension ∧
        suspension.call = .remove container := by
  simp only [Removes, call?, Option.map_eq_some_iff,
    Next.suspension?_eq_some]

/-- Whether the run of a launch of this id has returned this container. -/
def Returned (history : List Moment) (id container : String) : Prop :=
  ∃ moment ∈ history, moment.cause.returned? = some (id, container)

/-- Whether a container was asked to stop. -/
def StopIssued (history : List Moment) (container : String) : Prop :=
  ∃ moment ∈ history, moment.Stops container

/-- Whether a container was asked to be removed. -/
def RemoveIssued (history : List Moment) (container : String) : Prop :=
  ∃ moment ∈ history, moment.Removes container

/-- The containers that were started, in the order of their runs. -/
def startedContainers (history : List Moment) : List String :=
  history.filterMap (fun moment => moment.cause.returned?.map Prod.snd)

/-- Whether no two runs have returned one container. -/
def Fresh (history : List Moment) : Prop :=
  (startedContainers history).Nodup

section

variable {early late history : List Moment} {moment : Moment}
  {id other container : String}

@[simp]
theorem returned_append :
    Returned (early ++ late) id container ↔
      Returned early id container ∨ Returned late id container := by
  simp [Returned, or_and_right, exists_or]

@[simp]
theorem returned_singleton :
    Returned [moment] id container ↔
      moment.cause.returned? = some (id, container) := by
  simp [Returned]

@[simp]
theorem stopIssued_append :
    StopIssued (early ++ late) container ↔
      StopIssued early container ∨ StopIssued late container := by
  simp [StopIssued, or_and_right, exists_or]

@[simp]
theorem stopIssued_singleton :
    StopIssued [moment] container ↔ moment.Stops container := by
  simp [StopIssued]

@[simp]
theorem removeIssued_append :
    RemoveIssued (early ++ late) container ↔
      RemoveIssued early container ∨ RemoveIssued late container := by
  simp [RemoveIssued, or_and_right, exists_or]

@[simp]
theorem removeIssued_singleton :
    RemoveIssued [moment] container ↔ moment.Removes container := by
  simp [RemoveIssued]

/-! ## Fresh containers -/

theorem Fresh.of_append (fresh : Fresh (early ++ late)) : Fresh early := by
  rw [Fresh, startedContainers, List.filterMap_append] at fresh
  exact (List.nodup_append.mp fresh).1

/-- A container is returned for one id only. -/
theorem Fresh.owner_eq (fresh : Fresh history)
    (first : Returned history id container)
    (second : Returned history other container) :
    id = other := by
  rcases first with ⟨left, leftMember, leftReturned⟩
  rcases second with ⟨right, rightMember, rightReturned⟩
  have same : left = right :=
    eq_of_nodup_filterMap fresh leftMember rightMember
      (by rw [leftReturned]; rfl) (by rw [rightReturned]; rfl)
  subst right
  rw [leftReturned] at rightReturned
  cases rightReturned
  rfl

/-- A container that is returned now was not returned before. -/
theorem Fresh.unseen (fresh : Fresh (history ++ [moment]))
    (returned : moment.cause.returned? = some (id, container)) :
    ¬Returned history other container := by
  rintro ⟨earlier, member, before⟩
  rw [Fresh, startedContainers, List.filterMap_append] at fresh
  refine (List.nodup_append.mp fresh).2.2 container ?_ container ?_ rfl
  · exact List.mem_filterMap.mpr ⟨earlier, member, by rw [before]; rfl⟩
  · exact List.mem_filterMap.mpr
      ⟨moment, List.mem_cons_self, by rw [returned]; rfl⟩

end

/-! ## Who knows a container -/

/-- The container that a suspended operation has in hand, with the id that it
works for. -/
def Suspension.handle? : Suspension → Option (String × String)
  | running _ _ => none
  | dropping id container | stopping id _ container _ => some (id, container)
  | quelling task container _ | stoppingLate task container _
  | removing task container => some (task.id, container)

theorem Suspension.handle?_of_stop
    {suspension : Suspension} {container : String} {seconds : Nat}
    (call : suspension.call = .stop container seconds) :
    ∃ id, suspension.handle? = some (id, container) := by
  cases suspension <;> cases call <;> exact ⟨_, rfl⟩

theorem Suspension.handle?_of_remove
    {suspension : Suspension} {container : String}
    (call : suspension.call = .remove container) :
    ∃ id, suspension.handle? = some (id, container) := by
  cases suspension <;> cases call <;> exact ⟨_, rfl⟩

/-- A record has its container from before or from a launch that returns it
now. -/
theorem Cause.Writes.container
    {registry : Registry} {cause : Cause} {segment : Segment}
    {key container : String} {new : Task}
    (writes : Writes registry cause segment)
    (after : segment.registry.find? key = some new)
    (held : new.containerId = some container) :
    (∃ old, registry.find? key = some old ∧
        old.containerId = some container ∧
        (old.status = .terminated → new.status = .terminated)) ∨
      cause.returned? = some (key, container) := by
  cases before : registry.find? key with
  | none =>
      rcases writes.of_absent before after with ⟨spec, _, _, rfl⟩
      cases held
  | some old =>
      cases writes.follows before after with
      | same => exact .inl ⟨_, rfl, held, id⟩
      | ended live reason message =>
          exact .inl ⟨old, rfl, held, fun _ => rfl⟩
      | started live returned =>
          cases held
          exact .inr returned
      | attached ended returned =>
          cases held
          exact .inr returned

/-- What can take a container out of the record under a key: a launch of this
id that returns its own container, and a removal that ends. -/
inductive Cause.Displaces (key : String) : Cause → Prop where
  | replacing {seen : Task} {other : String} :
      Displaces key (.answered (.running key seen) (.ok other))
  | forgetting {task : Task} {other : String} {reply : Unit}
      (own : task.id = key) :
      Displaces key (.answered (.removing task other) (.ok reply))

/-- Otherwise a record keeps its container. -/
theorem Cause.Writes.keeps
    {registry : Registry} {cause : Cause} {segment : Segment}
    {key container : String} {old : Task}
    (writes : Writes registry cause segment)
    (sound : ∀ key task, registry.find? key = some task → task.Sound key)
    (before : registry.find? key = some old)
    (held : old.containerId = some container) :
    (∃ new, segment.registry.find? key = some new ∧
        new.containerId = some container) ∨
      cause.Displaces key := by
  cases after : segment.registry.find? key with
  | some new =>
      cases writes.follows before after with
      | same => exact .inl ⟨_, rfl, held⟩
      | ended live reason message => exact .inl ⟨_, rfl, held⟩
      | started live returned =>
          rcases Cause.returned?_eq_some.mp returned with ⟨seen, rfl⟩
          exact .inr .replacing
      | attached ended returned =>
          rcases Cause.returned?_eq_some.mp returned with ⟨seen, rfl⟩
          exact .inr .replacing
  | none =>
      rcases writes.of_gone sound before after with
        ⟨_, _, bare⟩ | ⟨task, other, reply, own, rfl⟩
      · cases bare.symm.trans held
      · exact .inr (.forgetting own)

/-- What such a cause leaves in the record is a container that it returns. -/
theorem Cause.Leads.displaced
    {seconds : Nat} {registry : Registry} {cause : Cause}
    {segment : Segment} {key container : String} {old new : Task}
    (leads : Leads seconds registry cause segment)
    (displaces : cause.Displaces key)
    (before : registry.find? key = some old)
    (after : segment.registry.find? key = some new)
    (held : new.containerId = some container) :
    cause.returned? = some (key, container) := by
  cases displaces with
  | replacing =>
      cases leads with
      | recorded found live =>
          simp only [Segment.succeed, Registry.find?_insert, if_true,
            Option.some.injEq] at after
          rw [← after, Task.started_containerId] at held
          cases held
          rfl
      | quelling found ended =>
          simp only [Segment.await, Registry.find?_insert, if_true,
            Option.some.injEq] at after
          rw [← after, Task.started_containerId] at held
          cases held
          rfl
      | dropping absent => cases before.symm.trans absent
  | forgetting own =>
      cases leads with
      | removed => simp [Segment.succeed, own] at after

/-- A container that is returned is recorded, or dropped if its record is
gone. -/
theorem Cause.Leads.places
    {seconds : Nat} {registry : Registry} {cause : Cause}
    {segment : Segment} {id container : String}
    (leads : Leads seconds registry cause segment)
    (returned : cause.returned? = some (id, container)) :
    (∃ task, segment.registry.find? id = some task ∧
        task.containerId = some container) ∨
      segment.next = .waiting (.dropping id container) := by
  rcases Cause.returned?_eq_some.mp returned with ⟨seen, rfl⟩
  cases leads with
  | @recorded id container seen task found live =>
      left
      exact ⟨task.started container, by simp [Segment.succeed], by simp⟩
  | @quelling id container seen task found ended =>
      left
      exact ⟨task.started container, by simp [Segment.await], by simp⟩
  | dropping absent => exact .inr rfl

/-- A suspended operation has its container from the record of its id or from
its own launch. -/
theorem Cause.Leads.handle
    {seconds : Nat} {registry : Registry} {cause : Cause}
    {segment : Segment} {suspension : Suspension} {id container : String}
    (leads : Leads seconds registry cause segment)
    (sound : ∀ key task, registry.find? key = some task → task.Sound key)
    (next : segment.next = .waiting suspension)
    (handle : suspension.handle? = some (id, container)) :
    (∃ task, registry.find? id = some task ∧
        task.containerId = some container) ∨
      cause.returned? = some (id, container) := by
  cases leads <;> cases next <;> cases handle
  case stopping task live found held => exact .inl ⟨task, found, held⟩
  case removing task found ended held =>
    left
    rw [(sound _ _ found).keyed]
    exact ⟨task, found, held⟩
  case quelling task found ended =>
    right
    simp [Cause.returned?, (sound _ _ found).keyed]
  case dropping absent => exact .inr rfl
  case stoppingLate task found held other =>
    left
    simp only [StopRequest.settle, Task.settle_id, (sound _ _ found).keyed]
    exact ⟨task, found, held⟩

/-- Whether a container was taken out of the record of an id. -/
def Displaced (history : List Moment) (id container : String) : Prop :=
  ∃ early moment late task, history = early ++ moment :: late ∧
    moment.cause.Displaces id ∧
    moment.before.find? id = some task ∧
    task.containerId = some container

theorem Displaced.append
    {early : List Moment} {id container : String}
    (displaced : Displaced early id container) (late : List Moment) :
    Displaced (early ++ late) id container := by
  rcases displaced with ⟨before, moment, after, task, rfl, rest⟩
  exact ⟨before, moment, after ++ late, task, by simp, rest⟩

namespace Run

variable {seconds : Nat} {history : List Moment} {world : World}
  {id container : String}

/-- The container of a record was returned for its id. -/
theorem held_returned (run : Run seconds history world) {task : Task}
    (found : world.registry.find? id = some task)
    (held : task.containerId = some container) :
    Returned history id container := by
  induction run generalizing task with
  | empty => cases found
  | @step history world ticket cause past allowed hypothesis =>
      have writes := (Cause.leads_segment seconds world.registry cause).writes
      rw [returned_append, returned_singleton]
      rcases writes.container found held with
        ⟨old, before, heldBefore, _⟩ | returned
      · exact .inl (hypothesis before heldBefore)
      · exact .inr returned

/-- The container that an operation is suspended with was returned for the id
that it works for. -/
theorem suspended_returned (run : Run seconds history world)
    {moment : Moment} (member : moment ∈ history) {suspension : Suspension}
    (next : moment.segment.next = .waiting suspension)
    (handle : suspension.handle? = some (id, container)) :
    Returned history id container := by
  rcases List.append_of_mem member with ⟨early, late, rfl⟩
  rcases run.split_leads with ⟨past, earlier, _, _, leads⟩
  rw [List.append_cons, returned_append, returned_append, returned_singleton]
  left
  rcases leads.handle earlier.sound next handle with
    ⟨task, found, held⟩ | returned
  · exact .inl (earlier.held_returned found held)
  · exact .inr returned

theorem handle_returned (run : Run seconds history world)
    {ticket : Nat} {suspension : Suspension}
    (waits : world.flights ticket = some suspension)
    (handle : suspension.handle? = some (id, container)) :
    Returned history id container := by
  rcases run.suspended waits with ⟨moment, member, _, next⟩
  exact run.suspended_returned member next handle

/-- A container that was returned is in the record of its id, or was dropped
at once, or has been taken out of the record. -/
theorem returned_held (run : Run seconds history world)
    (returned : Returned history id container) :
    (∃ task, world.registry.find? id = some task ∧
        task.containerId = some container) ∨
      RemoveIssued history container ∨
      Displaced history id container := by
  induction run with
  | empty =>
      rcases returned with ⟨moment, member, _⟩
      cases member
  | @step history world ticket cause past allowed hypothesis =>
      have leads := Cause.leads_segment seconds world.registry cause
      rw [removeIssued_append, removeIssued_singleton]
      rcases returned_append.mp returned with old | new
      · rcases hypothesis old with ⟨task, found, held⟩ | removed | displaced
        · rcases leads.writes.keeps past.sound found held with
            kept | displaces
          · exact .inl kept
          · exact .inr (.inr ⟨history, _, [], task, rfl, displaces, found,
              held⟩)
        · exact .inr (.inl (.inl removed))
        · exact .inr (.inr (displaced.append _))
      · rcases leads.places (returned_singleton.mp new) with
          recorded | next
        · exact .inl recorded
        · exact .inr (.inl (.inr (Moment.removes_iff.mpr ⟨_, next, rfl⟩)))

/-- Only containers that were started are asked to stop. -/
theorem stop_returned (run : Run seconds history world)
    (issued : StopIssued history container) :
    ∃ id, Returned history id container := by
  rcases issued with ⟨moment, member, limit, call⟩
  rcases Option.map_eq_some_iff.mp call with ⟨suspension, next, same⟩
  rcases Suspension.handle?_of_stop same with ⟨id, handle⟩
  exact ⟨id, run.suspended_returned member
    (Next.suspension?_eq_some.mp next) handle⟩

/-- Only containers that were started are asked to be removed. -/
theorem remove_returned (run : Run seconds history world)
    (issued : RemoveIssued history container) :
    ∃ id, Returned history id container := by
  rcases issued with ⟨moment, member, call⟩
  rcases Option.map_eq_some_iff.mp call with ⟨suspension, next, same⟩
  rcases Suspension.handle?_of_remove same with ⟨id, handle⟩
  exact ⟨id, run.suspended_returned member
    (Next.suspension?_eq_some.mp next) handle⟩

end Run

end Workloads
