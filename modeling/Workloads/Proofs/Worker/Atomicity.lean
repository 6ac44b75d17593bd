import Workloads.Proofs.Worker.Finality
import Workloads.Proofs.Worker.Subject

/-!
# Operations take effect at one moment

However long an operation waits, its outcome is borne out by the registry at
one of its own moments: a task that it shows was stored right after that
moment, and what it complains about was so when that moment began.  An
operation writes to the registry once at most, and if it succeeds after a
write, the moment of the write is the one that bears it out; nothing that it
has read before it waited shows in its outcome.
-/

namespace Workloads

/-! ## Writes -/

/-- A write to the registry. -/
inductive Write where
  /-- Stores a record under a key. -/
  | store (key : String) (task : Task)
  /-- Takes a key out. -/
  | forget (key : String)

/-- The registry after a write. -/
def Write.apply (registry : Registry) : Write → Registry
  | store key task => registry.insert key task
  | forget key => registry.delete key

/-- The write that a segment with this cause makes, if it makes one.  Storing a
record that has not changed is a write as well. -/
def Cause.write? (registry : Registry) : Cause → Option Write
  | .begun (.submit spec) =>
    if registry.has spec.id then none
    else some (.store spec.id (Task.ofSpec spec))
  | .begun (.terminate id request) =>
    (registry.find? id).bind fun task =>
      if task.status.isFinal || task.containerId.isSome then none
      else some (.store id (request.settle task))
  | .begun (.remove id) =>
    (registry.find? id).bind fun task =>
      if task.status.isFinal && task.containerId.isNone then
        some (.forget task.id)
      else none
  | .answered (.running id _) (.ok container) =>
    (registry.find? id).map fun task => .store id (task.started container)
  | .answered (.running id _) (.error failure) =>
    (registry.find? id).map fun task =>
      .store id (task.settle launchFailureReason failure.text)
  | .answered (.stopping id request _ _) (.ok _) =>
    (registry.find? id).map fun task => .store id (request.settle task)
  | .answered (.removing task _) (.ok _) => some (.forget task.id)
  | _ => none

/-- The write that is made in a moment. -/
def Moment.write? (moment : Moment) : Option Write :=
  moment.cause.write? moment.before

namespace Cause.Leads

variable {seconds : Nat} {registry : Registry} {cause : Cause}
  {segment : Segment}

/-- A segment leaves the registry as its write makes it, and as it was if it
makes none. -/
theorem written (leads : Leads seconds registry cause segment) :
    segment.registry =
      (cause.write? registry).elim registry (Write.apply registry) := by
  cases leads
  case unknown operation id target absent =>
    cases operation <;> cases target <;> simp [write?, absent, Segment.fail]
  all_goals
    simp_all [write?, Write.apply, Segment.succeed, Segment.fail,
      Segment.await, Registry.has]

/-- An operation that has only begun when it suspends has not written. -/
theorem unwritten {suspension : Suspension} {operation : Operation}
    (leads : Leads seconds registry (.begun operation) segment)
    (next : segment.next = .waiting suspension) :
    (Cause.begun operation).write? registry = none := by
  cases leads <;> cases next
  case launching found => rfl
  case stopping found live held => simp [write?, found, held]
  case removing found ended held => simp [write?, found, held]

end Cause.Leads

/-- A segment that follows the answer to a later call does not write. -/
theorem Cause.isFirst_of_write
    {registry : Registry} {suspension : Suspension}
    {reply : suspension.call.Reply}
    (writes : (Cause.answered suspension reply).write? registry ≠ none) :
    suspension.isFirst = true := by
  cases suspension
  case running | stopping | removing => rfl
  all_goals cases reply <;> exact absurd rfl writes

/-! ## Moments of one operation -/

namespace Run

variable {seconds : Nat} {history : List Moment} {world : World}

/-- A moment of a run, with the moments before it. -/
theorem at_index (run : Run seconds history world)
    {index : Nat} {moment : Moment}
    (place : history[index]? = some moment) :
    ∃ early past, Run seconds early past ∧
      past.Allows moment.ticket moment.cause ∧
      (∀ earlier other, history[earlier]? = some other →
        earlier < index → other ∈ early) := by
  rcases exists_split_of_getElem? place with ⟨early, late, rfl, rfl⟩
  rcases run.split with ⟨past, before, allowed, _⟩
  refine ⟨early, past, before, allowed, ?_⟩
  intro earlier other there below
  rw [List.getElem?_append_left below] at there
  exact List.mem_of_getElem? there

/-- The first moment of an operation is the one in which it begins. -/
theorem begun_le (run : Run seconds history world)
    {first index : Nat} {start moment : Moment} {operation : Operation}
    (here : history[first]? = some start)
    (begun : start.cause = .begun operation)
    (there : history[index]? = some moment)
    (own : moment.ticket = start.ticket) :
    first ≤ index := by
  apply Nat.le_of_not_lt
  intro before
  rcases run.at_index here with ⟨early, past, earlier, allowed, members⟩
  rw [begun] at allowed
  cases allowed with
  | begin unused =>
      have member := members index moment there before
      exact unused (own ▸ earlier.ticket_mem member)

/-- An operation that has ended does not wait. -/
theorem not_waiting_of_ended (run : Run seconds history world)
    {moment : Moment} (member : moment ∈ history) {result : Result}
    (ended : moment.result? = some result) :
    world.flights moment.ticket = none := by
  induction run with
  | empty => cases member
  | @step history world ticket cause past allowed hypothesis =>
      rcases List.mem_append.mp member with old | new
      · have quiet := hypothesis old
        have apart : moment.ticket ≠ ticket := by
          rintro rfl
          cases allowed with
          | begin unused => exact unused (past.ticket_mem old)
          | answer waits => cases quiet.symm.trans waits
        rw [World.advance_flights_other _ apart]
        exact quiet
      · have same := List.mem_singleton.mp new
        rw [← same]
        simp [World.advance, Next.result?_eq_some.mp ended,
          Next.suspension?]

/-- The last moment of an operation is the one in which it ends. -/
theorem le_ended (run : Run seconds history world)
    {last index : Nat} {final moment : Moment} {result : Result}
    (here : history[last]? = some final)
    (ended : final.result? = some result)
    (there : history[index]? = some moment)
    (own : moment.ticket = final.ticket) :
    index ≤ last := by
  apply Nat.le_of_not_lt
  intro after
  rcases run.at_index there with ⟨early, past, earlier, allowed, members⟩
  have member := members last final here after
  have quiet := earlier.not_waiting_of_ended member ended
  rw [own] at allowed
  generalize moment.cause = cause at allowed
  cases allowed with
  | begin unused => exact unused (earlier.ticket_mem member)
  | answer waits => cases quiet.symm.trans waits

/-- Before an operation writes it has not written. -/
theorem unwritten_before (run : Run seconds history world)
    {left right : Nat} {first second : Moment}
    (here : history[left]? = some first)
    (there : history[right]? = some second)
    (same : first.ticket = second.ticket)
    (order : left < right) (writes : second.write? ≠ none) :
    first.write? = none := by
  rcases run.at_index there with ⟨early, past, earlier, allowed, members⟩
  have member := members left first here order
  unfold Moment.write? at writes
  generalize second.cause = cause at allowed writes
  cases allowed with
  | begin unused =>
      exact absurd (earlier.ticket_mem member) (same ▸ unused)
  | answer waits reply =>
      rcases earlier.only_begun waits (Cause.isFirst_of_write writes) member
          same with
        ⟨⟨operation, begun⟩, next⟩
      have leads := earlier.leads member
      rw [begun] at leads
      rw [Moment.write?, begun]
      exact leads.unwritten next

/-- An operation writes once at most. -/
theorem write_unique (run : Run seconds history world)
    {left right : Nat} {first second : Moment}
    (here : history[left]? = some first)
    (there : history[right]? = some second)
    (same : first.ticket = second.ticket)
    (firstWrites : first.write? ≠ none)
    (secondWrites : second.write? ≠ none) :
    left = right := by
  rcases Nat.lt_trichotomy left right with below | equal | above
  · exact absurd
      (run.unwritten_before here there same below secondWrites) firstWrites
  · exact equal
  · exact absurd
      (run.unwritten_before there here same.symm above firstWrites)
      secondWrites

/-- The call that is answered was made by the same operation before. -/
theorem asked (run : Run seconds history world)
    {index : Nat} {moment : Moment} {suspension : Suspension}
    {reply : suspension.call.Reply}
    (place : history[index]? = some moment)
    (answered : moment.cause = .answered suspension reply) :
    ∃ earlier issue, earlier < index ∧ history[earlier]? = some issue ∧
      issue.ticket = moment.ticket ∧
      issue.segment.next = .waiting suspension := by
  rcases exists_split_of_getElem? place with ⟨early, late, rfl, rfl⟩
  rcases run.split with ⟨past, before, allowed, _⟩
  rw [answered] at allowed
  cases allowed with
  | answer waits =>
      rcases before.suspended waits with ⟨issue, member, own, next⟩
      rcases List.getElem?_of_mem member with ⟨earlier, there⟩
      have inside := (List.getElem?_eq_some_iff.mp there).1
      refine ⟨earlier, issue, inside, ?_, own, next⟩
      rw [List.getElem?_append_left inside]
      exact there

end Run

/-! ## Outcomes -/

/-- Whether an operation shows a task when it succeeds. -/
def Operation.showsTask : Operation → Bool
  | submit _ | get _ | launch _ | terminate _ _ => true
  | list | remove _ => false

/-- When a moment bears out an outcome of an operation on this id. -/
inductive Moment.BearsOut
    (moment : Moment) (operation : Operation) (key : String) :
    Result → Prop where
  /-- The shown task is stored right after the moment. -/
  | shown {task : Task}
      (shows : operation.showsTask = true)
      (stored : moment.after.find? key = some task) :
      BearsOut moment operation key (.ok (.task task))
  /-- The id is gone right after the moment. -/
  | removed (asked : operation = .remove key)
      (gone : moment.after.find? key = none) :
      BearsOut moment operation key (.ok .removed)
  /-- The id is unknown when the moment begins. -/
  | unknown (absent : moment.before.find? key = none) :
      BearsOut moment operation key (.error (.notFound key))
  /-- The id is taken when the moment begins. -/
  | taken {task : Task} (asked : ∃ spec, operation = .submit spec)
      (found : moment.before.find? key = some task) :
      BearsOut moment operation key (.error (.alreadyExists key))
  /-- The task has not ended when the moment begins. -/
  | unended {task : Task} (asked : operation = .remove key)
      (found : moment.before.find? key = some task)
      (live : task.status ≠ .terminated) :
      BearsOut moment operation key (.error (.notTerminated key))
  /-- A call of the operation fails. -/
  | failed {suspension : Suspension} {failure : RuntimeFailure}
      (answered : moment.cause = .answered suspension (.error failure)) :
      BearsOut moment operation key (.error (.runtime failure))

/-- The outcome that is settled while an operation still waits, if its last
call succeeds. -/
def Suspension.settled? : Suspension → Option Result
  | dropping id _ => some (.error (.notFound id))
  | quelling task _ _ | stoppingLate task _ _ => some (.ok (.task task))
  | running _ _ | stopping _ _ _ _ | removing _ _ => none

namespace Cause.Leads

variable {seconds : Nat} {registry : Registry} {cause : Cause}
  {segment : Segment} {operation : Operation} {key : String}
  {result : Result}

/-- An outcome is borne out in the moment in which it is given, or was settled
before. -/
theorem bearsOut (ticket : Nat)
    (leads : Leads seconds registry cause segment)
    (sound : ∀ key task, registry.find? key = some task → task.Sound key)
    (causes : operation.Causes cause)
    (about : operation.subject? = some key)
    (subject : cause.subject? = some key)
    (next : segment.next = .finished result) :
    (Moment.BearsOut ⟨ticket, cause, registry, segment⟩ operation key
          result ∧
        ∀ answer, result = .ok answer →
          cause.write? registry ≠ none ∨ cause = .begun operation) ∨
      ∃ suspension reply, cause = .answered suspension reply ∧
        suspension.settled? = some result := by
  cases causes with
  | begun =>
      refine .inl ⟨?_, fun _ _ => .inr rfl⟩
      cases leads with
      | submitted absent =>
          cases next
          cases subject
          exact .shown rfl (by simp [Moment.after, Segment.succeed])
      | taken found =>
          cases next
          cases subject
          exact .taken ⟨_, rfl⟩ found
      | @unknown _ id target absent =>
          cases next
          cases operation <;> cases target <;> cases subject <;>
            exact .unknown absent
      | listed => cases subject
      | got found =>
          cases next
          cases subject
          exact .shown rfl found
      | endedBefore found ended =>
          cases next
          cases subject
          exact .shown rfl found
      | endedBare found live bare =>
          cases next
          cases subject
          exact .shown rfl (by simp [Moment.after, Segment.succeed])
      | removedBare found ended bare =>
          cases next
          cases subject
          refine .removed rfl ?_
          simp [Moment.after, Segment.succeed, (sound _ _ found).keyed]
      | refused found live =>
          cases next
          cases subject
          rw [(sound _ _ found).keyed]
          exact .unended rfl found live
      | _ => cases next
  | answered suspends =>
      cases leads with
      | recorded found live =>
          cases next
          cases subject
          cases suspends
          refine .inl ⟨.shown rfl ?_, fun _ _ => .inl ?_⟩
          · simp [Moment.after, Segment.succeed, Suspension.subject]
          · simp [write?, found]
      | failed found =>
          cases next
          refine .inl ⟨.failed rfl, ?_⟩
          intro answer succeeds
          cases succeeds
      | failedUnknown absent =>
          cases next
          cases subject
          refine .inl ⟨.unknown absent, ?_⟩
          intro answer succeeds
          cases succeeds
      | stoppedUnknown absent =>
          cases next
          cases subject
          refine .inl ⟨.unknown absent, ?_⟩
          intro answer succeeds
          cases succeeds
      | stopped found accounted =>
          cases next
          cases subject
          cases suspends
          refine .inl ⟨.shown rfl ?_, fun _ _ => .inl ?_⟩
          · simp [Moment.after, Segment.succeed, Suspension.subject]
          · simp [write?, found]
      | stoppedLate =>
          cases next
          exact .inr ⟨_, _, rfl, rfl⟩
      | quelled =>
          cases next
          exact .inr ⟨_, _, rfl, rfl⟩
      | dropped =>
          cases next
          exact .inr ⟨_, _, rfl, rfl⟩
      | removed =>
          cases next
          cases subject
          cases suspends
          cases about
          refine .inl ⟨.removed rfl ?_, fun _ _ => .inl ?_⟩
          · simp [Moment.after, Segment.succeed, Suspension.subject]
          · simp [write?]
      | broken later =>
          cases next
          refine .inl ⟨.failed rfl, ?_⟩
          intro answer succeeds
          cases succeeds
      | _ => cases next

/-- An outcome that is settled before it is given is borne out in the moment
in which it is settled; if it is a success, that moment writes. -/
theorem settled (ticket : Nat)
    (leads : Leads seconds registry cause segment)
    (sound : ∀ key task, registry.find? key = some task → task.Sound key)
    (causes : operation.Causes cause)
    {suspension : Suspension}
    (next : segment.next = .waiting suspension)
    (settled : suspension.settled? = some result) :
    Moment.BearsOut ⟨ticket, cause, registry, segment⟩ operation
        suspension.subject result ∧
      ∀ answer, result = .ok answer → cause.write? registry ≠ none := by
  cases leads <;> cases next <;> cases settled
  case dropping absent =>
    refine ⟨.unknown absent, ?_⟩
    intro answer succeeds
    cases succeeds
  case quelling found ended =>
    cases causes with
    | answered suspends =>
        cases suspends
        refine ⟨.shown rfl ?_, fun _ _ => by simp [write?, found]⟩
        simp [Moment.after, Segment.await, Suspension.subject,
          (sound _ _ found).keyed]
  case stoppingLate found held other =>
    cases causes with
    | answered suspends =>
        cases suspends
        refine ⟨.shown rfl ?_, fun _ _ => by simp [write?, found]⟩
        simp [Moment.after, Segment.await, Suspension.subject,
          StopRequest.settle, (sound _ _ found).keyed]

end Cause.Leads

/-! ## Histories -/

/-- Why an operation that goes from one moment to another has this outcome: a
moment in between, its own, bears the outcome out, and if the operation
succeeds after a write, that is the moment that writes. -/
structure Justified (history : List Moment) (ticket : Nat)
    (operation : Operation) (key : String) (result : Result)
    (first last point : Nat) : Prop where
  begun : first ≤ point
  ended : point ≤ last
  borneOut :
    ∃ moment, history[point]? = some moment ∧ moment.ticket = ticket ∧
      moment.BearsOut operation key result
  written :
    ∀ answer, result = .ok answer →
      ∀ index writer, history[index]? = some writer →
        writer.ticket = ticket → writer.write? ≠ none →
          index = point

/-- What a history says about each single operation. -/
structure Atomic (history : List Moment) : Prop where
  /-- A moment leaves the registry as its write makes it, and as it was if it
  makes none. -/
  written :
    ∀ moment ∈ history,
      moment.after =
        moment.write?.elim moment.before (Write.apply moment.before)
  /-- An operation writes once at most. -/
  once :
    ∀ (left right : Nat) (first second : Moment),
      history[left]? = some first → history[right]? = some second →
      first.ticket = second.ticket →
      first.write? ≠ none → second.write? ≠ none →
        left = right
  /-- A reply answers a call that its operation has made before. -/
  asked :
    ∀ (index : Nat) (moment : Moment) (suspension : Suspension)
      (reply : suspension.call.Reply),
      history[index]? = some moment →
      moment.cause = .answered suspension reply →
        ∃ earlier issue, earlier < index ∧
          history[earlier]? = some issue ∧ issue.ticket = moment.ticket ∧
          issue.call? = some suspension.call
  /-- An outcome is borne out at one moment of its operation. -/
  justified :
    ∀ (first last : Nat) (start final : Moment) (operation : Operation)
      (key : String) (result : Result),
      history[first]? = some start → start.cause = .begun operation →
      operation.subject? = some key →
      history[last]? = some final → final.ticket = start.ticket →
      final.result? = some result →
        ∃ point,
          Justified history start.ticket operation key result first last
            point

namespace Run

variable {seconds : Nat} {history : List Moment} {world : World}

/-- An outcome is borne out at one moment of its operation. -/
theorem outcome_justified (run : Run seconds history world)
    {first last : Nat} {start final : Moment} {operation : Operation}
    {key : String} {result : Result}
    (here : history[first]? = some start)
    (begun : start.cause = .begun operation)
    (about : operation.subject? = some key)
    (there : history[last]? = some final)
    (own : final.ticket = start.ticket)
    (ended : final.result? = some result) :
    ∃ point,
      Justified history start.ticket operation key result first last
        point := by
  have belongs {moment : Moment} {index : Nat}
      (place : history[index]? = some moment)
      (same : moment.ticket = start.ticket) :
      operation.Causes moment.cause ∧
        moment.cause.subject? = some key := by
    have member := List.mem_of_getElem? place
    rcases run.causes_of_began member
        ⟨start, List.mem_of_getElem? here, same.symm, begun⟩ with
      ⟨causes, subject⟩
    exact ⟨causes, subject.symm.trans about⟩
  have member := List.mem_of_getElem? there
  rcases belongs there own with ⟨causes, subject⟩
  rcases (run.leads member).bearsOut final.ticket (run.sound_before member)
      causes about subject (Next.result?_eq_some.mp ended) with
    ⟨bears, writes⟩ | ⟨suspension, reply, answered, settled⟩
  · refine ⟨last, run.begun_le here begun there own, Nat.le_refl _,
      ⟨final, there, own, bears⟩, ?_⟩
    intro answer succeeds index writer place same written
    rcases writes answer succeeds with writes | begunHere
    · exact run.write_unique place there (same.trans own.symm) written
        writes
    · -- The operation has one moment only.
      apply Nat.le_antisymm
      · exact run.le_ended there ended place (same.trans own.symm)
      · exact run.begun_le there begunHere place (same.trans own.symm)
  · -- The outcome was settled when the last call was made.
    rcases run.asked there answered with
      ⟨point, issue, below, place, ticket, next⟩
    have same := ticket.trans own
    have issueMember := List.mem_of_getElem? place
    rcases (run.leads issueMember).settled issue.ticket
        (run.sound_before issueMember) (belongs place same).1 next
        settled with
      ⟨bears, writes⟩
    rw [answered] at subject
    cases subject
    refine ⟨point, run.begun_le here begun place same, Nat.le_of_lt below,
      ⟨issue, place, same, bears⟩, ?_⟩
    intro answer succeeds index writer placeWriter sameWriter written
    exact run.write_unique placeWriter place (sameWriter.trans same.symm)
      written (writes answer succeeds)

/-- Every operation takes effect at one moment. -/
theorem atomic (run : Run seconds history world) : Atomic history := by
  constructor
  · intro moment member
    exact (run.leads member).written
  · intro left right first second here there same firstWrites secondWrites
    exact run.write_unique here there same firstWrites secondWrites
  · intro index moment suspension reply place answered
    rcases run.asked place answered with
      ⟨earlier, issue, below, here, own, next⟩
    refine ⟨earlier, issue, below, here, own, ?_⟩
    rw [Moment.call?, next]
    rfl
  · intro first last start final operation key result here begun about there
      own ended
    exact run.outcome_justified here begun about there own ended

end Run

/-! A launch that answers late is borne out by the moment in which it recorded
its container, although its task is gone by the time it answers and another
one stands under its id. -/

theorem Run.atomic_overtaken :
    Run 10 (World.play 10 {} overtakenScript).1
        (World.play 10 {} overtakenScript).2 ∧
      Atomic (World.play 10 {} overtakenScript).1 := by
  have run := Run.empty.play overtakenScript_allowed
  exact ⟨run, Run.atomic run⟩

end Workloads
