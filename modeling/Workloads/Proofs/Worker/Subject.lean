import Workloads.Proofs.Worker.Record

/-!
# What an operation is about

Every operation but the listing is about one id, from its first segment to its
last.  A suspended operation carries its id along, either as such or within the
record that it keeps; because every record has the id of its key, the two
agree.  A segment changes the registry under the id that it is about and
nowhere else.
-/

namespace Workloads

/-! ## Whose operation it is -/

/-- What an operation can be suspended at. -/
inductive Operation.Suspends : Operation → Suspension → Prop where
  | running {id : String} {task : Task} :
      Suspends (.launch id) (.running id task)
  | dropping {id container : String} :
      Suspends (.launch id) (.dropping id container)
  | quelling {id container : String} {task : Task} {limit : Nat} :
      Suspends (.launch id) (.quelling task container limit)
  | stopping {id container : String} {request : StopRequest} {limit : Nat} :
      Suspends (.terminate id request)
        (.stopping id request container limit)
  | stoppingLate {id container : String} {request : StopRequest}
      {task : Task} {limit : Nat} :
      Suspends (.terminate id request) (.stoppingLate task container limit)
  | removing {id container : String} {task : Task} :
      Suspends (.remove id) (.removing task container)

/-- Whether a cause can set a segment of an operation going. -/
inductive Operation.Causes (operation : Operation) : Cause → Prop where
  | begun : Causes operation (.begun operation)
  | answered {suspension : Suspension} {reply : suspension.call.Reply}
      (suspends : operation.Suspends suspension) :
      Causes operation (.answered suspension reply)

/-- Each segment of an operation ends where the operation can be suspended,
if it does not end the operation. -/
theorem Cause.Leads.suspends
    {seconds : Nat} {registry : Registry} {cause : Cause}
    {segment : Segment} {operation : Operation} {suspension : Suspension}
    (leads : Leads seconds registry cause segment)
    (causes : operation.Causes cause)
    (next : segment.next = .waiting suspension) :
    operation.Suspends suspension := by
  cases causes with
  | begun =>
      cases leads with
      | launching =>
          cases next
          exact .running
      | stopping =>
          cases next
          exact .stopping
      | removing =>
          cases next
          exact .removing
      | _ => cases next
  | answered suspends =>
      cases leads with
      | quelling =>
          cases next
          cases suspends
          exact .quelling
      | dropping =>
          cases next
          cases suspends
          exact .dropping
      | stoppingLate =>
          cases next
          cases suspends
          exact .stoppingLate
      | _ => cases next

/-- Whether an operation that is suspended here has only begun. -/
def Suspension.isFirst : Suspension → Bool
  | running _ _ | stopping _ _ _ _ | removing _ _ => true
  | dropping _ _ | quelling _ _ _ | stoppingLate _ _ _ => false

theorem Cause.Leads.of_first
    {seconds : Nat} {registry : Registry} {cause : Cause}
    {segment : Segment} {suspension : Suspension}
    (leads : Leads seconds registry cause segment)
    (next : segment.next = .waiting suspension)
    (first : suspension.isFirst = true) :
    ∃ operation, cause = .begun operation := by
  cases leads <;> cases next
  case launching found => exact ⟨_, rfl⟩
  case stopping found live held => exact ⟨_, rfl⟩
  case removing found ended held => exact ⟨_, rfl⟩
  all_goals cases first

/-! ## Ids -/

/-- The id that an operation is about. -/
def Operation.subject? : Operation → Option String
  | submit spec => some spec.id
  | get id | launch id | terminate id _ | remove id => some id
  | list => none

/-- The id that a suspended operation is about. -/
def Suspension.subject : Suspension → String
  | running id _ | dropping id _ | stopping id _ _ _ => id
  | quelling task _ _ | stoppingLate task _ _ | removing task _ => task.id

/-- The id that a segment with this cause is about. -/
def Cause.subject? : Cause → Option String
  | begun operation => operation.subject?
  | answered suspension _ => some suspension.subject

namespace Cause.Leads

variable {seconds : Nat} {registry : Registry} {cause : Cause}
  {segment : Segment}

/-- An operation is suspended with the id that it is about. -/
theorem subject_eq (leads : Leads seconds registry cause segment)
    (sound : ∀ key task, registry.find? key = some task → task.Sound key)
    {suspension : Suspension}
    (next : segment.next = .waiting suspension) :
    cause.subject? = some suspension.subject := by
  cases leads <;> cases next
  case launching found => rfl
  case stopping found live held => rfl
  case dropping absent => rfl
  case removing found ended held =>
    simp [subject?, Operation.subject?, Suspension.subject,
      (sound _ _ found).keyed]
  case quelling found ended =>
    simp [subject?, Suspension.subject, (sound _ _ found).keyed]
  case stoppingLate found held other =>
    simp [subject?, Suspension.subject, StopRequest.settle,
      (sound _ _ found).keyed]

end Cause.Leads

/-- A segment leaves every record alone that it is not about. -/
theorem Cause.Writes.frame
    {registry : Registry} {cause : Cause} {segment : Segment} {key : String}
    (writes : Writes registry cause segment)
    (sound : ∀ key task, registry.find? key = some task → task.Sound key)
    (other : cause.subject? ≠ some key) :
    segment.registry.find? key = registry.find? key := by
  have elsewhere {id : String} {task : Task}
      (subject : cause.subject? = some id)
      (stored : segment.registry = registry.insert id task) :
      segment.registry.find? key = registry.find? key := by
    rw [stored, Registry.find?_insert, if_neg]
    rintro rfl
    exact other subject
  have gone {id : String}
      (subject : cause.subject? = some id)
      (stored : segment.registry = registry.delete id) :
      segment.registry.find? key = registry.find? key := by
    rw [stored, Registry.find?_delete, if_neg]
    rintro rfl
    exact other subject
  cases writes with
  | nothing same => rw [same]
  | entered absent stored => exact elsewhere rfl stored
  | ended found bare stored => exact elsewhere rfl stored
  | stopped found stored late => exact elsewhere rfl stored
  | recorded found stored quelled => exact elsewhere rfl stored
  | failed found stored => exact elsewhere rfl stored
  | removedBare found ended bare stored =>
      rw [(sound _ _ found).keyed] at stored
      exact gone rfl stored
  | removed stored => exact gone rfl stored

/-! ## Operations of a run -/

/-- Whether an operation has begun under a ticket. -/
def Began (history : List Moment) (ticket : Nat) (operation : Operation) :
    Prop :=
  ∃ moment ∈ history, moment.ticket = ticket ∧
    moment.cause = .begun operation

theorem Began.of_cause
    {early late : List Moment} {moment : Moment} {operation : Operation}
    (begun : moment.cause = .begun operation) :
    Began (early ++ moment :: late) moment.ticket operation :=
  ⟨moment, List.mem_append_right _ List.mem_cons_self, rfl, begun⟩

theorem Began.append
    {early : List Moment} {ticket : Nat} {operation : Operation}
    (began : Began early ticket operation) (late : List Moment) :
    Began (early ++ late) ticket operation := by
  rcases began with ⟨moment, member, rest⟩
  exact ⟨moment, List.mem_append_left _ member, rest⟩

namespace Run

variable {seconds : Nat} {history : List Moment} {world : World}

/-- An operation that waits for its first call has only begun. -/
theorem only_begun (run : Run seconds history world)
    {ticket : Nat} {suspension : Suspension}
    (waits : world.flights ticket = some suspension)
    (first : suspension.isFirst = true)
    {moment : Moment} (member : moment ∈ history)
    (own : moment.ticket = ticket) :
    (∃ operation, moment.cause = .begun operation) ∧
      moment.segment.next = .waiting suspension := by
  induction run with
  | empty => cases waits
  | @step history world now cause past allowed hypothesis =>
      rcases World.flights_advance waits with
        ⟨rfl, next⟩ | ⟨apart, earlier⟩
      · have leads := Cause.leads_segment seconds world.registry cause
        rcases leads.of_first next first with ⟨operation, rfl⟩
        rcases List.mem_append.mp member with old | new
        · cases allowed with
          | begin unused =>
              exact absurd (past.ticket_mem old) (own ▸ unused)
        · rw [List.mem_singleton.mp new]
          exact ⟨⟨operation, rfl⟩, next⟩
      · rcases List.mem_append.mp member with old | new
        · exact hypothesis earlier old
        · rw [List.mem_singleton.mp new] at own
          exact absurd own.symm apart

/-- An operation that waits has begun, and it waits for the id that it is
about. -/
theorem waiting_began (run : Run seconds history world)
    {ticket : Nat} {suspension : Suspension}
    (waits : world.flights ticket = some suspension) :
    ∃ operation, Began history ticket operation ∧
      operation.Suspends suspension ∧
      operation.subject? = some suspension.subject := by
  induction run generalizing suspension with
  | empty => cases waits
  | @step history world own cause past allowed hypothesis =>
      rcases World.flights_advance waits with
        ⟨rfl, next⟩ | ⟨other, earlier⟩
      · have leads := Cause.leads_segment seconds world.registry cause
        have subject := leads.subject_eq past.sound next
        cases allowed with
        | begin unused operation =>
            exact ⟨operation,
              ⟨_, List.mem_append_right _ List.mem_cons_self, rfl, rfl⟩,
              leads.suspends .begun next, subject⟩
        | answer waitsBefore reply =>
            rcases hypothesis waitsBefore with
              ⟨operation, began, suspends, about⟩
            exact ⟨operation, began.append _,
              leads.suspends (.answered suspends) next,
              about.trans subject⟩
      · rcases hypothesis earlier with ⟨operation, began, rest⟩
        exact ⟨operation, began.append _, rest⟩

/-- Every moment belongs to an operation that has begun. -/
theorem moment_began (run : Run seconds history world)
    {moment : Moment} (member : moment ∈ history) :
    ∃ operation, Began history moment.ticket operation ∧
      operation.Causes moment.cause ∧
      operation.subject? = moment.cause.subject? := by
  rcases run.of_mem member with ⟨early, late, past, rfl, earlier, allowed, _⟩
  generalize same : moment.cause = cause at allowed
  cases allowed with
  | begin unused operation =>
      exact ⟨operation, ⟨moment, member, rfl, same⟩, .begun, rfl⟩
  | answer waits reply =>
      rcases earlier.waiting_began waits with
        ⟨operation, began, suspends, about⟩
      exact ⟨operation, began.append _, .answered suspends, about⟩

theorem began_unique (run : Run seconds history world)
    {ticket : Nat} {left right : Operation}
    (first : Began history ticket left)
    (second : Began history ticket right) :
    left = right := by
  rcases first with ⟨early, earlyMember, earlyTicket, earlyBegun⟩
  rcases second with ⟨late, lateMember, lateTicket, lateBegun⟩
  have same : early = late :=
    run.begun_unique earlyMember lateMember earlyBegun lateBegun
      (earlyTicket.trans lateTicket.symm)
  rw [same, lateBegun] at earlyBegun
  cases earlyBegun
  rfl

/-- All moments under one ticket belong to the operation that has begun under
it, and are about its id. -/
theorem causes_of_began (run : Run seconds history world)
    {moment : Moment} (member : moment ∈ history)
    {operation : Operation}
    (began : Began history moment.ticket operation) :
    operation.Causes moment.cause ∧
      operation.subject? = moment.cause.subject? := by
  rcases run.moment_began member with ⟨other, begun, causes, subject⟩
  rw [run.began_unique began begun]
  exact ⟨causes, subject⟩

/-- An operation is about one id throughout. -/
theorem subject_unique (run : Run seconds history world)
    {first second : Moment}
    (firstMember : first ∈ history) (secondMember : second ∈ history)
    (same : first.ticket = second.ticket) :
    first.cause.subject? = second.cause.subject? := by
  rcases run.moment_began firstMember with ⟨operation, began, _, subject⟩
  rw [← subject]
  exact (run.causes_of_began secondMember (same ▸ began)).2

end Run

end Workloads
