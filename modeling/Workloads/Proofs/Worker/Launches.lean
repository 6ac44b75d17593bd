import Workloads.Proofs.Worker.Shutdown
import Workloads.Proofs.Worker.Subject

/-!
# One launch for each id

A launch runs its container in its first segment and nowhere else.  Where no id
is launched twice, the run of a launch is therefore the only one for its id,
and so is its answer: an id has at most one container, and a launch that fails
has not been preceded by one that did not.
-/

namespace Workloads

/-- The id of the launch that begins with a cause. -/
def Cause.launched? : Cause → Option String
  | begun (.launch id) => some id
  | _ => none

/-- The ids of the launches, in the order in which these began. -/
def launchedIds (history : List Moment) : List String :=
  history.filterMap (fun moment => moment.cause.launched?)

theorem launchedIds_concat (history : List Moment) (moment : Moment) :
    launchedIds (history ++ [moment]) =
      launchedIds history ++ moment.cause.launched?.toList :=
  filterMap_concat _ history moment

/-- Whether no id was launched twice. -/
def LaunchedOnce (history : List Moment) : Prop :=
  (launchedIds history).Nodup

theorem LaunchedOnce.of_append {early late : List Moment}
    (once : LaunchedOnce (early ++ late)) : LaunchedOnce early := by
  rw [LaunchedOnce, launchedIds, List.filterMap_append] at once
  exact (List.nodup_append.mp once).1

/-- The id of the task whose container is run in a moment. -/
def Moment.runs? (moment : Moment) : Option String :=
  match moment.call? with
  | some (.run task) => some task.id
  | _ => none

/-- The ids of the tasks whose containers were run. -/
def runIds (history : List Moment) : List String :=
  history.filterMap Moment.runs?

theorem runIds_concat (history : List Moment) (moment : Moment) :
    runIds (history ++ [moment]) =
      runIds history ++ moment.runs?.toList :=
  filterMap_concat _ history moment

theorem Cause.launched?_eq_some {cause : Cause} {id : String} :
    cause.launched? = some id ↔ cause = .begun (.launch id) := by
  constructor
  · intro launched
    unfold launched? at launched
    split at launched
    · cases launched
      rfl
    · cases launched
  · rintro rfl
    rfl

/-- Only the beginning of a launch leaves an operation waiting for a run. -/
theorem Cause.Leads.of_running
    {seconds : Nat} {registry : Registry} {cause : Cause}
    {segment : Segment} {id : String} {task : Task}
    (leads : Leads seconds registry cause segment)
    (next : segment.next = .waiting (.running id task)) :
    cause = .begun (.launch id) ∧ registry.find? id = some task := by
  cases leads <;> cases next
  case launching found => exact ⟨rfl, found⟩

/-- A container is run for the id of a launch that begins. -/
theorem Moment.launched_of_runs
    {seconds : Nat} {registry : Registry} {moment : Moment} {id : String}
    (leads : moment.cause.Leads seconds registry moment.segment)
    (sound : ∀ key task, registry.find? key = some task → task.Sound key)
    (runs : moment.runs? = some id) :
    moment.cause.launched? = some id := by
  unfold runs? at runs
  split at runs
  · rename_i task call
    cases runs
    rcases Option.map_eq_some_iff.mp call with ⟨suspension, waiting, same⟩
    have next := Next.suspension?_eq_some.mp waiting
    cases suspension with
    | running key seen =>
        cases same
        rcases leads.of_running next with ⟨begun, found⟩
        rw [begun, (sound _ _ found).keyed]
        rfl
    | _ => cases same
  · cases runs

namespace Run

variable {seconds : Nat} {history : List Moment} {world : World}
  {id container other : String}

/-- Each run belongs to a launch of its own. -/
theorem runIds_sublist (run : Run seconds history world) :
    (runIds history).Sublist (launchedIds history) := by
  induction run with
  | empty => exact List.Sublist.refl _
  | @step history world ticket cause past allowed hypothesis =>
      have leads :
          (world.moment seconds ticket cause).cause.Leads seconds
            world.registry (world.moment seconds ticket cause).segment :=
        Cause.leads_segment ..
      rw [runIds_concat, launchedIds_concat]
      apply hypothesis.append
      cases runs : (world.moment seconds ticket cause).runs? with
      | none => exact List.nil_sublist _
      | some id =>
          rw [Moment.launched_of_runs leads past.sound runs]

/-! ## Waiting for a run -/

/-- A launch that waits for its run has only begun. -/
theorem running_begun (run : Run seconds history world)
    {ticket : Nat} {seen : Task}
    (waits : world.flights ticket = some (.running id seen)) :
    (∃ moment ∈ history, moment.ticket = ticket ∧
        moment.cause = .begun (.launch id)) ∧
      ∀ moment ∈ history, moment.ticket = ticket →
        moment.cause = .begun (.launch id) := by
  rcases run.suspended waits with ⟨beginning, member, ticket, next⟩
  have begun := ((run.leads member).of_running next).1
  refine ⟨⟨beginning, member, ticket, begun⟩, ?_⟩
  intro moment other same
  rcases (run.only_begun waits rfl other same).1 with ⟨operation, started⟩
  rw [run.begun_unique other member started begun (same.trans ticket.symm)]
  exact begun

/-- As long as the launch of an id waits for its run, no run has been answered
for this id. -/
theorem running_unanswered (run : Run seconds history world)
    (once : LaunchedOnce history)
    {ticket : Nat} {seen : Task}
    (waits : world.flights ticket = some (.running id seen))
    {moment : Moment} (member : moment ∈ history) {task : Task}
    {reply : Except RuntimeFailure String} :
    moment.cause ≠ .answered (.running id task) reply := by
  intro answered
  rcases run.running_begun waits with
    ⟨⟨beginning, beginningMember, beginningTicket, begun⟩, only⟩
  rcases run.of_mem member with ⟨early, late, past, rfl, earlier, allowed, _⟩
  rw [answered] at allowed
  cases allowed with
  | answer waits' reply =>
      rcases earlier.running_begun waits' with
        ⟨⟨first, firstMember, firstTicket, firstBegun⟩, _⟩
      have same : first = beginning :=
        eq_of_nodup_filterMap once (List.mem_append_left _ firstMember)
          beginningMember
          (Cause.launched?_eq_some.mpr firstBegun)
          (Cause.launched?_eq_some.mpr begun)
      have ticket : moment.ticket = ticket := by
        rw [← firstTicket, same, beginningTicket]
      rw [only moment member ticket] at answered
      cases answered

/-- The run for an id is answered once. -/
theorem run_answer_unique (run : Run seconds history world)
    (once : LaunchedOnce history)
    {first second : Moment} {left right : Task}
    {leftReply rightReply : Except RuntimeFailure String}
    (firstMember : first ∈ history) (secondMember : second ∈ history)
    (firstAnswered : first.cause = .answered (.running id left) leftReply)
    (secondAnswered :
      second.cause = .answered (.running id right) rightReply) :
    first = second := by
  induction run with
  | empty => cases firstMember
  | @step history world ticket cause past allowed hypothesis =>
      have onceBefore := once.of_append
      -- The answer that comes now is the first one for its id.
      have earliest
          {old : Moment} {task seen : Task}
          {reply latest : Except RuntimeFailure String}
          (member : old ∈ history)
          (now : cause = .answered (.running id seen) latest) :
          old.cause ≠ .answered (.running id task) reply := by
        subst now
        cases allowed with
        | answer waits =>
            exact past.running_unanswered onceBefore waits member
      rcases List.mem_append.mp firstMember with firstOld | firstNew <;>
        rcases List.mem_append.mp secondMember with secondOld | secondNew
      · exact hypothesis onceBefore firstOld secondOld
      · rw [List.mem_singleton.mp secondNew] at secondAnswered
        exact absurd firstAnswered (earliest firstOld secondAnswered)
      · rw [List.mem_singleton.mp firstNew] at firstAnswered
        exact absurd secondAnswered (earliest secondOld firstAnswered)
      · rw [List.mem_singleton.mp firstNew, List.mem_singleton.mp secondNew]

/-- An id has one container. -/
theorem returned_unique (run : Run seconds history world)
    (once : LaunchedOnce history)
    (first : Returned history id container)
    (second : Returned history id other) :
    container = other := by
  rcases first with ⟨left, leftMember, leftReturned⟩
  rcases second with ⟨right, rightMember, rightReturned⟩
  rcases Cause.returned?_eq_some.mp leftReturned with ⟨seen, leftAnswered⟩
  rcases Cause.returned?_eq_some.mp rightReturned with ⟨task, rightAnswered⟩
  have same : left = right :=
    run.run_answer_unique once leftMember rightMember leftAnswered
      rightAnswered
  subst right
  cases leftReturned.symm.trans rightReturned
  rfl

/-- No launch fails over a container. -/
theorem not_endedByFailure (run : Run seconds history world)
    (once : LaunchedOnce history) :
    ¬EndedByFailure history id container := by
  rintro ⟨moment, member, seen, task, failure, failed, found, live, held⟩
  rcases List.append_of_mem member with ⟨early, late, rfl⟩
  rcases run.split_leads with ⟨past, earlier, _, before, _⟩
  rw [before] at found
  rcases earlier.held_returned found held with ⟨first, firstMember, returned⟩
  rcases Cause.returned?_eq_some.mp returned with ⟨seen, answered⟩
  have same : first = moment :=
    run.run_answer_unique once (List.mem_append_left _ firstMember) member
      answered failed
  subst same
  cases answered.symm.trans failed

end Run

end Workloads
