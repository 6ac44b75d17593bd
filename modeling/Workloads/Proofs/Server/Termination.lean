import Workloads.Proofs.Server.Session
import Workloads.Proofs.Worker.Finality

/-!
# Responses to terminations

A termination that ends its task responds once the container is down.  A
termination that finds its task ended responds at once with the record as it
is stored; the container's stop has been asked for by then, but it may still be
waited for, and it may have failed.
-/

namespace Workloads

/-! ## Responses of status 200 -/

@[simp]
theorem Http.Request.deliver_status
    (request : Http.Request) (response : Http.Response) :
    (request.deliver response).status = response.status := by
  rw [deliver]
  split <;> rfl

/-- Only an operation that succeeds is answered with status 200. -/
theorem Http.of_respond_ok {result : Result}
    (ok : (Http.respond result).status = 200) :
    ∃ answer, result = .ok answer := by
  cases result with
  | ok answer => exact ⟨answer, rfl⟩
  | error error => cases error <;> cases ok

/-! ## What a termination shows -/

/-- Whether a termination begins in a moment and finds its task ended, so that
it ends at once with the task as it is. -/
structure Moment.FindsEnded (moment : Moment) (id : String)
    (request : StopRequest) (task : Task) : Prop where
  begun : moment.cause = .begun (.terminate id request)
  found : moment.before.find? id = some task
  ended : task.status = .terminated
  unchanged : moment.after = moment.before
  silent : moment.call? = none

/-- How a termination comes to show a task with a container. -/
theorem Cause.Leads.of_terminate
    {seconds : Nat} {registry : Registry} {cause : Cause}
    {segment : Segment} {id : String} {request : StopRequest}
    {answer : Answer}
    (leads : Leads seconds registry cause segment)
    (causes : (Operation.terminate id request).Causes cause)
    (next : segment.next = .finished (.ok answer)) :
    ∃ task, answer = .task task ∧
      ∀ container, task.containerId = some container →
        (cause = .begun (.terminate id request) ∧
            registry.find? id = some task ∧
            task.status = .terminated ∧
            segment.registry = registry) ∨
          (∃ limit reply,
            cause = .answered (.stopping id request container limit)
              (.ok reply)) ∨
          ∃ seen limit reply,
            cause = .answered (.stoppingLate task seen limit)
              (.ok reply) := by
  cases causes with
  | begun =>
      cases leads with
      | endedBefore found ended =>
          cases next
          exact ⟨_, rfl, fun _ _ => .inl ⟨rfl, found, ended, rfl⟩⟩
      | @endedBare _ _ task found live bare =>
          cases next
          refine ⟨_, rfl, ?_⟩
          intro container held
          rw [StopRequest.settle, Task.settle_containerId, bare] at held
          cases held
      | _ => cases next
  | answered suspends =>
      cases suspends with
      | stopping =>
          cases leads with
          | stopped found accounted =>
              cases next
              refine ⟨_, rfl, ?_⟩
              intro container held
              rw [StopRequest.settle, Task.settle_containerId] at held
              cases accounted container held
              exact .inr (.inl ⟨_, _, rfl⟩)
          | _ => cases next
      | stoppingLate =>
          cases leads with
          | stoppedLate =>
              cases next
              exact ⟨_, rfl, fun _ _ => .inr (.inr ⟨_, _, _, rfl⟩)⟩
          | _ => cases next

/-- A container that is stopped late is the one of the task that will be
shown. -/
theorem Cause.Leads.of_late
    {seconds : Nat} {registry : Registry} {cause : Cause}
    {segment : Segment} {task : Task} {container : String} {limit : Nat}
    (leads : Leads seconds registry cause segment)
    (next : segment.next = .waiting (.stoppingLate task container limit)) :
    task.containerId = some container := by
  cases leads <;> cases next
  case stoppingLate found held other =>
    rw [StopRequest.settle, Task.settle_containerId]
    exact held

theorem Run.late_container {seconds : Nat} {history : List Moment}
    {world : World} (run : Run seconds history world)
    {ticket limit : Nat} {task : Task} {container : String}
    (waits :
      world.flights ticket = some (.stoppingLate task container limit)) :
    task.containerId = some container := by
  rcases run.suspended waits with ⟨moment, member, _, next⟩
  exact (run.leads member).of_late next

/-- A termination is answered with status 200 after a stop of the container
that it shows has succeeded, unless it finds its task ended.  In that case it
shows the task as it is stored, and the container's stop has been asked for,
unless a launch has failed over it. -/
theorem Session.termination_answered {seconds : Nat}
    {early late : List Turn} {server : Server} {request : Http.Request}
    {id : String} {stop : StopRequest} {moment : Moment}
    {response : Http.Response}
    (session : Session seconds
      (early ++ .worked (.client request (.terminate id stop)) moment :: late)
      server)
    (sent :
      (Turn.worked (.client request (.terminate id stop)) moment).response? =
        some response)
    (ok : response.status = 200) :
    ∃ task, moment.Shows task ∧
      response = request.deliver (.json 200 task.summary.write) ∧
      ∀ container, task.summary.containerId = some container →
        StopDone (moments early ++ [moment]) container ∨
          moment.FindsEnded id stop task ∧
            (StopIssued (moments early) container ∨
              EndedByFailure (moments early) id container) := by
  rcases session.split with ⟨past, earlier, allowed, same⟩
  rcases earlier.causes allowed with ⟨operation, asks, causes⟩
  cases asks
  have leads : moment.cause.Leads seconds past.world.registry
      moment.segment := by
    rw [same]
    exact Cause.leads_segment ..
  rcases Option.bind_eq_some_iff.mp sent with ⟨result, shown, delivered⟩
  cases delivered
  rw [Http.Request.deliver_status] at ok
  rcases Http.of_respond_ok ok with ⟨answer, rfl⟩
  rcases leads.of_terminate causes (Next.result?_eq_some.mp shown) with
    ⟨task, rfl, ways⟩
  refine ⟨task, shown, rfl, ?_⟩
  intro container held
  rcases ways container held with
    ⟨begun, found, ended, unchanged⟩ | ⟨limit, reply, answered⟩ |
      ⟨seen, limit, reply, answered⟩
  · right
    have before : moment.before = past.world.registry := by
      rw [same]
      rfl
    refine ⟨⟨begun, ?_, ended, ?_, ?_⟩,
      earlier.run.ended_stopped found ended held⟩
    · rw [before]
      exact found
    · rw [before]
      exact unchanged
    · rw [Moment.call?, Next.result?_eq_some.mp shown]
      rfl
  · left
    refine ⟨moment, List.mem_append_right _ List.mem_cons_self, limit, ?_⟩
    rw [answered]
    rfl
  · left
    rw [answered] at allowed
    cases allowed with
    | answer known waits =>
        have mine := earlier.run.late_container waits
        cases held.symm.trans mine
        refine ⟨moment, List.mem_append_right _ List.mem_cons_self, limit, ?_⟩
        rw [answered]
        rfl

/-! A termination of a running task waits for the stop. -/

/-- A task runs, and its termination asks for the stop. -/
def stoppingScript : List (Nat × Party × Cause) := [
  (0, Sample.submitter, .begun (.submit Sample.spec)),
  (1, Sample.launcher, .begun (.launch "a")),
  (1, Sample.launcher,
    .answered (.running "a" (Task.ofSpec Sample.spec)) (.ok "c")),
  (2, Sample.terminator, .begun (.terminate "a" {}))]

def stoppingServer : Server :=
  (Server.play 10 {} stoppingScript).2

def stoppingTurns : List Turn :=
  (Server.play 10 {} stoppingScript).1

/-- The stop succeeds. -/
def stoppedMoment : Moment :=
  stoppingServer.world.moment 10 2
    (.answered (.stopping "a" {} "c" 10) (.ok ()))

theorem stoppingScript_allowed : Server.AllowsAll 10 {} stoppingScript :=
  ⟨Sample.submitter_allowed (by decide),
    .launch (by decide) (by decide), .answer rfl rfl _,
    Sample.terminator_allowed (by decide), trivial⟩

theorem Session.termination_answered_stopped :
    (∃ server,
      Session 10
        (stoppingTurns ++ [.worked Sample.terminator stoppedMoment])
        server) ∧
    ∃ response,
      (Turn.worked Sample.terminator stoppedMoment).response? =
          some response ∧
        response.status = 200 ∧
        ∃ task, stoppedMoment.Shows task ∧
          response =
            Sample.termination.deliver (.json 200 task.summary.write) ∧
          ∀ container, task.summary.containerId = some container →
            StopDone (moments stoppingTurns ++ [stoppedMoment]) container ∨
              stoppedMoment.FindsEnded "a" {} task ∧
                (StopIssued (moments stoppingTurns) container ∨
                  EndedByFailure (moments stoppingTurns) "a" container) := by
  have past : Session 10 stoppingTurns stoppingServer :=
    Session.empty.play stoppingScript_allowed
  have allowed :
      stoppingServer.Allows 2 Sample.terminator
        (.answered (.stopping "a" {} "c" 10) (.ok ())) :=
    .answer rfl rfl _
  have session := past.work allowed
  exact ⟨⟨_, session⟩, _, rfl, rfl,
    Session.termination_answered session rfl rfl⟩

/-! A termination of an ended task waits for nothing. -/

/-- The record that the launch leaves. -/
def unstoppedTask : Task :=
  { Task.ofSpec Sample.spec with
    status := .terminated
    containerId := some "c"
    reason := some defaultReason
    message := some "" }

/-- A task is ended while its container starts, and the container does not
stop. -/
def unstoppedScript : List (Nat × Party × Cause) := [
  (0, Sample.submitter, .begun (.submit Sample.spec)),
  (1, Sample.launcher, .begun (.launch "a")),
  (2, Sample.terminator, .begun (.terminate "a" {})),
  (1, Sample.launcher,
    .answered (.running "a" (Task.ofSpec Sample.spec)) (.ok "c")),
  (1, Sample.launcher,
    .answered (.quelling unstoppedTask "c" 10)
      (.error (.stopContainer "c" "busy")))]

def unstoppedServer : Server :=
  (Server.play 10 {} unstoppedScript).2

def unstoppedTurns : List Turn :=
  (Server.play 10 {} unstoppedScript).1

/-- The task is terminated once more. -/
def repeatedMoment : Moment :=
  unstoppedServer.world.moment 10 3 (.begun (.terminate "a" {}))

theorem unstoppedScript_allowed : Server.AllowsAll 10 {} unstoppedScript :=
  ⟨Sample.submitter_allowed (by decide),
    .launch (by decide) (by decide),
    Sample.terminator_allowed (by decide),
    .answer rfl rfl _, .answer rfl rfl _, trivial⟩

/-- The response has status 200 and shows the container, of which no stop has
succeeded. -/
theorem repeated_termination_unstopped :
    (∃ server,
      Session 10
        (unstoppedTurns ++ [.worked Sample.terminator repeatedMoment])
        server) ∧
      ∃ response task,
        (Turn.worked Sample.terminator repeatedMoment).response? =
            some response ∧
          response.status = 200 ∧
          repeatedMoment.Shows task ∧
          task.summary.containerId = some "c" ∧
          ¬StopDone (moments unstoppedTurns ++ [repeatedMoment]) "c" := by
  have past : Session 10 unstoppedTurns unstoppedServer :=
    Session.empty.play unstoppedScript_allowed
  refine ⟨⟨_, past.work (Sample.terminator_allowed (by decide))⟩,
    _, _, rfl, rfl, rfl, rfl, ?_⟩
  rintro ⟨moment, member, limit, stopped⟩
  have listed :
      .stop "c" limit ∈
        (moments unstoppedTurns ++ [repeatedMoment]).filterMap
          (fun moment => moment.cause.completed?) :=
    List.mem_filterMap.mpr ⟨moment, member, stopped⟩
  have calls :
      (moments unstoppedTurns ++ [repeatedMoment]).filterMap
          (fun moment => moment.cause.completed?) =
        [.run (Task.ofSpec Sample.spec)] :=
    rfl
  rw [calls] at listed
  cases List.mem_singleton.mp listed

end Workloads
