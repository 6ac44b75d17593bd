import Workloads.Proofs.Http.Address
import Workloads.Proofs.Server.Session
import Workloads.Proofs.Worker.Provenance

/-!
# Reaching a task

A task is reached by the paths that name its id.  As long as it is registered, a
request for the task is answered with it, and requests that end or remove a task
take it up and touch nothing else.  A task of the empty id can be ended and
removed in this way, but it cannot be looked at.
-/

namespace Workloads

/-! ## What becomes of a task -/

/-- What the first moment of a termination does with the task that it finds. -/
inductive Moment.TakesEnd (moment : Moment) (id : String)
    (stop : StopRequest) (task : Task) : Prop where
  /-- The task has ended right after it, and is shown. -/
  | ended (stored : moment.after.find? id = some (stop.settle task))
      (result : moment.result? = some (.ok (.task (stop.settle task)))) :
      TakesEnd moment id stop task
  /-- The task's container is to stop first. -/
  | stopping {container : String} {limit : Nat}
      (held : task.containerId = some container)
      (unchanged : moment.after = moment.before)
      (next :
        moment.segment.next =
          .waiting (.stopping id stop container limit)) :
      TakesEnd moment id stop task

/-- What the first moment of a removal does with the task that it finds. -/
inductive Moment.TakesOut (moment : Moment) (id : String) (task : Task) :
    Prop where
  /-- The task is gone right after it. -/
  | gone (ended : task.status = .terminated)
      (absent : moment.after.find? id = none)
      (result : moment.result? = some (.ok .removed)) :
      TakesOut moment id task
  /-- The task's container is to be removed first. -/
  | removing {container : String} (ended : task.status = .terminated)
      (held : task.containerId = some container)
      (unchanged : moment.after = moment.before)
      (next : moment.segment.next = .waiting (.removing task container)) :
      TakesOut moment id task
  /-- The task has to end first. -/
  | refused (live : task.status ≠ .terminated)
      (unchanged : moment.after = moment.before)
      (result : moment.result? = some (.error (.notTerminated id))) :
      TakesOut moment id task

section

variable {seconds ticket : Nat} {world : World} {id : String} {task : Task}

theorem World.shows (found : world.registry.find? id = some task) :
    (world.moment seconds ticket (.begun (.get id))).result? =
      some (.ok (.task task)) := by
  have starts :
      Operation.start seconds world.registry (.get id) =
        .succeed world.registry (.task task) := by
    simp [Operation.start, found]
  rw [Moment.result?, World.moment, Cause.segment, starts]
  rfl

theorem World.takesEnd (found : world.registry.find? id = some task)
    (stop : StopRequest) :
    (world.moment seconds ticket (.begun (.terminate id stop))).TakesEnd id
      stop task := by
  have leads :=
    Cause.leads_segment seconds world.registry (.begun (.terminate id stop))
  unfold World.moment
  generalize Cause.segment seconds world.registry
    (.begun (.terminate id stop)) = segment at leads ⊢
  cases leads with
  | unknown target absent =>
      cases target
      cases found.symm.trans absent
  | endedBefore found' ended =>
      cases found.symm.trans found'
      have same : stop.settle task = task := Task.settle_of_ended ended _ _
      refine .ended ?_ ?_
      · rw [same]
        exact found
      · rw [same]
        rfl
  | endedBare found' live bare =>
      cases found.symm.trans found'
      exact .ended (by simp [Moment.after, Segment.succeed]) rfl
  | stopping found' live held =>
      cases found.symm.trans found'
      exact .stopping held rfl rfl

theorem World.takesOut (found : world.registry.find? id = some task)
    (keyed : task.id = id) :
    (world.moment seconds ticket (.begun (.remove id))).TakesOut id task := by
  have leads :=
    Cause.leads_segment seconds world.registry (.begun (.remove id))
  unfold World.moment
  generalize Cause.segment seconds world.registry (.begun (.remove id)) =
    segment at leads ⊢
  cases leads with
  | unknown target absent =>
      cases target
      cases found.symm.trans absent
  | removedBare found' ended bare =>
      cases found.symm.trans found'
      exact .gone ended (by simp [Moment.after, Segment.succeed, keyed]) rfl
  | removing found' ended held =>
      cases found.symm.trans found'
      exact .removing ended held rfl rfl
  | refused found' live =>
      cases found.symm.trans found'
      refine .refused live rfl ?_
      rw [← keyed]
      rfl

end

/-- A termination whose stop has succeeded ends the task that it finds. -/
theorem Cause.Leads.stopped_settled
    {seconds : Nat} {registry : Registry} {segment : Segment}
    {id container : String} {stop : StopRequest} {limit : Nat} {reply : Unit}
    {task : Task}
    (leads :
      Leads seconds registry
        (.answered (.stopping id stop container limit) (.ok reply)) segment)
    (found : registry.find? id = some task) :
    segment.registry.find? id = some (stop.settle task) := by
  cases leads with
  | stoppedUnknown absent => cases found.symm.trans absent
  | stopped found' accounted =>
      cases found.symm.trans found'
      simp [Segment.succeed]
  | stoppingLate found' held other =>
      cases found.symm.trans found'
      simp [Segment.await]

/-- A removal whose container is gone takes out its task. -/
theorem Cause.Leads.removed_forgotten
    {seconds : Nat} {registry : Registry} {segment : Segment}
    {task : Task} {container : String} {reply : Unit}
    (leads :
      Leads seconds registry (.answered (.removing task container) (.ok reply))
        segment) :
    segment.registry.find? task.id = none := by
  cases leads with
  | removed => simp [Segment.succeed]

/-! ## Requests for a task -/

theorem Http.Request.deliver_of_get {request : Http.Request}
    (get : request.method = "GET") (response : Http.Response) :
    request.deliver response = response := by
  rw [deliver, if_neg]
  rw [get]
  decide

/-- Whether a request is one for the task of this id. -/
inductive Http.Request.Concerns (request : Http.Request) (id : String) :
    Prop where
  | look (get : request.method = "GET")
      (names : Http.Names request.path id "") :
      Concerns request id
  | finish (post : request.method = "POST")
      (names : Http.Names request.path id "/terminate") :
      Concerns request id
  | forget (post : request.method = "POST")
      (names : Http.Names request.path id "/remove") :
      Concerns request id

/-- A request for a task asks for an operation on its id. -/
theorem Http.Request.Concerns.subject
    {request : Http.Request} {id : String} {endpoint : Http.Endpoint}
    {operation : Operation}
    (concerns : request.Concerns id)
    (understood : request.endpoint = .ok endpoint)
    (asks : endpoint.operation? = some operation) :
    operation.subject? = some id := by
  cases concerns with
  | look get names =>
      by_cases named : id = ""
      · subst named
        rw [Http.Request.endpoint_of_unnamed names] at understood
        cases understood
      · rw [Http.Request.endpoint_of_task names named get] at understood
        cases understood
        cases asks
        rfl
  | finish post names =>
      rw [Http.Request.endpoint_of_termination names post] at understood
      cases body : request.stopRequest with
      | error response =>
          rw [body] at understood
          cases understood
      | ok stop =>
          rw [body] at understood
          cases understood
          cases asks
          rfl
  | forget post names =>
      rw [Http.Request.endpoint_of_removal names post] at understood
      cases understood
      cases asks
      rfl

/-- Whether the service can take a request up with an operation. -/
structure Server.TakesUp (server : Server) (ticket : Nat)
    (request : Http.Request) (endpoint : Http.Endpoint)
    (operation : Operation) : Prop where
  understood : request.endpoint = .ok endpoint
  allowed :
    server.Allows ticket (.client request endpoint) (.begun operation)

theorem Server.TakesUp.of_understood {server : Server} {ticket : Nat}
    {request : Http.Request} {endpoint : Http.Endpoint}
    {operation : Operation}
    (understood : request.endpoint = .ok endpoint)
    (asks : endpoint.operation? = some operation)
    (unused : ticket ∉ server.world.tickets) :
    server.TakesUp ticket request endpoint operation :=
  ⟨understood, .ask understood asks unused⟩

/-! ## Sessions -/

/-- How a session, up to now and from now on, treats requests for tasks. -/
structure Reachable (seconds : Nat) (turns : List Turn) (server : Server) :
    Prop where
  /-- Every id can be named, by a path of whatever length that takes; a connection
  hands over addresses of at most 65534 octets only. -/
  named : ∀ id suffix, ∃ path, Http.Names path id suffix
  /-- A request for a registered task is answered with the task, if its id is
  not empty. -/
  shown :
    ∀ request id task ticket, request.method = "GET" →
      Http.Names request.path id "" → id ≠ "" →
      server.world.registry.find? id = some task →
      ticket ∉ server.world.tickets →
        server.TakesUp ticket request (.lookUp id) (.get id) ∧
          (Turn.worked (.client request (.lookUp id))
              (server.world.moment seconds ticket
                (.begun (.get id)))).response? =
            some (.json 200 task.summary.write) ∧
          task.id = id
  /-- A request for its termination ends it, once its container is down, -/
  ended :
    ∀ request id task stop ticket, request.method = "POST" →
      Http.Names request.path id "/terminate" →
      request.stopRequest = .ok stop →
      server.world.registry.find? id = some task →
      ticket ∉ server.world.tickets →
        server.TakesUp ticket request (.terminate id stop)
            (.terminate id stop) ∧
          (server.world.moment seconds ticket
            (.begun (.terminate id stop))).TakesEnd id stop task
  /-- as long as the task is still there then. -/
  settled :
    ∀ moment ∈ moments turns, ∀ id stop container limit reply task,
      moment.cause =
        .answered (.stopping id stop container limit) (.ok reply) →
      moment.before.find? id = some task →
        moment.after.find? id = some (stop.settle task)
  /-- A request for its removal takes it out if it has ended, once its
  container is gone. -/
  removed :
    ∀ request id task ticket, request.method = "POST" →
      Http.Names request.path id "/remove" →
      server.world.registry.find? id = some task →
      ticket ∉ server.world.tickets →
        server.TakesUp ticket request (.remove id) (.remove id) ∧
          (server.world.moment seconds ticket
            (.begun (.remove id))).TakesOut id task
  forgotten :
    ∀ moment ∈ moments turns, ∀ task container reply,
      moment.cause = .answered (.removing task container) (.ok reply) →
        moment.after.find? task.id = none
  /-- A request for a task leaves all other tasks as they are, and stops and
  removes only containers that were returned for the id. -/
  separate :
    ∀ early request endpoint moment late id,
      turns = early ++ .worked (.client request endpoint) moment :: late →
      request.Concerns id →
        (∀ key, key ≠ id →
          moment.after.find? key = moment.before.find? key) ∧
        ∀ container, moment.Stops container ∨ moment.Removes container →
          Returned (moments early) id container

namespace Session

variable {seconds : Nat} {turns : List Turn} {server : Server}

/-- A request for a task leaves all other tasks alone. -/
theorem request_confined
    {early late : List Turn} {request : Http.Request}
    {endpoint : Http.Endpoint} {moment : Moment} {id : String}
    (session : Session seconds
      (early ++ .worked (.client request endpoint) moment :: late) server)
    (concerns : request.Concerns id) :
    (∀ key, key ≠ id →
        moment.after.find? key = moment.before.find? key) ∧
      ∀ container, moment.Stops container ∨ moment.Removes container →
        Returned (moments early) id container := by
  rcases session.asks (List.mem_append_right _ List.mem_cons_self) with
    ⟨operation, ⟨understood, asks⟩, began⟩
  have run := session.run
  rw [moments_append, moments_worked] at run began
  have member : moment ∈ moments early ++ moment :: moments late :=
    List.mem_append_right _ List.mem_cons_self
  rcases run.causes_of_began member began with ⟨causes, about⟩
  have subject : moment.cause.subject? = some id :=
    about.symm.trans (concerns.subject understood asks)
  rcases run.split_leads with ⟨past, earlier, _, before, leads⟩
  constructor
  · intro key other
    rw [before]
    refine leads.writes.frame earlier.sound ?_
    rw [subject]
    exact fun same => other (Option.some.inj same).symm
  · intro container touches
    rcases Moment.handle_of_touches touches with ⟨suspension, next, handle⟩
    have own := leads.subject_eq earlier.sound next
    rw [subject] at own
    rw [← Option.some.inj own] at handle
    rcases leads.handle earlier.sound next handle with
      ⟨task, found, held⟩ | returned
    · exact earlier.held_returned found held
    · -- Only a launch is told a new container, and nobody asks for a launch.
      rcases Cause.returned?_eq_some.mp returned with ⟨seen, answered⟩
      rw [answered] at causes
      cases causes with
      | answered suspends =>
          cases suspends
          cases endpoint <;> cases asks

/-- Every registered task can be reached, except that a task of the empty id
cannot be looked at. -/
theorem reachable (session : Session seconds turns server) :
    Reachable seconds turns server where
  named := Http.exists_names
  shown request id task ticket get names named found unused := by
    have understood := Http.Request.endpoint_of_task names named get
    refine ⟨.of_understood understood rfl unused, ?_,
      (session.run.sound id task found).keyed⟩
    rw [Turn.response?, World.shows found]
    exact congrArg some (Http.Request.deliver_of_get get _)
  ended request id task stop ticket post names body found unused := by
    have understood : request.endpoint = .ok (.terminate id stop) := by
      rw [Http.Request.endpoint_of_termination names post, body]
      rfl
    exact ⟨.of_understood understood rfl unused, World.takesEnd found stop⟩
  settled moment member id stop container limit reply task answered found := by
    have leads := session.run.leads member
    rw [answered] at leads
    exact leads.stopped_settled found
  removed request id task ticket post names found unused := by
    have understood := Http.Request.endpoint_of_removal names post
    exact ⟨.of_understood understood rfl unused,
      World.takesOut found (session.run.sound id task found).keyed⟩
  forgotten moment member task container reply answered := by
    have leads := session.run.leads member
    rw [answered] at leads
    exact leads.removed_forgotten
  separate early request endpoint moment late id split concerns := by
    subst split
    exact session.request_confined concerns

end Session

namespace Sample

/-- A task is submitted, and nothing else. -/
def submitting (request : Http.Request) (spec : LaunchSpec) :
    List (Nat × Party × Cause) := [
  (0, .client request (.submit spec), .begun (.submit spec))]

theorem submitting_allowed {request : Http.Request} {spec : LaunchSpec}
    (understood : request.endpoint = .ok (.submit spec)) :
    Server.AllowsAll 10 {} (submitting request spec) :=
  ⟨.ask understood rfl (by decide), trivial⟩

/-! An id may consist of what ends segments and of what stands for other octets;
some of it can be written in more than one way. -/

/-- A task with an unusual id is to be launched. -/
def oddSpec : LaunchSpec where
  id := "/..\x00%é"
  label := "b"

/-- The request to launch it. -/
def oddSubmission : Http.Request :=
  { submission with
    body :=
      Bytes.ofText
        "\x7b\"id\":\"/..\\u0000%é\",\"name\":\"b\"\x7d" }

/-- The request to look at it. -/
def oddLookUp : Http.Request where
  method := "GET"
  path := "/api/tasks/%2F.%2e%00%25%c3%A9"

theorem oddSubmission_endpoint :
    oddSubmission.endpoint = .ok (.submit oddSpec) :=
  endpoint_of_toOption (by decide +kernel)

theorem oddLookUp_names : Http.Names oddLookUp.path oddSpec.id "" :=
  ⟨Bytes.ofText "%2F.%2e%00%25%c3%A9",
    .escaped rfl (.plain rfl (.escaped rfl (.escaped rfl (.escaped rfl
      (.escaped rfl (.escaped rfl .nil)))))),
    rfl⟩

def oddServer : Server :=
  (Server.play 10 {} (submitting oddSubmission oddSpec)).2

def oddTurns : List Turn :=
  (Server.play 10 {} (submitting oddSubmission oddSpec)).1

end Sample

theorem Session.reachable_odd :
    Session 10 Sample.oddTurns Sample.oddServer ∧
      Reachable 10 Sample.oddTurns Sample.oddServer ∧
      Sample.oddLookUp.endpoint = .ok (.lookUp Sample.oddSpec.id) ∧
      (Turn.worked (.client Sample.oddLookUp (.lookUp Sample.oddSpec.id))
          (Sample.oddServer.world.moment 10 1
            (.begun (.get Sample.oddSpec.id)))).response? =
        some (.json 200 (Task.ofSpec Sample.oddSpec).summary.write) := by
  have session : Session 10 Sample.oddTurns Sample.oddServer :=
    Session.empty.play
      (Sample.submitting_allowed Sample.oddSubmission_endpoint)
  have reachable := Session.reachable session
  rcases reachable.shown Sample.oddLookUp Sample.oddSpec.id
      (Task.ofSpec Sample.oddSpec) 1 rfl Sample.oddLookUp_names (by decide)
      rfl (by decide) with
    ⟨taken, response, _⟩
  exact ⟨session, reachable, taken.understood, response⟩

/-! The empty id is accepted like any other. -/

namespace Sample

/-- A task with the empty id is to be launched. -/
def unnamedSpec : LaunchSpec where
  label := "b"

/-- The request to launch it. -/
def unnamedSubmission : Http.Request :=
  { submission with
    body := Bytes.ofText "\x7b\"id\":\"\",\"name\":\"b\"\x7d" }

/-- The request to look at it. -/
def unnamedLookUp : Http.Request where
  method := "GET"
  path := "/api/tasks/"

theorem unnamedSubmission_endpoint :
    unnamedSubmission.endpoint = .ok (.submit unnamedSpec) :=
  endpoint_of_toOption (by decide +kernel)

def unnamedServer : Server :=
  (Server.play 10 {} (submitting unnamedSubmission unnamedSpec)).2

def unnamedTurns : List Turn :=
  (Server.play 10 {} (submitting unnamedSubmission unnamedSpec)).1

end Sample

/-- The submission is answered with status 200, and the path of the task leads
nowhere. -/
theorem unnamed_task_unreachable :
    Session 10 Sample.unnamedTurns Sample.unnamedServer ∧
      Sample.unnamedTurns.map Turn.response? =
        [some (.json 200 (Task.ofSpec Sample.unnamedSpec).summary.write)] ∧
      Sample.unnamedServer.world.registry.find? "" =
        some (Task.ofSpec Sample.unnamedSpec) ∧
      Sample.unnamedLookUp.method = "GET" ∧
      Http.Names Sample.unnamedLookUp.path "" "" ∧
      Sample.unnamedLookUp.atOnce? = some (.empty 404) :=
  ⟨Session.empty.play
      (Sample.submitting_allowed Sample.unnamedSubmission_endpoint),
    rfl, rfl, rfl, ⟨[], .nil, rfl⟩, rfl⟩

end Workloads
