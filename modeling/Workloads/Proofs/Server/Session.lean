import Workloads.Http.Endpoint
import Workloads.Proofs.Worker.Launches
import Workloads.Proofs.Worker.Subject

/-!
# Sessions

The service as its clients drive it.  Every operation is asked for by a
request, except for the launches, each of which becomes due with the response
to an accepted submission and begins at any time after it.  A request that
needs no operation is answered at once.  What a session does to the worker is
a run, so that whatever holds for runs holds for sessions.
-/

namespace Workloads

/-! ## Parties -/

/-- Who waits for the outcome of an operation. -/
inductive Party where
  /-- A client waits for the response to its request. -/
  | client (request : Http.Request) (endpoint : Http.Endpoint)
  /-- Nobody waits: the operation is a launch in the background. -/
  | background (id : String)

namespace Party

/-- The operation whose outcome a party waits for. -/
def operation? : Party → Option Operation
  | client _ endpoint => endpoint.operation?
  | background id => some (.launch id)

/-- The response that an outcome comes to. -/
def response? : Party → Result → Option Http.Response
  | client request _, result => some (request.deliver (Http.respond result))
  | background _, _ => none

/-- The launch that becomes due with an outcome. -/
def followUp : Party → Result → Option String
  | client _ endpoint, result => endpoint.followUp result
  | background _, _ => none

end Party

/-- The response to a request that asks for no operation. -/
def Http.Request.atOnce? (request : Http.Request) : Option Http.Response :=
  match request.endpoint with
  | .error response => some (request.deliver response)
  | .ok endpoint =>
    match endpoint.operation? with
    | none => some (request.deliver Http.Endpoint.healthResponse)
    | some _ => none

/-! ## Turns -/

/-- One turn of a session: a request is answered at once, or an operation goes
through a segment. -/
inductive Turn where
  | replied (request : Http.Request) (response : Http.Response)
  | worked (party : Party) (moment : Moment)

/-- The moment of the worker in a turn. -/
def Turn.moment? : Turn → Option Moment
  | replied _ _ => none
  | worked _ moment => some moment

/-- The response that is sent in a turn. -/
def Turn.response? : Turn → Option Http.Response
  | replied _ response => some response
  | worked party moment => moment.result?.bind party.response?

/-- What the worker has done in a session. -/
def moments (turns : List Turn) : List Moment :=
  turns.filterMap Turn.moment?

@[simp]
theorem moments_append (early late : List Turn) :
    moments (early ++ late) = moments early ++ moments late :=
  List.filterMap_append

@[simp]
theorem moments_replied (request : Http.Request) (response : Http.Response)
    (late : List Turn) :
    moments (.replied request response :: late) = moments late :=
  rfl

@[simp]
theorem moments_worked (party : Party) (moment : Moment)
    (late : List Turn) :
    moments (.worked party moment :: late) = moment :: moments late :=
  rfl

@[simp]
theorem moments_nil : moments [] = [] :=
  rfl

/-! ## Servers -/

/-- The service between two turns: its worker, the party of each operation,
and the ids whose launches are due. -/
structure Server where
  world : World := {}
  parties : Nat → Option Party := fun _ => none
  due : List String := []

namespace Server

/-- Which segment may come next, and for whom. -/
inductive Allows (server : Server) : Nat → Party → Cause → Prop where
  | ask {ticket : Nat} {request : Http.Request} {endpoint : Http.Endpoint}
      {operation : Operation}
      (understood : request.endpoint = .ok endpoint)
      (asks : endpoint.operation? = some operation)
      (unused : ticket ∉ server.world.tickets) :
      Allows server ticket (.client request endpoint) (.begun operation)
  | launch {ticket : Nat} {id : String} (due : id ∈ server.due)
      (unused : ticket ∉ server.world.tickets) :
      Allows server ticket (.background id) (.begun (.launch id))
  | answer {ticket : Nat} {party : Party} {suspension : Suspension}
      (known : server.parties ticket = some party)
      (waits : server.world.flights ticket = some suspension)
      (reply : suspension.call.Reply) :
      Allows server ticket party (.answered suspension reply)

/-- The launches that are due after a segment. -/
def dueAfter (server : Server) (party : Party) (moment : Moment) :
    List String :=
  (moment.cause.launched?.elim server.due server.due.erase) ++
    (moment.result?.bind party.followUp).toList

/-- The service after a segment. -/
def advance (server : Server) (party : Party) (moment : Moment) :
    Server where
  world := server.world.advance moment
  parties := fun ticket =>
    if ticket = moment.ticket then some party else server.parties ticket
  due := server.dueAfter party moment

@[simp]
theorem advance_world (server : Server) (party : Party) (moment : Moment) :
    (server.advance party moment).world = server.world.advance moment :=
  rfl

@[simp]
theorem advance_due (server : Server) (party : Party) (moment : Moment) :
    (server.advance party moment).due = server.dueAfter party moment :=
  rfl

/-- The service after some turns. -/
def follow (server : Server) : List Turn → Server
  | [] => server
  | .replied _ _ :: rest => server.follow rest
  | .worked party moment :: rest => (server.advance party moment).follow rest

theorem follow_append (server : Server) (early late : List Turn) :
    server.follow (early ++ late) = (server.follow early).follow late := by
  induction early generalizing server with
  | nil => rfl
  | cons turn rest hypothesis =>
      cases turn with
      | replied request response => exact hypothesis server
      | worked party moment => exact hypothesis _

/-- The turns that a script brings about, and the service after them. -/
def play (seconds : Nat) (server : Server) :
    List (Nat × Party × Cause) → List Turn × Server
  | [] => ([], server)
  | (ticket, party, cause) :: rest =>
      let moment := server.world.moment seconds ticket cause
      let (turns, last) := (server.advance party moment).play seconds rest
      (.worked party moment :: turns, last)

/-- Whether every segment of a script is allowed when its turn comes. -/
def AllowsAll (seconds : Nat) (server : Server) :
    List (Nat × Party × Cause) → Prop
  | [] => True
  | (ticket, party, cause) :: rest =>
      server.Allows ticket party cause ∧
        (server.advance party (server.world.moment seconds ticket cause)
          ).AllowsAll seconds rest

theorem Allows.world {server : Server} {ticket : Nat} {party : Party}
    {cause : Cause} (allowed : server.Allows ticket party cause) :
    server.world.Allows ticket cause := by
  cases allowed with
  | ask understood asks unused => exact .begin unused _
  | launch due unused => exact .begin unused _
  | answer known waits reply => exact .answer waits reply

end Server

/-- The sessions of the service from an empty registry, with the turns in the
order in which they come about. -/
inductive Session (seconds : Nat) : List Turn → Server → Prop where
  | empty : Session seconds [] {}
  | reply {turns : List Turn} {server : Server} {request : Http.Request}
      {response : Http.Response}
      (past : Session seconds turns server)
      (answers : request.atOnce? = some response) :
      Session seconds (turns ++ [.replied request response]) server
  | work {turns : List Turn} {server : Server} {ticket : Nat}
      {party : Party} {cause : Cause}
      (past : Session seconds turns server)
      (allowed : server.Allows ticket party cause) :
      Session seconds
        (turns ++
          [.worked party (server.world.moment seconds ticket cause)])
        (server.advance party (server.world.moment seconds ticket cause))

namespace Session

variable {seconds : Nat} {turns : List Turn} {server : Server}

/-- A session is a run of its worker. -/
theorem run (session : Session seconds turns server) :
    Run seconds (moments turns) server.world := by
  induction session with
  | empty => exact .empty
  | reply past answers hypothesis =>
      rwa [moments_append, moments_replied, moments_nil, List.append_nil]
  | work past allowed hypothesis =>
      rw [moments_append, moments_worked, moments_nil, Server.advance_world]
      exact hypothesis.step allowed.world

/-- The turns of a session tell what it comes to. -/
theorem follow_eq (session : Session seconds turns server) :
    Server.follow {} turns = server := by
  induction session with
  | empty => rfl
  | reply past answers hypothesis =>
      rw [Server.follow_append, hypothesis]
      rfl
  | work past allowed hypothesis =>
      rw [Server.follow_append, hypothesis]
      rfl

/-- Every beginning of a session is a session. -/
theorem beginning {early late : List Turn}
    (session : Session seconds (early ++ late) server) :
    Session seconds early (Server.follow {} early) := by
  generalize whole : early ++ late = turns at session
  induction session generalizing late with
  | empty =>
      rw [(List.append_eq_nil_iff.mp whole).1]
      exact .empty
  | reply past answers hypothesis =>
      rcases append_eq_concat whole with rfl | ⟨rest, shorter⟩
      · rw [(past.reply answers).follow_eq]
        exact past.reply answers
      · exact hypothesis shorter
  | work past allowed hypothesis =>
      rcases append_eq_concat whole with rfl | ⟨rest, shorter⟩
      · rw [(past.work allowed).follow_eq]
        exact past.work allowed
      · exact hypothesis shorter

/-- A session goes on with a script that is allowed. -/
theorem play (past : Session seconds turns server)
    {script : List (Nat × Party × Cause)}
    (allowed : server.AllowsAll seconds script) :
    Session seconds (turns ++ (server.play seconds script).1)
      (server.play seconds script).2 := by
  induction script generalizing turns server with
  | nil => simpa [Server.play] using past
  | cons entry rest hypothesis =>
      have next := hypothesis (.work past allowed.1) allowed.2
      simpa [Server.play] using next

/-- Every segment of a session continues the session up to it. -/
theorem split
    {early late : List Turn} {party : Party} {moment : Moment}
    (session : Session seconds (early ++ .worked party moment :: late)
      server) :
    ∃ past, Session seconds early past ∧
      past.Allows moment.ticket party moment.cause ∧
      moment = past.world.moment seconds moment.ticket moment.cause := by
  generalize whole : early ++ .worked party moment :: late = turns
    at session
  induction session generalizing late with
  | empty => simp at whole
  | @reply turns server request response past answers hypothesis =>
      rcases append_cons_eq_concat whole with ⟨_, same⟩ | ⟨rest, shorter⟩
      · cases same
      · exact hypothesis shorter
  | @work turns server ticket owner cause past allowed hypothesis =>
      rcases append_cons_eq_concat whole with
        ⟨rfl, same⟩ | ⟨rest, shorter⟩
      · cases same
        exact ⟨server, past, allowed, rfl⟩
      · exact hypothesis shorter

/-- Every moment of a session has its turn. -/
theorem split_moments (session : Session seconds turns server)
    {early late : List Moment} {moment : Moment}
    (split : moments turns = early ++ moment :: late) :
    ∃ first party rest past, turns = first ++ .worked party moment :: rest ∧
      moments first = early ∧ Session seconds first past ∧
      past.Allows moment.ticket party moment.cause ∧
      moment = past.world.moment seconds moment.ticket moment.cause := by
  rcases List.filterMap_eq_append_iff.mp split with
    ⟨first, last, rfl, here, there⟩
  rcases List.filterMap_eq_cons_iff.mp there with
    ⟨idle, turn, rest, rfl, silent, own, _⟩
  cases turn with
  | replied request response => cases own
  | worked party own' =>
      cases own
      rw [← List.append_assoc] at session
      rcases session.split with ⟨past, earlier, allowed, same⟩
      refine ⟨first ++ idle, party, rest, past, by simp, ?_, earlier,
        allowed, same⟩
      rw [moments_append, moments, moments, here,
        List.filterMap_eq_nil_iff.mpr silent, List.append_nil]

end Session

/-! ## Whose operation it is -/

namespace Session

variable {seconds : Nat} {turns : List Turn} {server : Server}

/-- The party of an operation that waits has asked for that operation. -/
theorem waiting_party (session : Session seconds turns server)
    {ticket : Nat} {party : Party} {suspension : Suspension}
    (known : server.parties ticket = some party)
    (waits : server.world.flights ticket = some suspension) :
    ∃ operation, party.operation? = some operation ∧
      operation.Suspends suspension := by
  induction session generalizing ticket party suspension with
  | empty => cases waits
  | reply past answers hypothesis => exact hypothesis known waits
  | @work turns server own owner cause past allowed hypothesis =>
      have leads := Cause.leads_segment seconds server.world.registry cause
      rcases World.flights_advance waits with
        ⟨same, next⟩ | ⟨other, earlier⟩
      · have mine : owner = party := by
          simpa [Server.advance, same] using known
        subst mine
        have next :
            (cause.segment seconds server.world.registry).next =
              .waiting suspension := next
        cases allowed with
        | ask understood asks unused =>
            exact ⟨_, asks, leads.suspends .begun next⟩
        | launch due unused =>
            exact ⟨_, rfl, leads.suspends .begun next⟩
        | answer knownBefore waitsBefore reply =>
            rcases hypothesis knownBefore waitsBefore with
              ⟨operation, asks, suspends⟩
            exact ⟨operation, asks,
              leads.suspends (.answered suspends) next⟩
      · refine hypothesis ?_ earlier
        simpa [Server.advance, other] using known

/-- A segment belongs to the operation that its party has asked for. -/
theorem causes (session : Session seconds turns server)
    {ticket : Nat} {party : Party} {cause : Cause}
    (allowed : server.Allows ticket party cause) :
    ∃ operation, party.operation? = some operation ∧
      operation.Causes cause := by
  cases allowed with
  | ask understood asks unused => exact ⟨_, asks, .begun⟩
  | launch due unused => exact ⟨_, rfl, .begun⟩
  | answer known waits reply =>
      rcases session.waiting_party known waits with
        ⟨operation, asks, suspends⟩
      exact ⟨operation, asks, .answered suspends⟩

end Session

/-- Whether a party has asked for an operation: its request is understood as
one for it, or it is nobody and the operation is a launch. -/
def Party.Asks (operation : Operation) : Party → Prop
  | client request endpoint =>
      request.endpoint = .ok endpoint ∧
        endpoint.operation? = some operation
  | background id => operation = .launch id

theorem Party.Asks.operation?_eq {party : Party} {operation : Operation}
    (asks : party.Asks operation) :
    party.operation? = some operation := by
  cases party with
  | client request endpoint => exact asks.2
  | background id =>
      cases asks
      rfl

namespace Session

variable {seconds : Nat} {turns : List Turn} {server : Server}

/-- A party is known for the operation that it has asked for and that has begun
for it. -/
theorem known_asks (session : Session seconds turns server)
    {ticket : Nat} {party : Party}
    (known : server.parties ticket = some party) :
    ∃ operation, party.Asks operation ∧
      Began (moments turns) ticket operation := by
  induction session with
  | empty => cases known
  | reply past answers hypothesis =>
      rw [moments_append, moments_replied, moments_nil, List.append_nil]
      exact hypothesis known
  | @work turns server own owner cause past allowed hypothesis =>
      rw [moments_append]
      have kept (before : server.parties ticket = some party) :
          ∃ operation, party.Asks operation ∧
            Began
              (moments turns ++
                [server.world.moment seconds own cause])
              ticket operation := by
        rcases hypothesis before with ⟨operation, asks, began⟩
        exact ⟨operation, asks, began.append _⟩
      by_cases same : ticket = own
      · subst same
        have mine : owner = party := by
          simpa [Server.advance, World.moment] using known
        subst mine
        cases allowed with
        | ask understood asks unused =>
            exact ⟨_, ⟨understood, asks⟩, .of_cause rfl⟩
        | launch due unused => exact ⟨_, rfl, .of_cause rfl⟩
        | answer knownBefore waits reply => exact kept knownBefore
      · refine kept ?_
        simpa [Server.advance, World.moment, same] using known

theorem mem_moments {turns : List Turn} {party : Party} {moment : Moment}
    (member : .worked party moment ∈ turns) : moment ∈ moments turns :=
  List.mem_filterMap.mpr ⟨_, member, rfl⟩

/-- Whoever a segment is for stays known under its ticket. -/
theorem party_known (session : Session seconds turns server)
    {party : Party} {moment : Moment}
    (member : .worked party moment ∈ turns) :
    server.parties moment.ticket = some party := by
  induction session with
  | empty => cases member
  | @reply turns server request response past answers hypothesis =>
      rcases List.mem_append.mp member with old | new
      · exact hypothesis old
      · cases List.mem_singleton.mp new
  | @work turns server own owner cause past allowed hypothesis =>
      rcases List.mem_append.mp member with old | new
      · have known := hypothesis old
        by_cases same : moment.ticket = own
        · cases allowed with
          | ask understood asks unused =>
              exact absurd (past.run.ticket_mem (mem_moments old))
                (same ▸ unused)
          | launch due unused =>
              exact absurd (past.run.ticket_mem (mem_moments old))
                (same ▸ unused)
          | answer knownNow waits reply =>
              rw [same] at known
              cases known.symm.trans knownNow
              simp [Server.advance, World.moment, same]
        · simpa [Server.advance, World.moment, same] using known
      · cases List.mem_singleton.mp new
        simp [Server.advance]

/-- A segment is for a party that has asked for its operation. -/
theorem asks (session : Session seconds turns server)
    {party : Party} {moment : Moment}
    (member : .worked party moment ∈ turns) :
    ∃ operation, party.Asks operation ∧
      Began (moments turns) moment.ticket operation :=
  session.known_asks (session.party_known member)

end Session

/-! ## The requests of one client -/

namespace Sample

/-- What the client wants to be launched. -/
def spec : LaunchSpec where
  id := "a"
  label := "b"

/-- The request to launch it. -/
def submission : Http.Request where
  method := "POST"
  path := "/api/tasks"
  headers := [("content-type", "application/json")]
  body := Bytes.ofText "\x7b\"id\":\"a\",\"name\":\"b\"\x7d"

/-- The request to end it. -/
def termination : Http.Request where
  method := "POST"
  path := "/api/tasks/a/terminate"

/-- The request to forget it. -/
def removal : Http.Request where
  method := "POST"
  path := "/api/tasks/a/remove"

/-- A request asks for what is found when it is looked at. -/
theorem endpoint_of_toOption {request : Http.Request}
    {endpoint : Http.Endpoint}
    (found : request.endpoint.toOption = some endpoint) :
    request.endpoint = .ok endpoint := by
  cases outcome : request.endpoint with
  | error response =>
      rw [outcome] at found
      cases found
  | ok other =>
      rw [outcome] at found
      cases found
      rfl

theorem submission_endpoint :
    submission.endpoint = .ok (.submit spec) :=
  endpoint_of_toOption (by decide +kernel)

theorem termination_endpoint :
    termination.endpoint = .ok (.terminate "a" {}) :=
  rfl

theorem removal_endpoint :
    removal.endpoint = .ok (.remove "a") :=
  rfl

/-- The client that waits for its task to be entered. -/
def submitter : Party :=
  .client submission (.submit spec)

/-- The client that waits for its task to end. -/
def terminator : Party :=
  .client termination (.terminate "a" {})

/-- The client that waits for its task to be forgotten. -/
def remover : Party :=
  .client removal (.remove "a")

/-- Nobody, who waits for the launch. -/
def launcher : Party :=
  .background "a"

variable {server : Server} {ticket : Nat}

theorem submitter_allowed (unused : ticket ∉ server.world.tickets) :
    server.Allows ticket submitter (.begun (.submit spec)) :=
  .ask submission_endpoint rfl unused

theorem terminator_allowed (unused : ticket ∉ server.world.tickets) :
    server.Allows ticket terminator (.begun (.terminate "a" {})) :=
  .ask termination_endpoint rfl unused

theorem remover_allowed (unused : ticket ∉ server.world.tickets) :
    server.Allows ticket remover (.begun (.remove "a")) :=
  .ask removal_endpoint rfl unused

end Sample

end Workloads
