import Workloads.Proofs.Http.Address
import Workloads.Proofs.Server.Submissions
import Workloads.Proofs.Server.Termination
import Workloads.Proofs.Worker.Refusal

/-!
# What clients see of the worker

Behind the requests stands the worker.  What a session does to the registry and
to the runtime is a run of the worker, in which each request has one operation
at most; the response tells the outcome of this operation, and the response to
an accepted submission makes one launch due.  A request that is turned down,
before its task is looked at or afterwards, has changed nothing.
-/

namespace Workloads

/-! ## Responses -/

/-- The response to an error, by its wording. -/
def Http.Response.problem (status : Nat) (wording : String) : Http.Response :=
  .json status (Json.writeObject [("error", Json.writeText wording)])

/-- How a response tells the outcome of an operation. -/
inductive Http.Tells : Result → Http.Response → Prop where
  | task (task : Task) :
      Tells (.ok (.task task))
        (.json 200
          (Summary.write {
            id := task.id
            status := task.status
            containerName := task.containerName
            containerId := task.containerId
            reason := task.reason
            message := task.message }))
  | ids (ids : List String) :
      Tells (.ok (.ids ids)) (.json 200 (Listing.write { ids := ids }))
  | removed : Tells (.ok .removed) (.empty 200)
  | unknown (id : String) :
      Tells (.error (.notFound id))
        (.problem 404 (TaskError.notFound id).text)
  | taken (id : String) :
      Tells (.error (.alreadyExists id))
        (.problem 409 (TaskError.alreadyExists id).text)
  | unended (id : String) :
      Tells (.error (.notTerminated id))
        (.problem 409 (TaskError.notTerminated id).text)
  | failed (failure : RuntimeFailure) :
      Tells (.error (.runtime failure)) (.problem 500 failure.text)

namespace Http

theorem tells_respond (result : Result) : Tells result (respond result) := by
  rcases result with error | answer
  · cases error with
    | alreadyExists id => exact .taken id
    | notFound id => exact .unknown id
    | notTerminated id => exact .unended id
    | runtime failure => exact .failed failure
  · cases answer with
    | task task => exact .task task
    | ids ids => exact .ids ids
    | removed => exact .removed

/-- A status between 400 and 499 tells that the operation was refused. -/
theorem Tells.refusal {result : Result} {response : Response}
    (tells : Tells result response)
    (low : 400 ≤ response.status) (high : response.status < 500) :
    Refusal result := by
  cases tells with
  | unknown id => exact .unknown id
  | taken id => exact .taken id
  | unended id => exact .unended id
  | failed failure => exact absurd high (Nat.lt_irrefl 500)
  | task task => exact absurd low (by simp [Response.json])
  | ids ids => exact absurd low (by simp [Response.json])
  | removed => exact absurd low (by simp [Response.empty])

end Http

/-! ## Launches -/

/-- The id of the launch that becomes due in a turn. -/
def Turn.scheduled? : Turn → Option String
  | replied _ _ => none
  | worked party moment => moment.result?.bind party.followUp

/-- A submission is accepted or refused in its first segment. -/
theorem Cause.Leads.of_submit
    {seconds : Nat} {registry : Registry} {segment : Segment}
    {spec : LaunchSpec}
    (leads : Leads seconds registry (.begun (.submit spec)) segment) :
    segment.next = .finished (.ok (.task (Task.ofSpec spec))) ∨
      segment.next = .finished (.error (.alreadyExists spec.id)) := by
  cases leads with
  | submitted absent => exact .inl rfl
  | taken found => exact .inr rfl
  | unknown target absent => cases target

namespace Session

variable {seconds : Nat} {turns : List Turn} {server : Server}

/-- A launch becomes due where a submission is accepted. -/
theorem scheduled_eq (session : Session seconds turns server)
    {party : Party} {moment : Moment}
    (member : .worked party moment ∈ turns) :
    (Turn.worked party moment).scheduled? = moment.accepts? := by
  rcases List.append_of_mem member with ⟨early, late, rfl⟩
  rcases session.split with ⟨past, earlier, allowed, same⟩
  have due := earlier.followUp_eq allowed
  rw [← same] at due
  exact due

theorem acceptedIds_eq (session : Session seconds turns server) :
    acceptedIds (moments turns) = turns.filterMap Turn.scheduled? := by
  have own :
      ∀ turn ∈ turns,
        turn.scheduled? = turn.moment?.bind Moment.accepts? := by
    intro turn member
    cases turn with
    | replied request response => rfl
    | worked party moment => exact session.scheduled_eq member
  rw [acceptedIds, moments, List.filterMap_filterMap]
  exact (List.filterMap_congr own).symm

/-- A submission has one moment, in which it is accepted or refused. -/
theorem of_submission (session : Session seconds turns server)
    {request : Http.Request} {spec : LaunchSpec} {moment : Moment}
    (member : .worked (.client request (.submit spec)) moment ∈ turns) :
    moment.cause = .begun (.submit spec) ∧
      (moment.result? = some (.ok (.task (Task.ofSpec spec))) ∨
        moment.result? = some (.error (.alreadyExists spec.id))) := by
  rcases session.asks member with ⟨operation, ⟨_, asks⟩, began⟩
  cases asks
  have present := mem_moments member
  have causes := (session.run.causes_of_began present began).1
  have leads := session.run.leads present
  generalize begins : moment.cause = cause at causes leads
  cases causes with
  | answered suspends => cases suspends
  | begun =>
      refine ⟨rfl, ?_⟩
      simp only [Moment.result?, Next.result?_eq_some]
      exact leads.of_submit

/-- The turns in which a launch becomes due are those in which a submission is
answered with status 200. -/
theorem scheduled_iff (session : Session seconds turns server)
    {party : Party} {moment : Moment} {id : String}
    (member : .worked party moment ∈ turns) :
    (Turn.worked party moment).scheduled? = some id ↔
      ∃ request spec response,
        party = .client request (.submit spec) ∧ spec.id = id ∧
          (Turn.worked party moment).response? = some response ∧
          response.status = 200 := by
  constructor
  · intro scheduled
    rw [session.scheduled_eq member] at scheduled
    rcases Moment.of_accepts (session.run.leads (mem_moments member))
        scheduled with
      ⟨spec, begun, own, _, _, result⟩
    rcases session.asks member with ⟨operation, asks, began⟩
    have causes := (session.run.causes_of_began (mem_moments member) began).1
    rw [begun] at causes
    cases causes
    rcases Party.of_submit asks.operation?_eq with ⟨request, rfl⟩
    refine ⟨request, spec,
      request.deliver (Http.respond (.ok (.task (Task.ofSpec spec)))), rfl,
      own, ?_, ?_⟩
    · rw [Turn.response?, result]
      rfl
    · rw [Http.Request.deliver_status]
      rfl
  · rintro ⟨request, spec, response, rfl, own, sent, ok⟩
    rcases session.of_submission member with ⟨_, accepted | refused⟩
    · rw [Turn.scheduled?, accepted, ← own]
      rfl
    · rw [Turn.response?, refused] at sent
      cases sent
      rw [Http.Request.deliver_status] at ok
      cases ok

end Session

/-! ## Requests that begin nothing -/

namespace Http.Request

variable {request : Request}

/-- A request is answered at once, or it is understood as one for an
operation. -/
theorem atOnce?_or_asks (request : Request) :
    (∃ response, request.atOnce? = some response) ∨
      request.atOnce? = none ∧
        ∃ endpoint operation, request.endpoint = .ok endpoint ∧
          endpoint.operation? = some operation := by
  rw [atOnce?]
  cases understood : request.endpoint with
  | error response => exact .inl ⟨_, rfl⟩
  | ok endpoint =>
      cases asks : endpoint.operation? with
      | none =>
          left
          exact ⟨request.deliver Endpoint.healthResponse, by simp only [asks]⟩
      | some operation =>
          right
          exact ⟨by simp only [asks], endpoint, operation, rfl, asks⟩

/-- The body of a termination is looked at unless it is too long. -/
theorem stopRequest_of_fault {fault : Json.Fault}
    (undecodable : StopRequest.ofBody request.body = .error fault) :
    request.stopRequest =
      .error
        (if request.body.length ≤ bodyLimit then
          .problem 400 fault.problem.text
        else
          .text 413
            "Failed to buffer the request body: length limit exceeded") := by
  rw [stopRequest, boundedBody]
  by_cases short : request.body.length ≤ bodyLimit
  · simp only [short, if_true, undecodable]
    rfl
  · simp only [short, if_false]

/-- A termination whose body does not decode is not understood, whatever its id
is. -/
theorem endpoint_of_fault {segment : Bytes} {fault : Json.Fault}
    (post : request.method = "POST")
    (path : Resource.ofPath? request.path = some (.termination segment))
    (undecodable : StopRequest.ofBody request.body = .error fault) :
    ∃ response, request.endpoint = .error response ∧
      (request.body.length ≤ bodyLimit → response.status = 400) ∧
      (response.status = 400 ∨ response.status = 413) := by
  have asked : request.endpoint = request.ask (.termination segment) := by
    simp [endpoint, path, post, Resource.methods]
  rw [asked, ask]
  cases meant : idOf segment with
  | error response =>
      have status : response.status = 400 := by
        rw [idOf] at meant
        split at meant <;> cases meant
        rfl
      exact ⟨response, rfl, fun _ => status, .inl status⟩
  | ok id =>
      simp only [stopRequest_of_fault undecodable]
      refine ⟨_, rfl, ?_, ?_⟩
      · intro short
        rw [if_pos short]
        rfl
      · split
        · exact .inl rfl
        · exact .inr rfl

end Http.Request

/-! ## Refinement -/

/-- Only a listing answers with ids, and these are the registered ones. -/
theorem Cause.Leads.of_ids
    {seconds : Nat} {registry : Registry} {cause : Cause}
    {segment : Segment} {ids : List String}
    (leads : Leads seconds registry cause segment)
    (next : segment.next = .finished (.ok (.ids ids))) :
    ids = registry.ids := by
  cases leads <;> cases next
  rfl

/-- What a session is for the worker and for its clients. -/
structure Refinement (seconds : Nat) (turns : List Turn) (server : Server) :
    Prop where
  /-- The registry and the calls are those of a run of the worker. -/
  run : Run seconds (moments turns) server.world
  /-- A request is answered at once, or it can begin its operation. -/
  receptive :
    ∀ request : Http.Request,
      (∃ response, request.atOnce? = some response) ∨
        request.atOnce? = none ∧
          ∃ endpoint operation, request.endpoint = .ok endpoint ∧
            endpoint.operation? = some operation ∧
            ∀ ticket, ticket ∉ server.world.tickets →
              server.Allows ticket (.client request endpoint)
                (.begun operation)
  /-- What is answered at once needs no operation. -/
  immediate :
    ∀ request response, .replied request response ∈ turns →
      request.atOnce? = some response
  /-- Everything else belongs to the operation that its party has asked for:
  a client by its request, the background by a launch. -/
  asked :
    ∀ party moment, .worked party moment ∈ turns →
      ∃ operation, party.Asks operation ∧
        Began (moments turns) moment.ticket operation ∧
        operation.Causes moment.cause
  /-- An operation begins once, ends once, and is one party's throughout. -/
  begunOnce :
    ∀ (left right : Nat) (first second : Moment) (one other : Operation),
      (moments turns)[left]? = some first →
      (moments turns)[right]? = some second →
      first.ticket = second.ticket →
      first.cause = .begun one → second.cause = .begun other →
        left = right
  endedOnce :
    ∀ (left right : Nat) (first second : Moment) (one other : Result),
      (moments turns)[left]? = some first →
      (moments turns)[right]? = some second →
      first.ticket = second.ticket →
      first.result? = some one → second.result? = some other →
        left = right
  owned :
    ∀ party owner moment other, .worked party moment ∈ turns →
      .worked owner other ∈ turns → moment.ticket = other.ticket →
        party = owner
  /-- A client is told the outcome of its operation, when there is one; a head
  request is told its status alone. -/
  notified :
    ∀ request endpoint moment,
      .worked (.client request endpoint) moment ∈ turns →
        (moment.result? = none ∧
          (Turn.worked (.client request endpoint) moment).response? =
            none) ∨
        ∃ result response, moment.result? = some result ∧
          Http.Tells result response ∧
          (Turn.worked (.client request endpoint) moment).response? =
            some
              (if request.method = "HEAD" then { response with body := [] }
              else response)
  /-- Listed ids are those that are registered, in order. -/
  listed :
    ∀ moment ∈ moments turns, ∀ ids, moment.result? = some (.ok (.ids ids)) →
      ids.Pairwise (· < ·) ∧
        ∀ id, id ∈ ids ↔ (moment.before.find? id).isSome
  /-- A launch becomes due where a submission is answered with status 200, -/
  scheduled :
    ∀ party moment, .worked party moment ∈ turns → ∀ id,
      (Turn.worked party moment).scheduled? = some id ↔
        ∃ request spec response,
          party = .client request (.submit spec) ∧ spec.id = id ∧
            (Turn.worked party moment).response? = some response ∧
            response.status = 200
  /-- each time one, which begins later or is still due, -/
  launched :
    ∀ id,
      (launchedIds (moments turns)).count id + server.due.count id =
        (turns.filterMap Turn.scheduled?).count id
  /-- and none for the sake of another request. -/
  unattended :
    ∀ party moment, .worked party moment ∈ turns → ∀ id,
      moment.cause = .begun (.launch id) → party = .background id
  /-- A termination whose body does not decode begins nothing and is answered
  with status 400, or with status 413 if the body is longer than what is
  read. -/
  undecodable :
    ∀ request segment fault, request.method = "POST" →
      Http.Resource.ofPath? request.path = some (.termination segment) →
      StopRequest.ofBody request.body = .error fault →
        (∃ response, request.atOnce? = some response ∧
          (request.body.length ≤ Http.bodyLimit → response.status = 400) ∧
          (response.status = 400 ∨ response.status = 413)) ∧
        ∀ endpoint moment,
          .worked (.client request endpoint) moment ∉ turns
  /-- An operation whose response has a status between 400 and 499 has written
  nothing and has made no launch due. -/
  refused :
    ∀ party moment response, .worked party moment ∈ turns →
      (Turn.worked party moment).response? = some response →
      400 ≤ response.status → response.status < 500 →
        ∀ owner other, .worked owner other ∈ turns →
          other.ticket = moment.ticket →
            other.write? = none ∧ other.after = other.before ∧
              (Turn.worked owner other).scheduled? = none

namespace Session

variable {seconds : Nat} {turns : List Turn} {server : Server}

/-- What is answered at once is answered without an operation. -/
theorem answers_at_once (session : Session seconds turns server)
    {request : Http.Request} {response : Http.Response}
    (member : .replied request response ∈ turns) :
    request.atOnce? = some response := by
  induction session with
  | empty => cases member
  | reply past answers hypothesis =>
      rcases List.mem_append.mp member with old | new
      · exact hypothesis old
      · cases List.mem_singleton.mp new
        exact answers
  | work past allowed hypothesis =>
      rcases List.mem_append.mp member with old | new
      · exact hypothesis old
      · cases List.mem_singleton.mp new

/-- A refused operation has written nothing and has made no launch due. -/
theorem refused_clean (session : Session seconds turns server)
    {party owner : Party} {moment other : Moment} {response : Http.Response}
    (member : .worked party moment ∈ turns)
    (sent : (Turn.worked party moment).response? = some response)
    (low : 400 ≤ response.status) (high : response.status < 500)
    (otherMember : .worked owner other ∈ turns)
    (own : other.ticket = moment.ticket) :
    other.write? = none ∧ other.after = other.before ∧
      (Turn.worked owner other).scheduled? = none := by
  rcases Option.bind_eq_some_iff.mp sent with ⟨result, ended, shown⟩
  have refusal : Refusal result := by
    cases party with
    | background id => cases shown
    | client request endpoint =>
        cases shown
        rw [Http.Request.deliver_status] at low high
        exact (Http.tells_respond result).refusal low high
  rcases session.run.clean_refused (mem_moments member) ended refusal
      (mem_moments otherMember) own with
    ⟨silent, unchanged⟩
  refine ⟨silent, unchanged, ?_⟩
  rw [session.scheduled_eq otherMember]
  cases accepts : other.accepts? with
  | none => rfl
  | some id =>
      -- An accepted submission would have entered its task.
      rcases Moment.of_accepts (session.run.leads (mem_moments otherMember))
          accepts with
        ⟨spec, begun, rfl, absent, _⟩
      rw [Moment.write?, begun, Cause.write?, Registry.has, absent] at silent
      cases silent

/-- The HTTP interface refines the worker. -/
theorem refines (session : Session seconds turns server) :
    Refinement seconds turns server where
  run := session.run
  receptive request := by
    rcases request.atOnce?_or_asks with
      answered | ⟨waits, endpoint, operation, understood, asks⟩
    · exact .inl answered
    · exact .inr ⟨waits, endpoint, operation, understood, asks,
        fun ticket unused => .ask understood asks unused⟩
  immediate request response member := session.answers_at_once member
  asked party moment member := by
    rcases session.asks member with ⟨operation, asks, began⟩
    exact ⟨operation, asks, began,
      (session.run.causes_of_began (mem_moments member) began).1⟩
  begunOnce left right first second one other here there same begun begun' := by
    apply Nat.le_antisymm
    · exact session.run.begun_le here begun there same.symm
    · exact session.run.begun_le there begun' here same
  endedOnce left right first second one other here there same ended ended' := by
    apply Nat.le_antisymm
    · exact session.run.le_ended there ended' here same
    · exact session.run.le_ended here ended there same.symm
  owned party owner moment other member otherMember same := by
    have known := session.party_known member
    rw [same, session.party_known otherMember] at known
    exact (Option.some.inj known).symm
  notified request endpoint moment member := by
    rw [Turn.response?]
    cases ended : moment.result? with
    | none => exact .inl ⟨rfl, rfl⟩
    | some result =>
        exact .inr ⟨result, _, rfl, Http.tells_respond result, rfl⟩
  listed moment member ids ended := by
    have same :=
      (session.run.leads member).of_ids (Next.result?_eq_some.mp ended)
    subst same
    exact ⟨KeyMap.keys_ordered _, KeyMap.mem_keys _⟩
  scheduled party moment member id := session.scheduled_iff member
  launched id := by
    rw [session.launches_counted id, session.acceptedIds_eq]
  unattended party moment member id begun := by
    rcases session.asks member with ⟨operation, asks, began⟩
    have causes :=
      (session.run.causes_of_began (mem_moments member) began).1
    rw [begun] at causes
    cases causes
    cases party with
    | client request endpoint => cases endpoint <;> cases asks.2
    | background own =>
        cases asks
        rfl
  undecodable request segment fault post path undecodable := by
    rcases Http.Request.endpoint_of_fault post path undecodable with
      ⟨response, turnedDown, status⟩
    constructor
    · refine ⟨request.deliver response, ?_, ?_⟩
      · rw [Http.Request.atOnce?, turnedDown]
      · rw [Http.Request.deliver_status]
        exact status
    · intro endpoint moment member
      rcases session.asks member with ⟨operation, ⟨understood, _⟩, _⟩
      cases turnedDown.symm.trans understood
  refused party moment response member sent low high owner other otherMember
      own :=
    session.refused_clean member sent low high otherMember own

end Session

/-! A termination may be refused after it has waited for the stop of a container:
its task has been ended and removed by other requests meanwhile. -/

/-- The task is terminated twice; it is removed when one of the stops is over,
and then the other stop is over, too. -/
def vanishingScript : List (Nat × Party × Cause) :=
  stoppingScript ++ [
    (3, Sample.terminator, .begun (.terminate "a" {})),
    (3, Sample.terminator, .answered (.stopping "a" {} "c" 10) (.ok ())),
    (4, Sample.remover, .begun (.remove "a")),
    (4, Sample.remover, .answered (.removing unstoppedTask "c") (.ok ())),
    (2, Sample.terminator, .answered (.stopping "a" {} "c" 10) (.ok ()))]

def vanishingServer : Server :=
  (Server.play 10 {} vanishingScript).2

def vanishingTurns : List Turn :=
  (Server.play 10 {} vanishingScript).1

theorem vanishingScript_allowed : Server.AllowsAll 10 {} vanishingScript :=
  ⟨Sample.submitter_allowed (by decide),
    .launch (by decide) (by decide), .answer rfl rfl _,
    Sample.terminator_allowed (by decide),
    Sample.terminator_allowed (by decide), .answer rfl rfl _,
    Sample.remover_allowed (by decide), .answer rfl rfl _,
    .answer rfl rfl _, trivial⟩

theorem Session.refines_vanishing :
    Session 10 vanishingTurns vanishingServer ∧
      Refinement 10 vanishingTurns vanishingServer ∧
      vanishingTurns.getLast?.bind Turn.response? =
        some (.problem 404 "task a not found") := by
  have session : Session 10 vanishingTurns vanishingServer :=
    Session.empty.play vanishingScript_allowed
  exact ⟨session, Session.refines session, rfl⟩

/-! A body that is too long is not looked at, and a head request is not told
what a listing finds. -/

namespace Sample

/-- A termination whose body starts with a letter. -/
def garbledTermination (rest : Bytes) : Http.Request :=
  { termination with body := 120 :: rest }

theorem garbledTermination_fault (rest : Bytes) :
    ∃ fault,
      StopRequest.ofBody (garbledTermination rest).body = .error fault :=
  ⟨_, rfl⟩

theorem garbledTermination_names (rest : Bytes) :
    Http.Names (garbledTermination rest).path "a" "/terminate" :=
  ⟨[97], .plain rfl .nil, rfl⟩

theorem garbledTermination_atOnce {rest : Bytes}
    (long : Http.bodyLimit ≤ rest.length) :
    (garbledTermination rest).atOnce? =
      some
        (.text 413
          "Failed to buffer the request body: length limit exceeded") := by
  have path :
      Http.Resource.ofPath? (garbledTermination rest).path =
        some (.termination [97]) := rfl
  have id : Http.idOf [97] = .ok "a" := rfl
  have post : (garbledTermination rest).method = "POST" := rfl
  have length : ¬(garbledTermination rest).body.length ≤ Http.bodyLimit :=
    Nat.not_le.mpr (Nat.lt_succ_of_le long)
  simp [Http.Request.atOnce?, Http.Request.endpoint, path, post,
    Http.Resource.methods, Http.Request.ask, id, Http.Request.stopRequest,
    Http.Request.boundedBody, length, Http.Request.deliver]

/-- The letter with so many blanks behind it that they alone reach the limit. -/
def longTermination : Http.Request :=
  garbledTermination (List.replicate Http.bodyLimit 32)

/-- A request for the head of the listing. -/
def listingHead : Http.Request where
  method := "HEAD"
  path := "/api/tasks"

end Sample

/-- The body does not decode, but the status is not 400; the ids are listed, but
the response does not show them. -/
theorem long_body_unread :
    (∃ fault,
      StopRequest.ofBody Sample.longTermination.body = .error fault) ∧
      Http.Names Sample.longTermination.path "a" "/terminate" ∧
      (∃ server response,
        Session 10 [.replied Sample.longTermination response] server ∧
          response.status = 413) ∧
      ∃ server moment response,
        Session 10
            [.worked (.client Sample.listingHead .list) moment] server ∧
          moment.result? = some (.ok (.ids [])) ∧
          (Turn.worked (.client Sample.listingHead .list) moment).response? =
            some response ∧
          response.body ≠ Listing.write { ids := [] } := by
  refine ⟨Sample.garbledTermination_fault _,
    Sample.garbledTermination_names _, ?_, ?_⟩
  · exact ⟨_, _,
      .reply .empty
        (Sample.garbledTermination_atOnce
          (Nat.le_of_eq List.length_replicate.symm)),
      rfl⟩
  · have understood : Sample.listingHead.endpoint = .ok .list := rfl
    have allowed :
        Server.Allows {} 0 (.client Sample.listingHead .list)
          (.begun .list) :=
      .ask understood rfl (by decide)
    exact ⟨_, _, _, Session.empty.work allowed, rfl, rfl, by decide⟩

end Workloads
