import Workloads.Proofs.Json.Forms
import Workloads.Proofs.Server.Refinement

/-!
# How failures are told

What the worker and the runtime complain about is told by the one member of an
object, and so is a stop request that is not JSON.  A request that is turned
down while its path or its body is taken in is told in plain text instead, and
a request for the head of a response is told nothing but the status.
-/

namespace Workloads

open Json

/-! ## Objects with an error -/

/-- Whether a body is an object whose only key is `error`, with a text. -/
def SaysError (body : Bytes) : Prop :=
  ∃ wording,
    Reader.text.keyMap.readAll body =
      .ok (KeyMap.empty.insert "error" wording)

theorem Http.ServiceError.saysError (error : ServiceError) :
    SaysError error.response.body := by
  have read : List.Forall₂ Reader.text.TakesMember
      [("error", writeText error.text)] [("error", error.text)] :=
    .cons ⟨rfl, takes_text error.text⟩ .nil
  exact ⟨error.text, (takes_keyMap (objectForm_written _) read).readAll⟩

theorem not_saysError_nil : ¬SaysError [] := by
  rintro ⟨wording, read⟩
  cases read

/-- What begins with a capital letter is no object. -/
theorem not_saysError_of_capital {octet : UInt8} {rest : Bytes}
    (capital : 65 ≤ octet ∧ octet ≤ 90) : ¬SaysError (octet :: rest) := by
  have apart :
      ∀ octet : UInt8, 65 ≤ octet ∧ octet ≤ 90 →
        isBlank octet = false ∧ octet ≠ openObject :=
    Bytes.forall_octet (by decide +kernel)
  rcases apart octet capital with ⟨solid, other⟩
  rintro ⟨wording, read⟩
  simp [Reader.readAll, Reader.keyMap, readMap, skipBlanks, solid, other]
    at read

/-- Whether a wording begins with a capital letter. -/
def IsSentence (wording : String) : Prop :=
  ∃ octet rest, Bytes.ofText wording = octet :: rest ∧
    65 ≤ octet ∧ octet ≤ 90

theorem IsSentence.append {wording : String} (sentence : IsSentence wording)
    (more : String) : IsSentence (wording ++ more) := by
  rcases sentence with ⟨octet, rest, written, capital⟩
  exact ⟨octet, rest ++ Bytes.ofText more,
    by rw [Bytes.ofText_append, written, List.cons_append], capital⟩

theorem IsSentence.not_saysError {wording : String}
    (sentence : IsSentence wording) : ¬SaysError (Bytes.ofText wording) := by
  rcases sentence with ⟨octet, rest, written, capital⟩
  rw [written]
  exact not_saysError_of_capital capital

/-! ## Requests that are not taken in -/

namespace Http

/-- The segment of a path that names a task. -/
def Resource.segment? : Resource → Option Bytes
  | health | tasks => none
  | task segment | termination segment | removal segment => some segment

/-- Whether a posted body is looked at. -/
def Resource.takesBody : Resource → Bool
  | tasks | termination _ => true
  | health | task _ | removal _ => false

/-- Why a request for a resource is turned down before anybody looks at what it
asks for. -/
inductive Request.Unread (request : Request) : Resource → Prop where
  /-- The segment that names its task stands for no text. -/
  | unnamed {resource : Resource} {segment : Bytes}
      (names : resource.segment? = some segment)
      (noText : Bytes.text? (Percent.decode segment) = none) :
      Unread request resource
  /-- Its body is too long. -/
  | long {resource : Resource} (post : request.method = "POST")
      (takes : resource.takesBody = true)
      (beyond : bodyLimit < request.body.length) :
      Unread request resource
  /-- It submits a body that is not announced as JSON. -/
  | untyped (post : request.method = "POST")
      (other :
        ∀ header, request.header? "content-type" = some header →
          MediaType.announcesJson header = false) :
      Unread request .tasks
  /-- It submits a body that is no launch specification. -/
  | undecoded {fault : Fault} (post : request.method = "POST")
      (fails : LaunchSpec.reader.readAll request.body = .error fault) :
      Unread request .tasks

/-- What comes of a request for a resource before its task is looked at. -/
inductive Request.Intake (request : Request) (resource : Resource) :
    Except Response Endpoint → Prop where
  | rejected {status : Nat} {wording : String}
      (unread : request.Unread resource) (sentence : IsSentence wording) :
      Intake request resource (.error (.text status wording))
  | refused (read : ¬request.Unread resource) (error : ServiceError) :
      Intake request resource (.error error.response)
  | understood (read : ¬request.Unread resource) (endpoint : Endpoint) :
      Intake request resource (.ok endpoint)

theorem idOf_cases (segment : Bytes) :
    (Bytes.text? (Percent.decode segment) = none ∧
        ∃ wording, idOf segment = .error (.text 400 wording) ∧
          IsSentence wording) ∨
      ∃ id, Bytes.text? (Percent.decode segment) = some id ∧
        idOf segment = .ok id := by
  rw [idOf]
  cases Bytes.text? (Percent.decode segment) with
  | none => exact .inl ⟨rfl, _, rfl, _, _, rfl, by decide⟩
  | some id => exact .inr ⟨id, rfl, rfl⟩

theorem specFault_text (fault : Fault) :
    ∃ status wording, specFault fault = .text status wording ∧
      IsSentence wording := by
  rw [specFault]
  split
  · exact ⟨_, _, rfl, .append ⟨_, _, rfl, by decide⟩ _⟩
  · exact ⟨_, _, rfl, .append ⟨_, _, rfl, by decide⟩ _⟩

namespace Request

variable (request : Request)

theorem boundedBody_cases :
    (bodyLimit < request.body.length ∧
        ∃ wording, request.boundedBody = .error (.text 413 wording) ∧
          IsSentence wording) ∨
      (request.body.length ≤ bodyLimit ∧
        request.boundedBody = .ok request.body) := by
  rw [boundedBody]
  split
  next short => exact .inr ⟨short, rfl⟩
  next long =>
    exact .inl ⟨Nat.lt_of_not_le long, _, rfl, _, _, rfl, by decide⟩

variable {request}

/-- A request whose body nobody looks at is turned down for its segment only. -/
theorem not_unread_of_bare {resource : Resource}
    (bare : request.method = "POST" → resource.takesBody = false)
    (named : ∀ segment, resource.segment? = some segment →
      Bytes.text? (Percent.decode segment) ≠ none) :
    ¬request.Unread resource := by
  intro unread
  cases unread with
  | unnamed names noText => exact named _ names noText
  | long post takes beyond => cases (bare post).symm.trans takes
  | untyped post other => cases bare post
  | undecoded post fails => cases bare post

/-- A submission is taken in if it announces its body as JSON, and if the body
is not too long and is a launch specification. -/
theorem intake_submission (post : request.method = "POST") :
    request.Intake .tasks (request.ask .tasks) := by
  have untyped : IsSentence
      "Expected request with \x60Content-Type: application/json\x60" :=
    ⟨_, _, rfl, by decide⟩
  rw [ask, if_pos post, spec]
  cases header : request.header? "content-type" with
  | none =>
      refine .rejected (.untyped post ?_) untyped
      intro other found
      cases header.symm.trans found
  | some type =>
      cases announced : MediaType.announcesJson type with
      | false =>
          simp only [announced, Bool.false_eq_true, if_false]
          refine .rejected (.untyped post ?_) untyped
          intro other found
          cases header.symm.trans found
          exact announced
      | true =>
          simp only [announced, if_true]
          rcases request.boundedBody_cases with
            ⟨long, wording, rejected, sentence⟩ | ⟨short, taken⟩
          · rw [rejected]
            exact .rejected (.long post rfl long) sentence
          · simp only [taken]
            cases decoded : LaunchSpec.reader.readAll request.body with
            | error fault =>
                rcases specFault_text fault with
                  ⟨status, wording, told, sentence⟩
                simp only [told]
                exact .rejected (.undecoded post decoded) sentence
            | ok spec =>
                refine .understood ?_ _
                intro unread
                cases unread with
                | unnamed names noText => cases names
                | long post takes beyond =>
                    exact absurd beyond (Nat.not_lt.mpr short)
                | untyped post other =>
                    cases announced.symm.trans (other type header)
                | undecoded post fails => cases decoded.symm.trans fails

/-- A termination is taken in if its segment stands for an id and its body is
not too long, whatever the body is. -/
theorem intake_termination (post : request.method = "POST")
    (segment : Bytes) :
    request.Intake (.termination segment)
      (request.ask (.termination segment)) := by
  rw [ask]
  rcases idOf_cases segment with
    ⟨noText, wording, rejected, sentence⟩ | ⟨id, meant, taken⟩
  · rw [rejected]
    exact .rejected (.unnamed rfl noText) sentence
  · rw [taken, stopRequest]
    dsimp only
    rcases request.boundedBody_cases with
      ⟨long, wording, rejected, sentence⟩ | ⟨short, taken⟩
    · rw [rejected]
      exact .rejected (.long post rfl long) sentence
    · have read : ¬request.Unread (.termination segment) := by
        intro unread
        cases unread with
        | unnamed names noText =>
            cases names
            cases meant.symm.trans noText
        | long post takes beyond => exact absurd beyond (Nat.not_lt.mpr short)
      rw [taken]
      dsimp only
      cases StopRequest.ofBody request.body with
      | error fault => exact .refused read _
      | ok stop => exact .understood read _

/-- A request that needs nothing but an id is taken in if its segment stands for
one. -/
theorem intake_named {resource : Resource} {segment : Bytes}
    (endpoint : String → Endpoint)
    (names : resource.segment? = some segment)
    (bare : resource.takesBody = false)
    (asked : request.ask resource = (idOf segment).map endpoint) :
    request.Intake resource (request.ask resource) := by
  rw [asked]
  rcases idOf_cases segment with
    ⟨noText, wording, rejected, sentence⟩ | ⟨id, meant, taken⟩
  · rw [rejected]
    exact .rejected (.unnamed names noText) sentence
  · rw [taken]
    refine .understood (not_unread_of_bare (fun _ => bare) ?_) _
    intro other own noText
    cases names.symm.trans own
    cases meant.symm.trans noText

/-- A request that has a method of its resource is taken in unless a part of it
cannot be read. -/
theorem intake {resource : Resource}
    (supported : request.method ∈ resource.methods) :
    request.Intake resource (request.ask resource) := by
  cases resource with
  | health =>
      refine .understood (not_unread_of_bare (fun _ => rfl) ?_) _
      intro segment names
      cases names
  | tasks =>
      by_cases post : request.method = "POST"
      · exact intake_submission post
      · rw [ask, if_neg post]
        refine .understood (not_unread_of_bare ?bare ?named) _
        case bare =>
          intro own
          exact absurd own post
        case named =>
          intro segment names
          cases names
  | task segment =>
      refine intake_named .lookUp rfl rfl ?_
      rw [ask]
      cases idOf segment <;> rfl
  | termination segment =>
      exact intake_termination (List.mem_singleton.mp supported) segment
  | removal segment =>
      refine intake_named .remove rfl rfl ?_
      rw [ask]
      cases idOf segment <;> rfl

/-- Only a request for the head of a response is told nothing. -/
theorem deliver_saysError (error : ServiceError) :
    SaysError (request.deliver error.response).body ↔
      request.method ≠ "HEAD" := by
  rw [deliver]
  split
  next head =>
    constructor
    · intro told
      exact absurd told not_saysError_nil
    · intro other
      exact absurd head other
  next other =>
    constructor
    · intro _
      exact other
    · intro _
      exact error.saysError

theorem not_deliver_saysError {wording : String}
    (sentence : IsSentence wording) (status : Nat) :
    ¬SaysError (request.deliver (.text status wording)).body := by
  rw [deliver]
  split
  · exact not_saysError_nil
  · exact sentence.not_saysError

end Request

end Http

/-! ## Failures -/

/-- Whether a response is one of success. -/
def Http.Response.Succeeds (response : Response) : Prop :=
  200 ≤ response.status ∧ response.status < 300

instance (response : Http.Response) : Decidable response.Succeeds :=
  inferInstanceAs (Decidable (_ ∧ _))

namespace Http.Request

variable {request : Request} {resource : Resource}

theorem endpoint_of_supported
    (path : Resource.ofPath? request.path = some resource)
    (supported : request.method ∈ resource.methods) :
    request.endpoint = request.ask resource := by
  simp only [endpoint, path, if_pos supported]

/-- How a failure that is found at once is told. -/
theorem atOnce_saysError_iff
    (path : Resource.ofPath? request.path = some resource)
    (supported : request.method ∈ resource.methods) {response : Response}
    (atOnce : request.atOnce? = some response)
    (failed : ¬response.Succeeds) :
    SaysError response.body ↔
      request.method ≠ "HEAD" ∧ ¬request.Unread resource := by
  have intake := Request.intake supported
  rw [atOnce?, endpoint_of_supported path supported] at atOnce
  generalize request.ask resource = outcome at atOnce intake
  cases intake with
  | rejected unread sentence =>
      cases atOnce
      constructor
      · intro told
        exact absurd told (not_deliver_saysError sentence _)
      · rintro ⟨_, read⟩
        exact absurd unread read
  | refused read error =>
      cases atOnce
      rw [deliver_saysError, and_iff_left read]
  | understood read endpoint =>
      cases asks : endpoint.operation? with
      | some operation => simp [asks] at atOnce
      | none =>
          simp only [asks] at atOnce
          cases atOnce
          refine absurd ?_ failed
          rw [Response.Succeeds, deliver_status]
          decide

/-- How a failure of an operation is told. -/
theorem respond_saysError_iff
    (path : Resource.ofPath? request.path = some resource)
    (supported : request.method ∈ resource.methods) {endpoint : Endpoint}
    (understood : request.endpoint = .ok endpoint) {result : Result}
    (failed : ¬(request.deliver (respond result)).Succeeds) :
    SaysError (request.deliver (respond result)).body ↔
      request.method ≠ "HEAD" ∧ ¬request.Unread resource := by
  have intake := Request.intake supported
  rw [← endpoint_of_supported path supported, understood] at intake
  cases intake with
  | understood read endpoint =>
      cases result with
      | ok answer =>
          have status : (respond (.ok answer)).status = 200 := by
            cases answer <;> rfl
          refine absurd ?_ failed
          rw [Response.Succeeds, deliver_status, status]
          decide
      | error error =>
          rw [respond, deliver_saysError, and_iff_left read]

end Http.Request

/-- The request that a client waits for in a turn. -/
def Turn.request? : Turn → Option Http.Request
  | replied request _ => some request
  | worked (.client request _) _ => some request
  | worked (.background _) _ => none

/-- A failure is told by an object with an error, except to those who ask for
the head alone and to those whose request is not taken in. -/
theorem Session.failure_saysError_iff {seconds : Nat} {turns : List Turn}
    {server : Server} (session : Session seconds turns server)
    {turn : Turn} (member : turn ∈ turns)
    {request : Http.Request} {response : Http.Response}
    {resource : Http.Resource}
    (asked : turn.request? = some request)
    (answered : turn.response? = some response)
    (path : Http.Resource.ofPath? request.path = some resource)
    (supported : request.method ∈ resource.methods)
    (failed : ¬response.Succeeds) :
    SaysError response.body ↔
      request.method ≠ "HEAD" ∧ ¬request.Unread resource := by
  cases turn with
  | replied own sent =>
      cases asked
      cases answered
      have atOnce := session.answers_at_once member
      exact Http.Request.atOnce_saysError_iff path supported atOnce failed
  | worked party moment =>
      cases party with
      | background id => cases asked
      | client own endpoint =>
          cases asked
          rcases session.asks member with ⟨operation, ⟨understood, _⟩, _⟩
          rcases Option.bind_eq_some_iff.mp answered with
            ⟨result, ended, shown⟩
          cases shown
          exact Http.Request.respond_saysError_iff path supported understood
            failed

/-! A task that nobody has submitted is looked up. -/

namespace Sample

/-- The request to look at the task. -/
def lookUp : Http.Request where
  method := "GET"
  path := "/api/tasks/a"

/-- Its turn when no task is registered. -/
def lookUpTurn : Turn :=
  .worked (.client lookUp (.lookUp "a"))
    (({} : World).moment 10 0 (.begun (.get "a")))

theorem lookUp_read : ¬lookUp.Unread (.task [97]) := by
  refine Http.Request.not_unread_of_bare (fun _ => rfl) ?_
  intro segment names noText
  cases names
  cases (Bytes.text?_ofText "a").symm.trans noText

end Sample

theorem Session.failure_saysError_iff_unknown :
    ∃ server response, Session 10 [Sample.lookUpTurn] server ∧
      Sample.lookUpTurn.response? = some response ∧
      response.status = 404 ∧ SaysError response.body := by
  have allowed :
      Server.Allows {} 0 (.client Sample.lookUp (.lookUp "a"))
        (.begun (.get "a")) :=
    .ask rfl rfl (by decide)
  have session : Session 10 [Sample.lookUpTurn] _ :=
    Session.empty.work allowed
  have path :
      Http.Resource.ofPath? Sample.lookUp.path = some (.task [97]) := rfl
  have told := session.failure_saysError_iff List.mem_cons_self rfl rfl path
    (by decide) (by decide)
  exact ⟨_, _, session, rfl, rfl, told.mpr ⟨by decide, Sample.lookUp_read⟩⟩

/-! A submission that does not say what its body is. -/

/-- A submission without headers. -/
def Sample.untypedSubmission : Http.Request :=
  { submission with headers := [] }

theorem untyped_submission_without_error :
    ∃ server response,
      Session 10 [.replied Sample.untypedSubmission response] server ∧
        Http.Resource.ofPath? Sample.untypedSubmission.path = some .tasks ∧
        Sample.untypedSubmission.method ∈ Http.Resource.tasks.methods ∧
        response.status = 415 ∧ ¬SaysError response.body := by
  have sentence : IsSentence
      "Expected request with \x60Content-Type: application/json\x60" :=
    ⟨_, _, rfl, by decide⟩
  exact ⟨_, _, .reply .empty rfl, rfl, by decide, rfl,
    sentence.not_saysError⟩

end Workloads
