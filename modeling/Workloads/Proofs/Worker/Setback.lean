import Workloads.Proofs.Worker.Containers
import Workloads.Proofs.Worker.Isolation
import Workloads.Proofs.Worker.Refusal

/-!
# Terminations and removals that fail

A removal that fails has written nothing, and neither has a termination, unless
it has ended its task and then learns that another container, recorded
meanwhile, does not stop.  Whoever has written nothing can try again: as long as
nobody else writes to the record, the same call is made for the same container.
-/

namespace Workloads

/-! ## Records that nobody writes to -/

/-- Whether nobody writes to the record of a key after one moment and before
another. -/
def Untouched (history : List Moment) (key : String) (first last : Nat) :
    Prop :=
  ∀ index moment, first < index → index < last →
    history[index]? = some moment →
    moment.cause.subject? = some key → moment.write? = none

namespace Run

variable {seconds : Nat} {history : List Moment} {world : World}
  {key : String}

/-- A moment that is not about a key, or writes nothing, leaves the record of
the key as it is. -/
theorem record_kept (run : Run seconds history world) {moment : Moment}
    (member : moment ∈ history)
    (silent : moment.cause.subject? = some key → moment.write? = none) :
    moment.after.find? key = moment.before.find? key := by
  have leads := run.leads member
  by_cases about : moment.cause.subject? = some key
  · have written := leads.written
    have none := silent about
    rw [Moment.write?] at none
    rw [none] at written
    rw [Moment.after, written]
    rfl
  · exact leads.writes.frame (run.sound_before member) about

/-- A record to which nobody writes is found as it was left. -/
theorem found_untouched (run : Run seconds history world)
    {first gap : Nat} {start moment : Moment}
    (here : history[first]? = some start)
    (there : history[first + gap + 1]? = some moment)
    (untouched : Untouched history key first (first + gap + 1)) :
    moment.before.find? key = start.after.find? key := by
  induction gap generalizing moment with
  | zero => rw [run.before_eq_after here there]
  | succ gap hypothesis =>
      have inside : first + gap + 1 < history.length :=
        Nat.lt_of_succ_lt (List.getElem?_eq_some_iff.mp there).1
      obtain ⟨middle, place⟩ :
          ∃ middle, history[first + gap + 1]? = some middle :=
        ⟨_, List.getElem?_eq_getElem inside⟩
      have found := hypothesis place fun index other above below =>
        untouched index other above (Nat.lt_succ_of_lt below)
      have kept : middle.after.find? key = middle.before.find? key :=
        run.record_kept (List.mem_of_getElem? place)
          (untouched _ middle
            (Nat.lt_succ_of_le (Nat.le_add_right first gap))
            (Nat.lt_succ_self _) place)
      rw [run.before_eq_after place there, kept, found]

/-- What a moment does is told by its cause and by what it finds. -/
theorem segment_eq (run : Run seconds history world) {moment : Moment}
    (member : moment ∈ history) :
    moment.segment = moment.cause.segment seconds moment.before := by
  rcases run.of_mem member with ⟨_, _, past, _, _, _, same⟩
  rw [same]
  rfl

/-- An operation that begins again makes the same call again if it finds the
record of its id as it was. -/
theorem call_again (run : Run seconds history world)
    {first index : Nat} {start retry : Moment} {operation : Operation}
    (here : history[first]? = some start)
    (begun : start.cause = .begun operation)
    (about : operation.subject? = some key)
    (unwritten : start.write? = none)
    (there : history[index]? = some retry) (later : first < index)
    (again : retry.cause = .begun operation)
    (untouched : Untouched history key first index) :
    retry.call? = start.call? := by
  have member := List.mem_of_getElem? here
  rcases Nat.exists_eq_add_of_lt later with ⟨gap, rfl⟩
  have same : retry.before.find? key = start.before.find? key := by
    rw [run.found_untouched here there untouched]
    exact run.record_kept member fun _ => unwritten
  have subject : (Cause.begun operation).subject? = some key := about
  have agree := Cause.segment_agree seconds subject same
  rw [Moment.call?, Moment.call?, run.segment_eq member, begun,
    run.segment_eq (List.mem_of_getElem? there), again, agree.next]

end Run

/-! ## Failures -/

/-- Whether an operation leaves the registry as it is in each of its
moments. -/
def Unwritten (history : List Moment) (ticket : Nat) : Prop :=
  ∀ moment ∈ history, moment.ticket = ticket →
    moment.write? = none ∧ moment.after = moment.before

/-- Whether an operation is to end or to forget the task of an id. -/
inductive Operation.Closes (key : String) : Operation → Prop where
  | terminate (request : StopRequest) : Closes key (.terminate key request)
  | remove : Closes key (.remove key)

theorem Operation.Closes.subject?_eq {key : String} {operation : Operation}
    (closes : operation.Closes key) : operation.subject? = some key := by
  cases closes <;> rfl

/-- What a termination or a removal calls first is about a container. -/
theorem Operation.Closes.handle {key : String} {operation : Operation}
    {suspension : Suspension} (closes : operation.Closes key)
    (suspends : operation.Suspends suspension)
    (opening : suspension.isFirst = true) :
    ∃ container,
      ((∃ limit, suspension.call = .stop container limit) ∨
        suspension.call = .remove container) ∧
      suspension.handle? = some (suspension.subject, container) := by
  cases closes <;> cases suspends
  case terminate.stopping request container limit =>
    exact ⟨container, .inl ⟨limit, rfl⟩, rfl⟩
  case terminate.stoppingLate => cases opening
  case remove.removing container task =>
    exact ⟨container, .inr rfl, rfl⟩

/-- Neither writes anything before its first call, nor when this call fails. -/
theorem Operation.Closes.silent {key : String} {operation : Operation}
    {suspension : Suspension} (closes : operation.Closes key)
    (suspends : operation.Suspends suspension)
    (opening : suspension.isFirst = true) (failure : RuntimeFailure)
    (registry : Registry) :
    (Cause.answered suspension (.error failure)).hasWritten = false ∧
      (Cause.answered suspension (.error failure)).write? registry =
        none := by
  cases closes <;> cases suspends
  case terminate.stopping => exact ⟨rfl, rfl⟩
  case terminate.stoppingLate => cases opening
  case remove.removing => exact ⟨rfl, rfl⟩

/-- An operation that fails is refused, or a call of its own has failed. -/
theorem Cause.Leads.refusal_or_failure
    {seconds : Nat} {registry : Registry} {cause : Cause}
    {segment : Segment} {operation : Operation} {error : TaskError}
    (leads : Leads seconds registry cause segment)
    (causes : operation.Causes cause)
    (next : segment.next = .finished (.error error)) :
    Refusal (.error error) ∨
      ∃ suspension failure, operation.Suspends suspension ∧
        cause = .answered suspension (.error failure) ∧
        error = .runtime failure := by
  cases leads <;> cases next
  case taken found => exact .inl (.taken _)
  case unknown target absent => exact .inl (.unknown _)
  case refused found live => exact .inl (.unended _)
  case failedUnknown absent => exact .inl (.unknown _)
  case stoppedUnknown absent => exact .inl (.unknown _)
  case dropped => exact .inl (.unknown _)
  case failed found =>
    cases causes with
    | answered suspends => exact .inr ⟨_, _, suspends, rfl, rfl⟩
  case broken later =>
    cases causes with
    | answered suspends => exact .inr ⟨_, _, suspends, rfl, rfl⟩

/-- What a termination or a removal that fails has done, from the moment in
which it has begun to its last one. -/
inductive Setback (history : List Moment) (operation : Operation)
    (key : String) (first : Nat) (start final : Moment) :
    TaskError → Prop where
  /-- Its task is unknown or has not ended: it has written nothing. -/
  | refused {error : TaskError} (refusal : Refusal (.error error))
      (unwritten : Unwritten history start.ticket) :
      Setback history operation key first start final error
  /-- The container that it has found cannot be stopped or removed: it has
  written nothing, and the same is tried again by whoever asks for it before
  the record is written to. -/
  | failed {suspension : Suspension} {task : Task} {container : String}
      {failure : RuntimeFailure}
      (found : start.before.find? key = some task)
      (held : task.containerId = some container)
      (touches : start.Stops container ∨ start.Removes container)
      (waits : start.segment.next = .waiting suspension)
      (answered : final.cause = .answered suspension (.error failure))
      (unwritten : Unwritten history start.ticket)
      (again :
        ∀ index retry, first < index → history[index]? = some retry →
          retry.cause = .begun operation →
          Untouched history key first index →
            retry.call? = start.call?) :
      Setback history operation key first start final (.runtime failure)
  /-- It is a termination, and all that it has written is the end of the task;
  then it has found there a container other than the one it has stopped, and
  cannot stop that one. -/
  | failedLate {request : StopRequest} {task : Task}
      {seen container : String} {limit point : Nat} {marking : Moment}
      {failure : RuntimeFailure}
      (asked : operation = .terminate key request)
      (place : history[point]? = some marking)
      (own : marking.ticket = start.ticket)
      (stopped :
        marking.cause =
          .answered (.stopping key request seen limit) (.ok ()))
      (marked : marking.write? = some (.store key task))
      (once :
        ∀ (index : Nat) (moment : Moment), history[index]? = some moment →
          moment.ticket = start.ticket → moment.write? ≠ none →
            index = point)
      (ended : task.status = .terminated)
      (held : task.containerId = some container)
      (other : container ≠ seen)
      (answered :
        final.cause =
          .answered (.stoppingLate task container limit)
            (.error failure)) :
      Setback history operation key first start final (.runtime failure)

namespace Run

variable {seconds : Nat} {history : List Moment} {world : World}
  {key : String} {first last : Nat} {start final : Moment}
  {operation : Operation} {failure : RuntimeFailure}

/-- An operation whose first call is answered made this call when it began. -/
theorem waits_first (run : Run seconds history world)
    {suspension : Suspension} {reply : suspension.call.Reply}
    (startMember : start ∈ history)
    (begun : start.cause = .begun operation)
    (there : history[last]? = some final)
    (own : final.ticket = start.ticket)
    (answered : final.cause = .answered suspension reply)
    (opening : suspension.isFirst = true) :
    start.segment.next = .waiting suspension := by
  rcases run.asked there answered with ⟨_, issue, _, place, ticket, next⟩
  have member := List.mem_of_getElem? place
  rcases (run.leads member).of_first next opening with ⟨other, otherBegun⟩
  have same : issue = start :=
    run.begun_unique member startMember otherBegun begun
      (ticket.trans own)
  rw [← same]
  exact next

/-- The first call of a termination or a removal has failed. -/
theorem setback_of_first (run : Run seconds history world)
    {suspension : Suspension}
    (here : history[first]? = some start)
    (begun : start.cause = .begun operation)
    (closes : operation.Closes key)
    (there : history[last]? = some final)
    (own : final.ticket = start.ticket)
    (ended : final.result? = some (.error (.runtime failure)))
    (suspends : operation.Suspends suspension)
    (answered : final.cause = .answered suspension (.error failure))
    (opening : suspension.isFirst = true) :
    Setback history operation key first start final (.runtime failure) := by
  have startMember := List.mem_of_getElem? here
  have finalMember := List.mem_of_getElem? there
  have waits := run.waits_first startMember begun there own answered opening
  have call : start.call? = some suspension.call := by
    rw [Moment.call?, waits]
    rfl
  rcases closes.handle suspends opening with ⟨container, calls, handle⟩
  have touches : start.Stops container ∨ start.Removes container := by
    rcases calls with ⟨limit, stops⟩ | removes
    · exact .inl ⟨limit, call.trans (congrArg some stops)⟩
    · exact .inr (call.trans (congrArg some removes))
  have silent := closes.silent suspends opening failure final.before
  rw [← answered] at silent
  have unwritten : Unwritten history start.ticket := by
    intro moment member same
    exact run.clean_ended finalMember ended silent.1 silent.2 member
      (same.trans own.symm)
  have subject : some key = some suspension.subject := by
    rw [← (run.leads startMember).subject_eq (run.sound_before startMember)
      waits, begun]
    exact closes.subject?_eq.symm
  cases subject
  rcases (run.leads startMember).handle (run.sound_before startMember) waits
      handle with
    ⟨task, found, held⟩ | returned
  · refine .failed found held touches waits answered unwritten ?_
    intro index retry later place again untouched
    exact run.call_again here begun closes.subject?_eq
      (unwritten start startMember rfl).1 place later again untouched
  · rw [begun] at returned
    cases returned

/-- The second stop of a termination has failed. -/
theorem setback_of_late (run : Run seconds history world)
    {request : StopRequest} {task : Task} {container : String} {limit : Nat}
    (startMember : start ∈ history)
    (begun : start.cause = .begun (.terminate key request))
    (there : history[last]? = some final)
    (own : final.ticket = start.ticket)
    (answered :
      final.cause =
        .answered (.stoppingLate task container limit) (.error failure)) :
    Setback history (.terminate key request) key first start final
      (.runtime failure) := by
  rcases run.asked there answered with
    ⟨index, marking, _, place, ticket, next⟩
  have member := List.mem_of_getElem? place
  have same := ticket.trans own
  rcases run.causes_of_began member ⟨start, startMember, same.symm, begun⟩
    with ⟨causes, _⟩
  have leads := run.leads member
  have written : marking.write? = marking.cause.write? marking.before := rfl
  generalize cause : marking.cause = cause at leads causes written
  generalize marking.segment = segment at leads next
  cases leads <;> cases next
  case stoppingLate reply old found held other =>
    cases causes with
    | answered suspends =>
        cases suspends
        have marked : marking.write? =
            some (.store key (request.settle old)) := by
          rw [written]
          simp [Cause.write?, found]
        refine .failedLate rfl place same cause marked ?once
          (Task.settle_status _ _ _) ?held other answered
        case once =>
          intro other moment there ticket writes
          refine run.write_unique there place (ticket.trans same.symm) writes
            ?_
          rw [marked]
          exact Option.some_ne_none _
        case held => simpa [StopRequest.settle] using held

/-- A termination or a removal that fails has written nothing and can be tried
again, unless it is a termination that has failed at its second stop. -/
theorem setback (run : Run seconds history world)
    (here : history[first]? = some start)
    (begun : start.cause = .begun operation)
    (closes : operation.Closes key)
    (there : history[last]? = some final)
    (own : final.ticket = start.ticket) {error : TaskError}
    (ended : final.result? = some (.error error)) :
    Setback history operation key first start final error := by
  have startMember := List.mem_of_getElem? here
  have finalMember := List.mem_of_getElem? there
  rcases run.causes_of_began finalMember
      ⟨start, startMember, own.symm, begun⟩ with
    ⟨causes, _⟩
  rcases (run.leads finalMember).refusal_or_failure causes
      (Next.result?_eq_some.mp ended) with
    refusal | ⟨suspension, failure, suspends, answered, rfl⟩
  · refine .refused refusal ?_
    intro moment member same
    exact run.clean_refused finalMember ended refusal member
      (same.trans own.symm)
  · cases opening : suspension.isFirst with
    | true =>
        exact run.setback_of_first here begun closes there own ended suspends
          answered opening
    | false =>
        cases closes with
        | remove =>
            cases suspends
            cases opening
        | terminate request =>
            cases suspends with
            | stopping => cases opening
            | stoppingLate =>
                exact run.setback_of_late startMember begun there own
                  answered

end Run

/-! A termination fails at its stop and is tried again. -/

/-- The task that is to end. -/
def reluctantSpec : LaunchSpec where
  id := "a"
  label := "b"

/-- What the runtime says about a container that does not stop. -/
def busy (container : String) : RuntimeFailure :=
  .stopContainer container "busy"

/-- The task runs in its container. -/
def launchedScript : List (Nat × Cause) := [
  (0, .begun (.submit reluctantSpec)),
  (1, .begun (.launch "a")),
  (1, .answered (.running "a" (Task.ofSpec reluctantSpec)) (.ok "c"))]

/-- A termination fails, and another one begins. -/
def retriedScript : List (Nat × Cause) :=
  launchedScript ++ [
    (2, .begun (.terminate "a" {})),
    (2, .answered (.stopping "a" {} "c" 10) (.error (busy "c"))),
    (3, .begun (.terminate "a" {}))]

theorem retriedScript_allowed : World.AllowsAll 10 {} retriedScript :=
  ⟨.begin (by decide) _, .begin (by decide) _, .answer rfl _,
    .begin (by decide) _, .answer rfl _, .begin (by decide) _, trivial⟩

theorem Run.setback_retried :
    ∃ history world start final retry,
      Run 10 history world ∧ history[3]? = some start ∧
        history[4]? = some final ∧
        Setback history (.terminate "a" {}) "a" 3 start final
          (.runtime (busy "c")) ∧
        history[5]? = some retry ∧ retry.Stops "c" := by
  have run : Run 10 (World.play 10 {} retriedScript).1 _ :=
    Run.empty.play retriedScript_allowed
  have here : (World.play 10 {} retriedScript).1[3]? = some _ := rfl
  have there : (World.play 10 {} retriedScript).1[4]? = some _ := rfl
  exact ⟨_, _, _, _, _, run, here, there,
    Run.setback run here rfl (.terminate {}) there rfl rfl, rfl, 10, rfl⟩

/-! A second launch has given the task another container while a termination was
stopping the first one; or else the task has been ended by another termination
meanwhile. -/

/-- The other container is found when the first one has stopped, and does not
stop; then the termination is tried again. -/
def supplantedScript : List (Nat × Cause) :=
  launchedScript ++ [
    (2, .begun (.launch "a")),
    (3, .begun (.terminate "a" {})),
    (2, .answered
      (.running "a" ((Task.ofSpec reluctantSpec).started "c")) (.ok "d")),
    (3, .answered (.stopping "a" {} "c" 10) (.ok ())),
    (3, .answered
      (.stoppingLate
        (StopRequest.settle {}
          (((Task.ofSpec reluctantSpec).started "c").started "d"))
        "d" 10)
      (.error (busy "d"))),
    (4, .begun (.terminate "a" {}))]

/-- Of two terminations the second one succeeds and the first one fails; then it
is tried again. -/
def rivalledScript : List (Nat × Cause) :=
  launchedScript ++ [
    (2, .begun (.terminate "a" {})),
    (3, .begun (.terminate "a" {})),
    (3, .answered (.stopping "a" {} "c" 10) (.ok ())),
    (2, .answered (.stopping "a" {} "c" 10) (.error (busy "c"))),
    (4, .begun (.terminate "a" {}))]

theorem supplantedScript_allowed :
    World.AllowsAll 10 {} supplantedScript :=
  ⟨.begin (by decide) _, .begin (by decide) _, .answer rfl _,
    .begin (by decide) _, .begin (by decide) _, .answer rfl _,
    .answer rfl _, .answer rfl _, .begin (by decide) _, trivial⟩

theorem rivalledScript_allowed : World.AllowsAll 10 {} rivalledScript :=
  ⟨.begin (by decide) _, .begin (by decide) _, .answer rfl _,
    .begin (by decide) _, .begin (by decide) _, .answer rfl _,
    .answer rfl _, .begin (by decide) _, trivial⟩

/-- The first termination has failed after it has written; the second one has
written nothing; neither stops a container when it is tried again. -/
theorem failed_terminations_unrepeated :
    (∃ history world marking final retry,
      Run 10 history world ∧ history[6]? = some marking ∧
        history[7]? = some final ∧ marking.ticket = final.ticket ∧
        marking.write? ≠ none ∧
        final.result? = some (.error (.runtime (busy "d"))) ∧
        history[8]? = some retry ∧
        retry.cause = .begun (.terminate "a" {}) ∧ retry.call? = none) ∧
      ∃ history world final retry,
        Run 10 history world ∧ history[6]? = some final ∧
          final.result? = some (.error (.runtime (busy "c"))) ∧
          history[7]? = some retry ∧
          retry.cause = .begun (.terminate "a" {}) ∧
          retry.call? = none := by
  constructor
  · exact ⟨_, _, _, _, _, Run.empty.play supplantedScript_allowed, rfl, rfl,
      rfl, Option.some_ne_none _, rfl, rfl, rfl, rfl⟩
  · exact ⟨_, _, _, _, Run.empty.play rivalledScript_allowed, rfl, rfl, rfl,
      rfl, rfl⟩

end Workloads
