import Mathlib.Data.List.Nodup
import Workloads.Proofs.Server.Session
import Workloads.Proofs.Worker.Entries

/-!
# Submissions and launches

Each accepted submission makes one launch due, and nothing else launches a
task.  A session that accepts no id twice therefore launches no id twice.
-/

namespace Workloads

/-- The id of the task that is entered in a moment. -/
def Moment.accepts? (moment : Moment) : Option String :=
  match moment.cause, moment.result? with
  | .begun (.submit spec), some (.ok _) => some spec.id
  | _, _ => none

/-- The ids of the tasks that were entered, in the order of their
submissions. -/
def acceptedIds (history : List Moment) : List String :=
  history.filterMap Moment.accepts?

/-- Whether no id was accepted twice. -/
def AcceptedOnce (history : List Moment) : Prop :=
  (acceptedIds history).Nodup

theorem AcceptedOnce.of_append {early late : List Moment}
    (once : AcceptedOnce (early ++ late)) : AcceptedOnce early := by
  rw [AcceptedOnce, acceptedIds, List.filterMap_append] at once
  exact (List.nodup_append.mp once).1

theorem acceptedIds_concat (history : List Moment) (moment : Moment) :
    acceptedIds (history ++ [moment]) =
      acceptedIds history ++ moment.accepts?.toList :=
  filterMap_concat _ history moment

theorem Moment.accepts?_eq (moment : Moment) :
    moment.accepts? = moment.entered?.map LaunchSpec.id := by
  grind [accepts?, entered?]

/-- An accepted submission enters the task of its specification. -/
theorem Moment.of_accepts
    {seconds : Nat} {registry : Registry} {moment : Moment} {id : String}
    (leads : moment.cause.Leads seconds registry moment.segment)
    (accepts : moment.accepts? = some id) :
    ∃ spec, moment.cause = .begun (.submit spec) ∧ spec.id = id ∧
      registry.find? id = none ∧
      moment.after = registry.insert id (Task.ofSpec spec) ∧
      moment.result? = some (.ok (.task (Task.ofSpec spec))) := by
  rw [accepts?_eq] at accepts
  rcases Option.map_eq_some_iff.mp accepts with ⟨spec, entered, rfl⟩
  rcases Moment.of_entered leads entered with
    ⟨begun, absent, after, result⟩
  exact ⟨spec, begun, rfl, absent, after, result⟩

namespace Party

variable {party : Party}

/-- Whoever waits for a submission has asked for it. -/
theorem of_submit {spec : LaunchSpec}
    (asks : party.operation? = some (.submit spec)) :
    ∃ request, party = .client request (.submit spec) := by
  cases party with
  | background id => cases asks
  | client request endpoint =>
      cases endpoint <;> cases asks
      exact ⟨request, rfl⟩

/-- Nothing becomes due with the outcome of another operation. -/
theorem followUp_of_other {operation : Operation}
    (asks : party.operation? = some operation)
    (other : ∀ spec, operation ≠ .submit spec) (result : Result) :
    party.followUp result = none := by
  cases party with
  | background id => rfl
  | client request endpoint =>
      cases endpoint with
      | submit spec =>
          cases asks
          exact absurd rfl (other spec)
      | _ => rfl

end Party

namespace Server

variable {server : Server} {ticket : Nat} {party : Party} {cause : Cause}

/-- A launch begins when it is due. -/
theorem Allows.launch_due {id : String}
    (allowed : server.Allows ticket party cause)
    (launched : cause.launched? = some id) :
    id ∈ server.due := by
  have begun := Cause.launched?_eq_some.mp launched
  cases allowed with
  | @ask request endpoint operation understood asks unused =>
      cases begun
      cases endpoint <;> cases asks
  | launch due unused =>
      cases begun
      exact due
  | answer known waits reply => cases begun

end Server

namespace Session

variable {seconds : Nat} {turns : List Turn} {server : Server}
  {ticket : Nat} {party : Party} {cause : Cause}

/-- The launch of a task becomes due when the task is entered. -/
theorem followUp_eq (session : Session seconds turns server)
    (allowed : server.Allows ticket party cause) :
    (server.world.moment seconds ticket cause).result?.bind party.followUp =
      (server.world.moment seconds ticket cause).accepts? := by
  rcases session.causes allowed with ⟨operation, asks, causes⟩
  by_cases other : ∀ spec, operation ≠ .submit spec
  · have nothing : party.followUp = fun _ => none :=
      funext (Party.followUp_of_other asks other)
    rw [nothing, Option.bind_fun_none]
    cases causes with
    | begun =>
        cases operation with
        | submit spec => exact absurd rfl (other spec)
        | _ => rfl
    | answered suspends => rfl
  · obtain ⟨spec, rfl⟩ : ∃ spec, operation = .submit spec := by
      simpa using other
    rcases Party.of_submit asks with ⟨request, rfl⟩
    cases causes with
    | answered suspends => cases suspends
    | begun =>
        have leads :=
          Cause.leads_segment seconds server.world.registry
            (.begun (.submit spec))
        rw [Moment.accepts?, World.moment, Moment.result?]
        generalize Cause.segment seconds server.world.registry
          (.begun (.submit spec)) = segment at leads
        cases leads with
        | submitted absent => rfl
        | taken found => rfl
        | unknown target absent => cases target

/-- A launch begins, or is due, for each task that was entered. -/
theorem launches_counted (session : Session seconds turns server)
    (id : String) :
    (launchedIds (moments turns)).count id + server.due.count id =
      (acceptedIds (moments turns)).count id := by
  induction session with
  | empty => rfl
  | reply past answers hypothesis => simpa using hypothesis
  | @work turns server ticket party cause past allowed hypothesis =>
      have accepted := past.followUp_eq allowed
      rw [moments_append, moments_worked, moments_nil, launchedIds_concat,
        acceptedIds_concat, Server.advance_due, Server.dueAfter, accepted,
        List.count_append, List.count_append, List.count_append]
      cases launched : cause.launched? with
      | none =>
          simp only [World.moment, launched, Option.elim, Option.toList,
            List.count_nil]
          omega
      | some key =>
          have due := allowed.launch_due launched
          simp only [World.moment, launched, Option.elim, Option.toList,
            List.count_erase, List.count_singleton]
          by_cases own : key = id
          · have positive := List.count_pos_iff.mpr due
            rw [own] at positive
            simp only [own, beq_self_eq_true, if_true]
            omega
          · simp only [own, beq_iff_eq, if_false]
            omega

/-- A session that accepts no id twice launches no id twice. -/
theorem launchedOnce (session : Session seconds turns server)
    (once : AcceptedOnce (moments turns)) :
    LaunchedOnce (moments turns) := by
  apply List.nodup_iff_count_le_one.mpr
  intro id
  have counted := session.launches_counted id
  have single := List.nodup_iff_count_le_one.mp once id
  omega

end Session

end Workloads
