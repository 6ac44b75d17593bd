import Workloads.Proofs.Worker.Atomicity

/-!
# Refusals

An operation is refused if its task is unknown, if the id is taken, or if the
task has not ended.  This may come out late, after the operation has waited for
the runtime; even so, an operation that is refused has written nothing.
-/

namespace Workloads

/-- The outcomes that refuse an operation, as opposed to failures of the
runtime. -/
inductive Refusal : Result → Prop where
  | unknown (id : String) : Refusal (.error (.notFound id))
  | taken (id : String) : Refusal (.error (.alreadyExists id))
  | unended (id : String) : Refusal (.error (.notTerminated id))

/-- Whether an operation that waits here has written before. -/
def Suspension.hasWritten : Suspension → Bool
  | quelling _ _ _ | stoppingLate _ _ _ => true
  | running _ _ | dropping _ _ | stopping _ _ _ _ | removing _ _ => false

/-- Whether the operation of a segment has written before it. -/
def Cause.hasWritten : Cause → Bool
  | begun _ => false
  | answered suspension _ => suspension.hasWritten

namespace Cause.Leads

variable {seconds : Nat} {registry : Registry} {cause : Cause}
  {segment : Segment}

/-- An operation that has not written when it waits has not written in the
segment before, nor before that. -/
theorem clean_of_waiting (leads : Leads seconds registry cause segment)
    {suspension : Suspension}
    (next : segment.next = .waiting suspension)
    (clean : suspension.hasWritten = false) :
    cause.hasWritten = false ∧ cause.write? registry = none := by
  cases leads <;> cases next
  case launching found => exact ⟨rfl, rfl⟩
  case stopping found live held => exact ⟨rfl, by simp [write?, found, held]⟩
  case removing found ended held => exact ⟨rfl, by simp [write?, found, held]⟩
  case dropping absent => exact ⟨rfl, by simp [write?, absent]⟩
  all_goals cases clean

/-- An operation that is refused has not written. -/
theorem clean_of_refused (leads : Leads seconds registry cause segment)
    {result : Result}
    (next : segment.next = .finished result) (refusal : Refusal result) :
    cause.hasWritten = false ∧ cause.write? registry = none := by
  cases leads <;> cases next
  case taken found => exact ⟨rfl, by simp [write?, Registry.has, found]⟩
  case unknown operation id target absent =>
    cases operation <;> cases target <;>
      exact ⟨rfl, by simp [write?, absent]⟩
  case refused found live => exact ⟨rfl, by simp [write?, found, live]⟩
  case failedUnknown absent => exact ⟨rfl, by simp [write?, absent]⟩
  case stoppedUnknown absent => exact ⟨rfl, by simp [write?, absent]⟩
  case dropped => exact ⟨rfl, rfl⟩
  all_goals cases refusal

end Cause.Leads

namespace Run

variable {seconds : Nat} {history : List Moment} {world : World}

/-- An operation that has not written when it waits has not written in any of
its moments. -/
theorem clean_waiting (run : Run seconds history world)
    {ticket : Nat} {suspension : Suspension}
    (waits : world.flights ticket = some suspension)
    (clean : suspension.hasWritten = false)
    {moment : Moment} (member : moment ∈ history)
    (own : moment.ticket = ticket) :
    moment.write? = none := by
  induction run generalizing suspension with
  | empty => cases member
  | @step history world now cause past allowed hypothesis =>
      rcases World.flights_advance waits with
        ⟨rfl, next⟩ | ⟨apart, earlier⟩
      · have leads := Cause.leads_segment seconds world.registry cause
        rcases leads.clean_of_waiting next clean with ⟨before, silent⟩
        rcases List.mem_append.mp member with old | new
        · cases allowed with
          | begin unused =>
              exact absurd (past.ticket_mem old) (own ▸ unused)
          | answer waitsBefore reply =>
              exact hypothesis waitsBefore before old
        · rw [List.mem_singleton.mp new]
          exact silent
      · rcases List.mem_append.mp member with old | new
        · exact hypothesis earlier clean old
        · rw [List.mem_singleton.mp new] at own
          exact absurd own.symm apart

/-- An operation that has not written before its last moment, nor in it, leaves
the registry as it is in each of its moments. -/
theorem clean_ended (run : Run seconds history world)
    {final moment : Moment} {result : Result}
    (finalMember : final ∈ history)
    (ended : final.result? = some result)
    (clean : final.cause.hasWritten = false) (last : final.write? = none)
    (member : moment ∈ history) (own : moment.ticket = final.ticket) :
    moment.write? = none ∧ moment.after = moment.before := by
  -- The moment is the last one of the operation, or the operation waited
  -- after it.
  have silent : moment.write? = none := by
    rcases List.getElem?_of_mem finalMember with ⟨right, there⟩
    rcases List.getElem?_of_mem member with ⟨left, here⟩
    rcases Nat.lt_or_eq_of_le (run.le_ended there ended here own) with
      before | same
    · rcases run.at_index there with ⟨early, past, earlier, allowed, members⟩
      have old := members left moment here before
      generalize final.cause = cause at allowed clean
      cases allowed with
      | begin unused =>
          exact absurd (earlier.ticket_mem old) (own ▸ unused)
      | answer waits reply => exact earlier.clean_waiting waits clean old own
    · rw [same, there] at here
      cases here
      exact last
  refine ⟨silent, ?_⟩
  have written := (run.leads member).written
  rw [Moment.write?] at silent
  rw [silent] at written
  exact written

/-- An operation that is refused leaves the registry as it is in each of its
moments. -/
theorem clean_refused (run : Run seconds history world)
    {final moment : Moment} {result : Result}
    (finalMember : final ∈ history)
    (ended : final.result? = some result) (refusal : Refusal result)
    (member : moment ∈ history) (own : moment.ticket = final.ticket) :
    moment.write? = none ∧ moment.after = moment.before := by
  rcases (run.leads finalMember).clean_of_refused
      (Next.result?_eq_some.mp ended) refusal with
    ⟨clean, last⟩
  exact run.clean_ended finalMember ended clean last member own

end Run

end Workloads
