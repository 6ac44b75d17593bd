import Workloads.Proofs.Lists
import Workloads.Proofs.Worker.Segment

/-!
# Runs of the worker

Operations begin at any time and wait for their calls as long as they like; a
call is answered at any later time with anything that answers such a call.
Between two calls an operation is not interrupted, so a run is a sequence of
moments, each of which is one segment of one operation.  A ticket tells the
operations apart.
-/

namespace Workloads

/-- The worker between two moments: what is registered, which operations
wait, and which tickets have been given out. -/
structure World where
  registry : Registry := ∅
  flights : Nat → Option Suspension := fun _ => none
  tickets : List Nat := []

/-- One moment of a run: a segment of the operation with this ticket. -/
structure Moment where
  ticket : Nat
  cause : Cause
  before : Registry
  segment : Segment

namespace Moment

/-- The registry that a moment leaves. -/
def after (moment : Moment) : Registry :=
  moment.segment.registry

/-- The call that is made in a moment. -/
def call? (moment : Moment) : Option RuntimeCall :=
  moment.segment.next.suspension?.map Suspension.call

/-- The outcome of the operation that ends in a moment. -/
def result? (moment : Moment) : Option Result :=
  moment.segment.next.result?

end Moment

namespace World

/-- What can set a segment going, and under which ticket: an operation may
begin under a new ticket, and a call that is waited for may be answered. -/
inductive Allows (world : World) : Nat → Cause → Prop where
  | begin {ticket : Nat} (unused : ticket ∉ world.tickets)
      (operation : Operation) :
      Allows world ticket (.begun operation)
  | answer {ticket : Nat} {suspension : Suspension}
      (waits : world.flights ticket = some suspension)
      (reply : suspension.call.Reply) :
      Allows world ticket (.answered suspension reply)

/-- The moment that a cause brings about. -/
def moment
    (seconds : Nat) (world : World) (ticket : Nat) (cause : Cause) :
    Moment where
  ticket := ticket
  cause := cause
  before := world.registry
  segment := cause.segment seconds world.registry

/-- The worker after a moment. -/
def advance (world : World) (moment : Moment) : World where
  registry := moment.after
  flights := fun ticket =>
    if ticket = moment.ticket then moment.segment.next.suspension?
    else world.flights ticket
  tickets := moment.ticket :: world.tickets

@[simp]
theorem advance_registry (world : World) (moment : Moment) :
    (world.advance moment).registry = moment.after :=
  rfl

theorem advance_flights_own
    (world : World) {moment : Moment} {suspension : Suspension}
    (next : moment.segment.next = .waiting suspension) :
    (world.advance moment).flights moment.ticket = some suspension := by
  simpa [advance] using next

theorem advance_flights_other
    (world : World) {moment : Moment} {ticket : Nat}
    (other : ticket ≠ moment.ticket) :
    (world.advance moment).flights ticket = world.flights ticket := by
  simp [advance, other]

/-- Who waits after a moment: the operation of the moment if its segment
suspends, and everyone else who waited before. -/
theorem flights_advance
    {world : World} {moment : Moment} {ticket : Nat}
    {suspension : Suspension}
    (waits : (world.advance moment).flights ticket = some suspension) :
    (ticket = moment.ticket ∧
        moment.segment.next = .waiting suspension) ∨
      (ticket ≠ moment.ticket ∧
        world.flights ticket = some suspension) := by
  by_cases own : ticket = moment.ticket
  · left
    refine ⟨own, ?_⟩
    simpa [advance, own] using waits
  · right
    refine ⟨own, ?_⟩
    simpa [advance, own] using waits

/-- The moments that a script of causes brings about, and the worker after
them. -/
def play (seconds : Nat) (world : World) :
    List (Nat × Cause) → List Moment × World
  | [] => ([], world)
  | (ticket, cause) :: rest =>
      let moment := world.moment seconds ticket cause
      let (moments, last) := (world.advance moment).play seconds rest
      (moment :: moments, last)

/-- Whether every cause of a script is allowed when its turn comes. -/
def AllowsAll (seconds : Nat) (world : World) :
    List (Nat × Cause) → Prop
  | [] => True
  | (ticket, cause) :: rest =>
      world.Allows ticket cause ∧
        (world.advance (world.moment seconds ticket cause)).AllowsAll
          seconds rest

end World

/-- The runs of the worker from an empty registry, with the moments in the
order in which they come about. -/
inductive Run (seconds : Nat) : List Moment → World → Prop where
  | empty : Run seconds [] {}
  | step {history : List Moment} {world : World} {ticket : Nat}
      {cause : Cause}
      (past : Run seconds history world)
      (allowed : world.Allows ticket cause) :
      Run seconds (history ++ [world.moment seconds ticket cause])
        (world.advance (world.moment seconds ticket cause))

namespace Run

variable {seconds : Nat} {history : List Moment} {world : World}

/-- Every moment of a run continues the run up to it. -/
theorem split
    {early late : List Moment} {moment : Moment}
    (run : Run seconds (early ++ moment :: late) world) :
    ∃ past, Run seconds early past ∧
      past.Allows moment.ticket moment.cause ∧
      moment = past.moment seconds moment.ticket moment.cause := by
  generalize whole : early ++ moment :: late = history at run
  induction run generalizing late with
  | empty => simp at whole
  | @step history world ticket cause past allowed hypothesis =>
      rcases append_cons_eq_concat whole with ⟨rfl, rfl⟩ | ⟨rest, shorter⟩
      · exact ⟨world, past, allowed, rfl⟩
      · exact hypothesis shorter

/-- Every moment of a run continues some beginning of the run. -/
theorem of_mem (run : Run seconds history world)
    {moment : Moment} (member : moment ∈ history) :
    ∃ early late past, history = early ++ moment :: late ∧
      Run seconds early past ∧
      past.Allows moment.ticket moment.cause ∧
      moment = past.moment seconds moment.ticket moment.cause := by
  rcases List.append_of_mem member with ⟨early, late, rfl⟩
  rcases run.split with ⟨past, earlier, allowed, same⟩
  exact ⟨early, late, past, rfl, earlier, allowed, same⟩

/-- What a moment does is one of the cases of its segment. -/
theorem leads (run : Run seconds history world)
    {moment : Moment} (member : moment ∈ history) :
    moment.cause.Leads seconds moment.before moment.segment := by
  rcases run.of_mem member with ⟨_, _, past, _, _, _, same⟩
  rw [same]
  exact Cause.leads_segment ..

/-- A moment of a run, with the worker that it has found. -/
theorem split_leads
    {early late : List Moment} {moment : Moment}
    (run : Run seconds (early ++ moment :: late) world) :
    ∃ past, Run seconds early past ∧
      past.Allows moment.ticket moment.cause ∧
      moment.before = past.registry ∧
      moment.cause.Leads seconds past.registry moment.segment := by
  rcases run.split with ⟨past, earlier, allowed, same⟩
  refine ⟨past, earlier, allowed, ?_, ?_⟩
  · rw [same]
    rfl
  · rw [same]
    exact Cause.leads_segment ..

/-- An operation that waits was suspended in some moment. -/
theorem suspended (run : Run seconds history world)
    {ticket : Nat} {suspension : Suspension}
    (waits : world.flights ticket = some suspension) :
    ∃ moment ∈ history, moment.ticket = ticket ∧
      moment.segment.next = .waiting suspension := by
  induction run with
  | empty => cases waits
  | @step history world own cause past allowed hypothesis =>
      rcases World.flights_advance waits with
        ⟨rfl, next⟩ | ⟨other, earlier⟩
      · exact ⟨_, List.mem_append_right _ List.mem_cons_self, rfl, next⟩
      · rcases hypothesis earlier with ⟨moment, member, rest⟩
        exact ⟨moment, List.mem_append_left _ member, rest⟩

/-! ## Scripts -/

/-- A run goes on with a script whose causes are allowed. -/
theorem play (past : Run seconds history world)
    {script : List (Nat × Cause)}
    (allowed : world.AllowsAll seconds script) :
    Run seconds (history ++ (world.play seconds script).1)
      (world.play seconds script).2 := by
  induction script generalizing history world with
  | nil => simpa [World.play] using past
  | cons entry rest hypothesis =>
      have next := hypothesis (.step past allowed.1) allowed.2
      simpa [World.play] using next

/-! ## Tickets -/

theorem ticket_mem (run : Run seconds history world)
    {moment : Moment} (member : moment ∈ history) :
    moment.ticket ∈ world.tickets := by
  induction run with
  | empty => simp at member
  | @step history world ticket cause past allowed hypothesis =>
      rcases List.mem_append.mp member with old | new
      · exact List.mem_cons_of_mem _ (hypothesis old)
      · rw [List.mem_singleton.mp new]
        exact List.mem_cons_self

/-- An operation that begins has not waited before. -/
theorem not_waiting (run : Run seconds history world)
    {ticket : Nat} (unused : ticket ∉ world.tickets) :
    world.flights ticket = none := by
  cases waits : world.flights ticket with
  | none => rfl
  | some suspension =>
      rcases run.suspended waits with ⟨moment, member, rfl, _⟩
      exact absurd (run.ticket_mem member) unused

/-- Nobody waits if none of the tickets does that have been given out. -/
theorem quiet_of_tickets (run : Run seconds history world)
    (quiet : ∀ ticket ∈ world.tickets, (world.flights ticket).isNone) :
    ∀ ticket, world.flights ticket = none := by
  intro ticket
  by_cases given : ticket ∈ world.tickets
  · exact Option.isNone_iff_eq_none.mp (quiet ticket given)
  · exact run.not_waiting given

/-- The cause of a moment whose operation waited is the answer to its call. -/
theorem answered_of_waiting (run : Run seconds history world)
    {ticket : Nat} {cause : Cause} {suspension : Suspension}
    (allowed : world.Allows ticket cause)
    (waits : world.flights ticket = some suspension) :
    ∃ reply, cause = .answered suspension reply := by
  cases allowed with
  | begin unused operation =>
      rw [run.not_waiting unused] at waits
      cases waits
  | answer waits' reply =>
      cases waits.symm.trans waits'
      exact ⟨reply, rfl⟩

/-- An operation begins once. -/
theorem begun_unique (run : Run seconds history world)
    {first second : Moment} {left right : Operation}
    (firstMember : first ∈ history) (secondMember : second ∈ history)
    (firstBegun : first.cause = .begun left)
    (secondBegun : second.cause = .begun right)
    (same : first.ticket = second.ticket) :
    first = second := by
  induction run with
  | empty => simp at firstMember
  | @step history world ticket cause past allowed hypothesis =>
      -- A new operation has a ticket that no earlier moment has.
      have apart
          {old : Moment} {operation : Operation} (member : old ∈ history)
          (begun : cause = .begun operation) :
          old.ticket ≠ ticket := by
        intro equal
        subst begun
        cases allowed with
        | begin unused => exact unused (equal ▸ past.ticket_mem member)
      rcases List.mem_append.mp firstMember with firstOld | firstNew <;>
        rcases List.mem_append.mp secondMember with secondOld | secondNew
      · exact hypothesis firstOld secondOld
      · rw [List.mem_singleton.mp secondNew] at same secondBegun
        exact absurd same (apart firstOld secondBegun)
      · rw [List.mem_singleton.mp firstNew] at same firstBegun
        exact absurd same.symm (apart secondOld firstBegun)
      · rw [List.mem_singleton.mp firstNew, List.mem_singleton.mp secondNew]

end Run

end Workloads
