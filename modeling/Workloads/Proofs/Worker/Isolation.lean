import Mathlib.Data.List.Forall2
import Workloads.Proofs.Worker.Subject

/-!
# Tasks do not interfere

What an operation does depends on the record of its id and on the answers to
its calls, and on nothing else that is registered; and it touches no other
record.  So the operations on all other ids can be erased from a run, and what
is left is a run in which every operation on the id makes the same calls and
has the same outcome.
-/

namespace Workloads

/-! ## One segment over two registries -/

/-- Whether two segments are the same to the operations on this id. -/
structure Segment.Agree (key : String) (left right : Segment) : Prop where
  next : left.next = right.next
  events : left.events = right.events
  record : left.registry.find? key = right.registry.find? key

section

variable {left right : Registry} {id : String} {seconds : Nat}

/-- Registries that agree on a key agree on it after the same insertion. -/
theorem find?_insert_congr (key : String) (task : Task)
    (same : left.find? id = right.find? id) :
    Registry.find? (left.insert key task) id =
      Registry.find? (right.insert key task) id := by
  rw [Registry.find?_insert, Registry.find?_insert, same]

/-- Registries that agree on a key agree on it after the same deletion. -/
theorem find?_delete_congr (key : String)
    (same : left.find? id = right.find? id) :
    (left.delete key).find? id = (right.delete key).find? id := by
  rw [Registry.find?_delete, Registry.find?_delete, same]

theorem endTask_agree (request : StopRequest) (seen : Option String)
    (same : left.find? id = right.find? id) :
    Segment.Agree id (endTask left id request seen seconds)
      (endTask right id request seen seconds) := by
  cases found : right.find? id with
  | none =>
      rw [endTask_of_absent (same.trans found), endTask_of_absent found]
      exact ⟨rfl, rfl, same⟩
  | some task =>
      have stored := find?_insert_congr id (request.settle task) same
      rw [endTask, Registry.modify_of_present (same.trans found),
        endTask, Registry.modify_of_present found]
      dsimp only
      split
      · exact ⟨rfl, rfl, stored⟩
      · split
        · exact ⟨rfl, rfl, stored⟩
        · exact ⟨rfl, rfl, stored⟩

theorem recordStart_agree (container : String)
    (same : left.find? id = right.find? id) :
    Segment.Agree id (recordStart left id container seconds)
      (recordStart right id container seconds) := by
  cases found : right.find? id with
  | none =>
      rw [recordStart_of_absent (same.trans found),
        recordStart_of_absent found]
      exact ⟨rfl, rfl, same⟩
  | some task =>
      have stored := find?_insert_congr id (task.started container) same
      by_cases ended : task.status = .terminated
      · rw [recordStart_of_ended (same.trans found) ended,
          recordStart_of_ended found ended]
        exact ⟨rfl, rfl, stored⟩
      · rw [recordStart_of_live (same.trans found) ended,
          recordStart_of_live found ended]
        exact ⟨rfl, rfl, stored⟩

theorem recordFailure_agree (seen : Task) (failure : RuntimeFailure)
    (same : left.find? id = right.find? id) :
    Segment.Agree id (recordFailure left id seen failure)
      (recordFailure right id seen failure) := by
  cases found : right.find? id with
  | none =>
      rw [recordFailure_of_absent (same.trans found),
        recordFailure_of_absent found]
      exact ⟨rfl, rfl, same⟩
  | some task =>
      rw [recordFailure_of_present (same.trans found),
        recordFailure_of_present found]
      exact ⟨rfl, rfl, find?_insert_congr id _ same⟩

end

/-- What an operation does in a segment depends on the record of its id
only. -/
theorem Cause.segment_agree
    (seconds : Nat) {left right : Registry} {cause : Cause} {key : String}
    (about : cause.subject? = some key)
    (same : left.find? key = right.find? key) :
    Segment.Agree key (cause.segment seconds left)
      (cause.segment seconds right) := by
  rcases cause with operation | ⟨suspension, reply⟩
  · cases operation with
    | list => cases about
    | submit spec =>
        cases about
        cases found : right.find? spec.id with
        | none =>
            have entersLeft :
                left.add (Task.ofSpec spec) =
                  (true, left.insert spec.id (Task.ofSpec spec)) :=
              Registry.add_of_absent (same.trans found)
            have entersRight :
                right.add (Task.ofSpec spec) =
                  (true, right.insert spec.id (Task.ofSpec spec)) :=
              Registry.add_of_absent found
            simp only [segment, Operation.start, entersLeft, entersRight]
            exact ⟨rfl, rfl, find?_insert_congr _ _ same⟩
        | some task =>
            have refusedLeft : left.add (Task.ofSpec spec) = (false, left) :=
              Registry.add_of_present (same.trans found)
            have refusedRight :
                right.add (Task.ofSpec spec) = (false, right) :=
              Registry.add_of_present found
            simp only [segment, Operation.start, refusedLeft, refusedRight]
            exact ⟨rfl, rfl, same⟩
    | get id =>
        cases about
        simp only [segment, Operation.start, same]
        split <;> exact ⟨rfl, rfl, same⟩
    | launch id =>
        cases about
        simp only [segment, Operation.start, same]
        split <;> exact ⟨rfl, rfl, same⟩
    | terminate id request =>
        cases about
        simp only [segment, Operation.start, same]
        split
        · exact ⟨rfl, rfl, same⟩
        · split
          · exact ⟨rfl, rfl, same⟩
          · split
            · exact endTask_agree request none same
            · exact ⟨rfl, rfl, same⟩
    | remove id =>
        cases about
        simp only [segment, Operation.start, same]
        split
        · exact ⟨rfl, rfl, same⟩
        · split
          · split
            · exact ⟨rfl, rfl, find?_delete_congr _ same⟩
            · exact ⟨rfl, rfl, same⟩
          · exact ⟨rfl, rfl, same⟩
  · cases suspension with
    | running id seen =>
        cases about
        cases reply with
        | ok container => exact recordStart_agree container same
        | error failure => exact recordFailure_agree seen failure same
    | stopping id request container limit =>
        cases about
        cases reply with
        | ok done => exact endTask_agree request (some container) same
        | error failure => exact ⟨rfl, rfl, same⟩
    | removing task container =>
        cases reply with
        | ok done => exact ⟨rfl, rfl, find?_delete_congr _ same⟩
        | error failure => exact ⟨rfl, rfl, same⟩
    | dropping id container =>
        cases reply with
        | ok done => exact ⟨rfl, rfl, same⟩
        | error failure => exact ⟨rfl, rfl, same⟩
    | quelling task container limit =>
        cases reply with
        | ok done => exact ⟨rfl, rfl, same⟩
        | error failure => exact ⟨rfl, rfl, same⟩
    | stoppingLate task container limit =>
        cases reply with
        | ok done => exact ⟨rfl, rfl, same⟩
        | error failure => exact ⟨rfl, rfl, same⟩

/-- Only the listing is about no id. -/
theorem Cause.eq_list_of_subject?_eq_none {cause : Cause}
    (nothing : cause.subject? = none) :
    cause = .begun .list := by
  rcases cause with operation | ⟨suspension, reply⟩
  · cases operation <;> cases nothing
    rfl
  · cases nothing

/-! ## Erasing the other ids -/

/-- Whether a moment belongs to an operation on another id. -/
def Moment.elsewhere (key : String) (moment : Moment) : Bool :=
  moment.cause.subject?.any (fun id => id ≠ key)

/-- A history without the operations on other ids. -/
def retained (key : String) (history : List Moment) : List Moment :=
  history.filter (fun moment => !moment.elsewhere key)

theorem Moment.elsewhere_eq_true {key : String} {moment : Moment} :
    moment.elsewhere key = true ↔
      ∃ id, moment.cause.subject? = some id ∧ id ≠ key := by
  simp [elsewhere, Option.any_eq_true]

theorem Moment.elsewhere_eq_false {key : String} {moment : Moment} :
    moment.elsewhere key = false ↔
      ∀ id, moment.cause.subject? = some id → id = key := by
  simp [elsewhere, Option.any_eq_false]

/-- Whether a moment of a run and one of a smaller run are the same to the
operations on an id. -/
structure Moment.Alike (key : String) (moment part : Moment) : Prop where
  ticket : part.ticket = moment.ticket
  cause : part.cause = moment.cause
  before : part.before.find? key = moment.before.find? key
  after : part.after.find? key = moment.after.find? key
  /-- An operation on the id makes the same call, if any, and has the same
  outcome, and it reports the same. -/
  own :
    moment.cause.subject? = some key →
      part.call? = moment.call? ∧ part.result? = moment.result? ∧
        part.segment.events = moment.segment.events

/-- Whether the worker of a smaller run is to the operations on an id what the
worker of the run is. -/
structure World.Mirrors (key : String) (world part : World) : Prop where
  record : part.registry.find? key = world.registry.find? key
  flights :
    ∀ ticket suspension, suspension.subject = key →
      (part.flights ticket = some suspension ↔
        world.flights ticket = some suspension)
  tickets : ∀ ticket ∈ part.tickets, ticket ∈ world.tickets

namespace World.Mirrors

variable {seconds : Nat} {history : List Moment} {key : String}
  {world part : World} {ticket : Nat} {cause : Cause}

/-- What may come next, and not for another id, may come next in the smaller
run as well. -/
theorem allows (mirrors : World.Mirrors key world part)
    (allowed : world.Allows ticket cause)
    (here : ∀ id, cause.subject? = some id → id = key) :
    part.Allows ticket cause := by
  cases allowed with
  | begin unused operation =>
      exact .begin (fun used => unused (mirrors.tickets _ used)) operation
  | answer waits reply =>
      have own := here _ rfl
      exact .answer ((mirrors.flights _ _ own).mpr waits) reply

/-- It leaves the same record and the same suspension. -/
theorem segment_eq (seconds : Nat)
    (mirrors : World.Mirrors key world part)
    (here : ∀ id, cause.subject? = some id → id = key) :
    (cause.segment seconds part.registry).registry.find? key =
        (cause.segment seconds world.registry).registry.find? key ∧
      (cause.segment seconds part.registry).next.suspension? =
        (cause.segment seconds world.registry).next.suspension? := by
  cases about : cause.subject? with
  | some id =>
      obtain rfl := here id about
      have agree := Cause.segment_agree seconds about mirrors.record
      exact ⟨agree.record, by rw [agree.next]⟩
  | none =>
      obtain rfl := Cause.eq_list_of_subject?_eq_none about
      exact ⟨mirrors.record, rfl⟩

/-- So the moment is the same to the operations on the id. -/
theorem alike (mirrors : World.Mirrors key world part)
    (here : ∀ id, cause.subject? = some id → id = key) :
    Moment.Alike key (world.moment seconds ticket cause)
      (part.moment seconds ticket cause) where
  ticket := rfl
  cause := rfl
  before := mirrors.record
  after := (mirrors.segment_eq seconds here).1
  own about := by
    have agree :
        Segment.Agree key (cause.segment seconds part.registry)
          (cause.segment seconds world.registry) :=
      Cause.segment_agree seconds about mirrors.record
    refine ⟨?_, ?_, agree.events⟩
    · simp only [Moment.call?, World.moment, agree.next]
    · simp only [Moment.result?, World.moment, agree.next]

/-- The smaller run goes on with every moment that is not elsewhere. -/
theorem advance (mirrors : World.Mirrors key world part)
    (here : ∀ id, cause.subject? = some id → id = key) :
    World.Mirrors key (world.advance (world.moment seconds ticket cause))
      (part.advance (part.moment seconds ticket cause)) := by
  rcases mirrors.segment_eq seconds here with ⟨record, next⟩
  constructor
  · exact record
  · intro other suspension own
    by_cases mine : other = ticket
    · simp only [World.advance, World.moment, mine, if_true, next]
    · simpa only [World.advance, World.moment, mine, if_false] using
        mirrors.flights other suspension own
  · intro other used
    rcases List.mem_cons.mp used with rfl | earlier
    · exact List.mem_cons_self
    · exact List.mem_cons_of_mem _ (mirrors.tickets other earlier)

/-- The smaller run stays as it is in a moment that is elsewhere. -/
theorem advance_elsewhere (mirrors : World.Mirrors key world part)
    (run : Run seconds history world)
    (allowed : world.Allows ticket cause)
    {id : String} (subject : cause.subject? = some id) (other : id ≠ key) :
    World.Mirrors key (world.advance (world.moment seconds ticket cause))
      part := by
  have leads := Cause.leads_segment seconds world.registry cause
  have elsewhere : cause.subject? ≠ some key := by
    rw [subject]
    exact fun same => other (Option.some.inj same)
  constructor
  · rw [World.advance_registry, Moment.after]
    exact mirrors.record.trans
      (leads.writes.frame run.sound elsewhere).symm
  · intro flight suspension own
    rw [mirrors.flights flight suspension own]
    by_cases mine : flight = ticket
    · subst mine
      constructor
      · -- Only the answer that it waits for could end its waiting.
        intro waits
        rcases run.answered_of_waiting allowed waits with ⟨reply, rfl⟩
        exact absurd (congrArg some own) elsewhere
      · intro waits
        rcases World.flights_advance waits with ⟨_, next⟩ | ⟨apart, _⟩
        · have about := leads.subject_eq run.sound next
          rw [own] at about
          exact absurd about elsewhere
        · exact absurd rfl apart
    · rw [World.advance_flights_other _ mine]
  · intro used member
    exact List.mem_cons_of_mem _ (mirrors.tickets used member)

end World.Mirrors

/-- What a run is to the operations on one id. -/
structure Isolated (seconds : Nat) (history : List Moment) (world : World)
    (key : String) : Prop where
  /-- Operations on other ids are erased as a whole, and no others are. -/
  whole :
    ∀ first ∈ history, ∀ second ∈ history,
      first.ticket = second.ticket →
        first.elsewhere key = second.elsewhere key
  /-- They leave the record of the id alone. -/
  untouched :
    ∀ moment ∈ history, moment.elsewhere key = true →
      moment.after.find? key = moment.before.find? key
  /-- What is left is a run, moment by moment the same to the operations on
  the id, with the same record and the same operations waiting in the end. -/
  erased :
    ∃ part rest, Run seconds part rest ∧
      List.Forall₂ (Moment.Alike key) (retained key history) part ∧
      World.Mirrors key world rest

namespace Run

variable {seconds : Nat} {history : List Moment} {world : World}

/-- Erasing the operations on other ids leaves a run. -/
theorem erased (run : Run seconds history world) (key : String) :
    ∃ part rest, Run seconds part rest ∧
      List.Forall₂ (Moment.Alike key) (retained key history) part ∧
      World.Mirrors key world rest := by
  induction run with
  | empty =>
      exact ⟨[], {}, .empty, .nil, rfl, fun _ _ _ => Iff.rfl, nofun⟩
  | @step history world ticket cause past allowed hypothesis =>
      rcases hypothesis with ⟨part, rest, smaller, alike, mirrors⟩
      -- `Mirrors` is the invariant: it carries over which replies may come.
      cases place :
          (world.moment seconds ticket cause).elsewhere key with
      | true =>
          rcases Moment.elsewhere_eq_true.mp place with
            ⟨id, subject, other⟩
          refine ⟨part, rest, smaller, ?_,
            mirrors.advance_elsewhere past allowed subject other⟩
          simpa [retained, place] using alike
      | false =>
          have here := Moment.elsewhere_eq_false.mp place
          refine ⟨part ++ [rest.moment seconds ticket cause], _,
            smaller.step (mirrors.allows allowed here), ?_,
            mirrors.advance here⟩
          have last :
              Moment.Alike key (world.moment seconds ticket cause)
                (rest.moment seconds ticket cause) :=
            mirrors.alike here
          simpa [retained, place] using
            List.rel_append alike (.cons last .nil)

/-- The operations on an id are the same without those on other ids. -/
theorem isolated (run : Run seconds history world) (key : String) :
    Isolated seconds history world key := by
  constructor
  · intro first firstMember second secondMember same
    rw [Moment.elsewhere, Moment.elsewhere,
      run.subject_unique firstMember secondMember same]
  · intro moment member place
    rcases Moment.elsewhere_eq_true.mp place with ⟨id, subject, other⟩
    apply (run.leads member).writes.frame (run.sound_before member)
    rw [subject]
    exact fun same => other (Option.some.inj same)
  · exact run.erased key

end Run

/-! Two tasks are launched side by side; one of them ends while its container
is starting, and then it is removed. -/

/-- The task that is looked at. -/
def nearSpec : LaunchSpec where
  id := "a"
  label := "near"

/-- The task whose operations are erased. -/
def farSpec : LaunchSpec where
  id := "b"
  label := "far"

/-- The record that the removal finds. -/
def farTask : Task :=
  ((Task.ofSpec farSpec).terminate defaultReason "").started "d"

/-- A script in which the operations on the two tasks alternate. -/
def alternatingScript : List (Nat × Cause) := [
  (0, .begun (.submit nearSpec)),
  (1, .begun (.submit farSpec)),
  (2, .begun (.launch "a")),
  (3, .begun (.launch "b")),
  (4, .begun .list),
  (5, .begun (.terminate "b" {})),
  (3, .answered (.running "b" (Task.ofSpec farSpec)) (.ok "d")),
  (2, .answered (.running "a" (Task.ofSpec nearSpec)) (.ok "c")),
  (3, .answered (.quelling farTask "d" 10) (.ok ())),
  (6, .begun (.remove "b")),
  (7, .begun (.terminate "a" {})),
  (6, .answered (.removing farTask "d") (.ok ())),
  (7, .answered (.stopping "a" {} "c" 10) (.ok ()))]

theorem alternatingScript_allowed :
    World.AllowsAll 10 {} alternatingScript :=
  ⟨.begin (by decide) _, .begin (by decide) _, .begin (by decide) _,
    .begin (by decide) _, .begin (by decide) _, .begin (by decide) _,
    .answer rfl _, .answer rfl _, .answer rfl _, .begin (by decide) _,
    .begin (by decide) _, .answer rfl _, .answer rfl _, trivial⟩

theorem Run.isolated_alternating :
    Run 10 (World.play 10 {} alternatingScript).1
        (World.play 10 {} alternatingScript).2 ∧
      (retained "a" (World.play 10 {} alternatingScript).1).map
          Moment.ticket = [0, 2, 4, 2, 7, 7] ∧
      Isolated 10 (World.play 10 {} alternatingScript).1
        (World.play 10 {} alternatingScript).2 "a" := by
  have run := Run.empty.play alternatingScript_allowed
  exact ⟨run, rfl, Run.isolated run "a"⟩

end Workloads
