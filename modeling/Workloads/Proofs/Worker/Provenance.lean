import Workloads.Proofs.Worker.Atomicity
import Workloads.Proofs.Worker.Entries
import Workloads.Proofs.Worker.Launches

/-!
# Where containers come from

An operation names a container to the runtime only if the runtime has named it
before, in answer to the run of a launch of the same id.  On the way a container
passes through the record of this id, which may by then belong to a later task,
or stays with its launch; it never passes to another id.  What a run is given is
the record as it is stored in that moment.
-/

namespace Workloads

/-! ## Runs that have returned -/

/-- Whether a launch of an id has made its run, for a task of that id, and the
run has returned this container, all up to the moment of this number. -/
def ReturnedBy (history : List Moment) (index : Nat)
    (key container : String) : Prop :=
  ∃ first second issue answer task,
    first < second ∧ second ≤ index ∧
      history[first]? = some issue ∧
      issue.cause = .begun (.launch key) ∧
      issue.call? = some (.run task) ∧ task.id = key ∧
      history[second]? = some answer ∧
      answer.ticket = issue.ticket ∧
      answer.cause = .answered (.running key task) (.ok container)

/-- The id for which a container is in hand is the id that the suspended
operation is about. -/
theorem Suspension.handle?_subject
    {suspension : Suspension} {key container : String}
    (handle : suspension.handle? = some (key, container)) :
    suspension.subject = key := by
  cases suspension <;> cases handle <;> rfl

/-- Whoever stops or removes a container has it in hand, for the id that the
operation is about. -/
theorem Moment.handle_of_touches
    {moment : Moment} {container : String}
    (touches : moment.Stops container ∨ moment.Removes container) :
    ∃ suspension, moment.segment.next = .waiting suspension ∧
      suspension.handle? = some (suspension.subject, container) := by
  have known {suspension : Suspension}
      (handle : ∃ key, suspension.handle? = some (key, container)) :
      suspension.handle? = some (suspension.subject, container) := by
    rcases handle with ⟨key, handle⟩
    rw [Suspension.handle?_subject handle]
    exact handle
  rcases touches with stops | removes
  · rcases Moment.stops_iff.mp stops with ⟨suspension, limit, next, call⟩
    exact ⟨suspension, next, known (Suspension.handle?_of_stop call)⟩
  · rcases Moment.removes_iff.mp removes with ⟨suspension, next, call⟩
    exact ⟨suspension, next, known (Suspension.handle?_of_remove call)⟩

namespace Run

variable {seconds : Nat} {history : List Moment} {world : World}

/-- The launch whose run returns has made this run before, for the task that
was stored under its id. -/
theorem returnedBy_of_answer (run : Run seconds history world)
    {index second : Nat} {answer : Moment} {key container : String}
    (place : history[second]? = some answer)
    (returned : answer.cause.returned? = some (key, container))
    (order : second ≤ index) :
    ReturnedBy history index key container := by
  rcases Cause.returned?_eq_some.mp returned with ⟨task, answered⟩
  rcases run.asked place answered with
    ⟨first, issue, below, here, own, next⟩
  have member := List.mem_of_getElem? here
  rcases (run.leads member).of_running next with ⟨begun, found⟩
  refine ⟨first, second, issue, answer, task, below, order, here, begun, ?_,
    (run.sound_before member _ _ found).keyed, place, own.symm, answered⟩
  rw [Moment.call?, next]
  rfl

/-- A container that an operation has in hand was returned to a launch of the
id that the operation works for. -/
theorem returnedBy_of_handle (run : Run seconds history world)
    {index : Nat} {moment : Moment} {suspension : Suspension}
    {key container : String}
    (place : history[index]? = some moment)
    (next : moment.segment.next = .waiting suspension)
    (handle : suspension.handle? = some (key, container)) :
    ReturnedBy history index key container := by
  have member := List.mem_of_getElem? place
  rcases (run.leads member).handle (run.sound_before member) next handle with
    ⟨task, found, held⟩ | returned
  · -- The record had the container before, and a record has it from a run.
    rcases exists_split_of_getElem? place with ⟨early, late, rfl, rfl⟩
    rcases run.split_leads with ⟨past, earlier, _, before, _⟩
    rw [before] at found
    rcases earlier.held_returned found held with
      ⟨answer, inEarly, returned⟩
    rcases List.getElem?_of_mem inEarly with ⟨second, there⟩
    have inside := (List.getElem?_eq_some_iff.mp there).1
    refine run.returnedBy_of_answer ?_ returned (Nat.le_of_lt inside)
    rw [List.getElem?_append_left inside]
    exact there
  · -- The launch has it from its own run, which returns in this moment.
    exact run.returnedBy_of_answer place returned (Nat.le_refl index)

/-- A run is given the record that is stored under its id in that moment. -/
theorem run_stored (run : Run seconds history world)
    {moment : Moment} (member : moment ∈ history) {task : Task}
    (call : moment.call? = some (.run task)) :
    moment.cause = .begun (.launch task.id) ∧
      moment.before.find? task.id = some task := by
  rcases Option.map_eq_some_iff.mp call with ⟨suspension, waiting, same⟩
  have next := Next.suspension?_eq_some.mp waiting
  cases suspension with
  | running key seen =>
      cases same
      rcases (run.leads member).of_running next with ⟨begun, found⟩
      rw [(run.sound_before member _ _ found).keyed]
      exact ⟨begun, found⟩
  | _ => cases same

end Run

/-! ## Confinement -/

/-- What a history says about the calls to the runtime. -/
structure Confined (history : List Moment) : Prop where
  /-- A call is made by an operation on one id. -/
  owned :
    ∀ moment ∈ history, moment.call? ≠ none →
      ∃ operation key, Began history moment.ticket operation ∧
        operation.subject? = some key
  /-- A container that an operation stops or removes was returned before, by a
  run that a launch of the operation's id has made for a task of this id. -/
  touched :
    ∀ (index : Nat) (moment : Moment) (operation : Operation)
      (key container : String),
      history[index]? = some moment →
      Began history moment.ticket operation →
      operation.subject? = some key →
      moment.Stops container ∨ moment.Removes container →
        ReturnedBy history index key container
  /-- A run is made by a launch, and is given the record that is stored under
  the launch's id before and after the moment of the call. -/
  ran :
    ∀ moment ∈ history, ∀ task, moment.call? = some (.run task) →
      moment.cause = .begun (.launch task.id) ∧
        moment.before.find? task.id = some task ∧
        moment.after = moment.before

/-- The worker touches only containers of the task that it was asked about,
and runs tasks as they are stored. -/
theorem Run.confined {seconds : Nat} {history : List Moment} {world : World}
    (run : Run seconds history world) : Confined history := by
  constructor
  · intro moment member calls
    rcases Option.ne_none_iff_exists'.mp calls with ⟨call, made⟩
    rcases Option.map_eq_some_iff.mp made with ⟨suspension, waiting, _⟩
    rcases run.moment_began member with ⟨operation, began, _, subject⟩
    have about :=
      (run.leads member).subject_eq (run.sound_before member)
        (Next.suspension?_eq_some.mp waiting)
    exact ⟨operation, suspension.subject, began, subject.trans about⟩
  · intro index moment operation key container place began about touches
    have member := List.mem_of_getElem? place
    rcases Moment.handle_of_touches touches with ⟨suspension, next, handle⟩
    have subject :=
      (run.leads member).subject_eq (run.sound_before member) next
    rw [← (run.causes_of_began member began).2, about] at subject
    cases subject
    exact run.returnedBy_of_handle place next handle
  · intro moment member task call
    rcases run.run_stored member call with ⟨begun, found⟩
    refine ⟨begun, found, ?_⟩
    have written := (run.leads member).written
    rw [begun] at written
    exact written

/-! The container of an earlier task may be stopped by an operation on a later
one, if both have the same id. -/

/-- The later task has inherited the container of the earlier one, and is
terminated. -/
def inheritedStopScript : List (Nat × Cause) :=
  inheritingScript ++ [(5, .begun (.terminate "a" {}))]

theorem inheritedStopScript_allowed :
    World.AllowsAll 10 {} inheritedStopScript :=
  ⟨.begin (by decide) _, .begin (by decide) _, .begin (by decide) _,
    .begin (by decide) _, .begin (by decide) _, .answer rfl _,
    .begin (by decide) _, trivial⟩

theorem Run.confined_inherited :
    Run 10 (World.play 10 {} inheritedStopScript).1
        (World.play 10 {} inheritedStopScript).2 ∧
      Confined (World.play 10 {} inheritedStopScript).1 ∧
      (World.play 10 {} inheritedStopScript).1[6]?.bind Moment.call? =
        some (.stop "c" 10) ∧
      ReturnedBy (World.play 10 {} inheritedStopScript).1 6 "a" "c" := by
  have run := Run.empty.play inheritedStopScript_allowed
  have confined := Run.confined run
  refine ⟨run, confined, rfl, ?_⟩
  exact confined.touched 6 _ (.terminate "a" {}) "a" "c" rfl
    ⟨_, List.mem_of_getElem? (i := 6) rfl, rfl, rfl⟩ rfl (.inl ⟨10, rfl⟩)

end Workloads
