import Workloads.Proofs.Docker.Pipeline
import Workloads.Proofs.Docker.Stream

/-!
# One stage after the other

What there is to be heard at the three stages of a run decides how far the run
gets: the requests are made in one order, each of them if and only if the stages
before it have fully succeeded, and the first stage that fails gives the run its
failure.  A pull has succeeded when no item of its stream is an error, however
long the stream is.  This holds of any items with any wordings, and of any
results of the creation and the start, whoever they are heard from.
-/

namespace Workloads.Docker

/-- The failure of a run, by the first stage that fails. -/
inductive Script.Fails (task : Task) (script : Script) :
    RuntimeFailure → Prop where
  | pulling {reason : String}
      (breaks : BreaksWith script.pulled reason) :
      Fails task script (.pullImage task.spec.image reason)
  | creating {reason : String}
      (pulls : Unbroken script.pulled)
      (refused : script.created = .error reason) :
      Fails task script (.createContainer task.containerName reason)
  | starting {container reason : String}
      (pulls : Unbroken script.pulled)
      (creates : script.created = .ok container)
      (refused : script.started container = .error reason) :
      Fails task script (.startContainer container reason)

/-- What a run of a task asks for and comes to, given what there is to be
heard. -/
structure Pipelined (task : Task) (script : Script)
    (requests : List Request)
    (outcome : Except RuntimeFailure String) : Prop where
  /-- The requests are the first ones of a pull, a creation and a start. -/
  inOrder :
    ∃ container,
      requests <+: [
        .pull task.spec.image,
        .create task.containerName (.ofTask task),
        .start container]
  /-- The pull is always asked for, -/
  pulls : .pull task.spec.image ∈ requests
  /-- the creation after a pull without an error, -/
  creates :
    .create task.containerName (.ofTask task) ∈ requests ↔
      Unbroken script.pulled
  /-- and the start of the container that was created then. -/
  starts :
    ∀ container, .start container ∈ requests ↔
      Unbroken script.pulled ∧ script.created = .ok container
  /-- The run succeeds if all stages do, -/
  succeeds :
    ∀ container, outcome = .ok container ↔
      Unbroken script.pulled ∧
        script.created = .ok container ∧
        script.started container = .ok ()
  /-- and fails as the first stage that fails. -/
  fails :
    ∀ failure, outcome = .error failure ↔ script.Fails task failure

section

variable {task : Task} {script : Script}

theorem Script.fails_iff {failure : RuntimeFailure} :
    script.Fails task failure ↔
      (∃ reason, BreaksWith script.pulled reason ∧
        failure = .pullImage task.spec.image reason) ∨
      Unbroken script.pulled ∧
        ((∃ reason, script.created = .error reason ∧
          failure = .createContainer task.containerName reason) ∨
        ∃ container reason, script.created = .ok container ∧
          script.started container = .error reason ∧
          failure = .startContainer container reason) := by
  constructor
  · rintro (breaks | ⟨pulls, refused⟩ | ⟨pulls, creates, refused⟩)
    · exact .inl ⟨_, breaks, rfl⟩
    · exact .inr ⟨pulls, .inl ⟨_, refused, rfl⟩⟩
    · exact .inr ⟨pulls, .inr ⟨_, _, creates, refused, rfl⟩⟩
  · rintro (⟨reason, breaks, rfl⟩ |
      ⟨pulls, ⟨reason, refused, rfl⟩ |
        ⟨container, reason, creates, refused, rfl⟩⟩)
    · exact .pulling breaks
    · exact .creating pulls refused
    · exact .starting pulls creates refused

/-- What there is to be heard decides how a run goes. -/
theorem Ran.pipelined {requests : List Request}
    {outcome : Except RuntimeFailure String}
    (ran : Ran task script requests outcome) :
    Pipelined task script requests outcome := by
  have inOrder := ran.inOrder
  -- A pull breaks off with one wording or not at all: both are told by one
  -- search, so that the clauses can be decided case by case.
  cases ran with
  | unpulled breaks =>
      rw [breaksWith_iff] at breaks
      refine ⟨inOrder, ?_, ?_, ?_, ?_, ?_⟩ <;>
        simp [Script.fails_iff, unbroken_iff, breaksWith_iff, breaks, eq_comm]
  | uncreated pulls refused =>
      rw [unbroken_iff] at pulls
      refine ⟨inOrder, ?_, ?_, ?_, ?_, ?_⟩ <;>
        simp [Script.fails_iff, unbroken_iff, breaksWith_iff, pulls, refused,
          eq_comm]
  | unstarted pulls creates refused =>
      rw [unbroken_iff] at pulls
      refine ⟨inOrder, ?_, ?_, ?_, ?_, ?_⟩ <;>
        simp [Script.fails_iff, unbroken_iff, breaksWith_iff, pulls, creates,
          refused, eq_comm]
  | started pulls creates starts =>
      rw [unbroken_iff] at pulls
      refine ⟨inOrder, ?_, ?_, ?_, ?_, ?_⟩ <;>
        simp [Script.fails_iff, unbroken_iff, breaksWith_iff, pulls, creates,
          starts, eq_comm]

end

/-- A run is a strict pipeline, whatever there is to be heard at its stages.  So
it is with every daemon, whatever its client makes of what it says; and of a
daemon that writes the steps of a pull, these steps are what is heard. -/
theorem run_pipelined (task : Task) :
    (∀ script : Script,
      Pipelined task script (run task script).requests
        (run task script).outcome) ∧
      (∀ {State : Type} [Client State] (daemon : State),
        Pipelined task (script task daemon) (run task daemon).requests
          (run task daemon).outcome) ∧
      ∀ (steps : List Progress) (later : List (Option Reply)),
        (script task
          { replies := some (.ofSteps steps) :: later : Daemon }).pulled =
            steps.map Progress.item := by
  refine ⟨?_, ?_, ?_⟩
  · intro script
    exact (ran task script).1.pipelined
  · intro State client daemon
    exact (ran task daemon).1.pipelined
  · intro steps later
    exact Reply.pullItems_ofSteps steps

/-- The first of two errors is the one that counts. -/
example :
    (run (Task.ofSpec { id := "a", label := "b" })
      { pulled := [.progress (some "x"), .failed "y", .failed "z"]
        created := .ok "c"
        started := fun _ => .ok () : Script }).outcome =
      .error (.pullImage "" "y") :=
  rfl

end Workloads.Docker
