import Workloads.Docker.Daemon
import Workloads.Proofs.Docker.Pipeline
import Workloads.Proofs.Worker.Segment

/-!
# What a failed run leaves behind

A container is there as soon as the daemon has granted its creation.  A run that
fails from then on never asks for the removal of the container, and the worker,
which is told the failure alone, has no handle by which it could.  So a failed
run leaves nothing behind exactly if no creation was granted.
-/

namespace Workloads.Docker

/-! ## What is said -/

/-- Requests with the daemon's replies to them. -/
def Daemon.converse (daemon : Daemon) :
    List Request → List (Request × Reply)
  | [] => []
  | request :: rest =>
      (request, (daemon.answer request).1) ::
        (daemon.answer request).2.converse rest

theorem Daemon.map_converse (daemon : Daemon) (requests : List Request) :
    (daemon.converse requests).map (·.1) = requests := by
  induction requests generalizing daemon with
  | nil => rfl
  | cons request rest hypothesis =>
      rw [converse, List.map_cons, hypothesis]

/-! ## Creations -/

/-- A container that the daemon has created: its name, and its id if the reply
tells it. -/
structure Creation where
  name : String
  id? : Option String
  deriving DecidableEq

/-- The container that a reply to a request is about, if it grants its
creation. -/
def creation? : Request × Reply → Option Creation
  | (.create name _, reply) =>
      if reply.succeeds then some { name, id? := reply.created.toOption }
      else none
  | _ => none

/-- The containers that the daemon has created while it was talked to. -/
def creations (talk : List (Request × Reply)) : List Creation :=
  talk.filterMap creation?

/-- Whether the daemon has been asked to remove a container. -/
def Creation.Withdrawn (creation : Creation)
    (talk : List (Request × Reply)) : Prop :=
  ∃ handle reply, (.remove handle, reply) ∈ talk ∧
    (creation.name = handle ∨ creation.id? = some handle)

/-- Whether the daemon has been asked to remove all that it has created. -/
def LeavesNothing (talk : List (Request × Reply)) : Prop :=
  ∀ creation ∈ creations talk, creation.Withdrawn talk

section

variable {talk : List (Request × Reply)}

/-- Who never asks for a removal leaves nothing if nothing is there. -/
theorem leavesNothing_iff
    (unasked : ∀ handle reply, (.remove handle, reply) ∉ talk) :
    LeavesNothing talk ↔ creations talk = [] := by
  constructor
  · intro leaves
    rw [List.eq_nil_iff_forall_not_mem]
    intro creation member
    rcases leaves creation member with ⟨handle, reply, asked, _⟩
    exact unasked handle reply asked
  · intro none creation member
    rw [none] at member
    cases member

/-- Nothing is there if every creation was refused. -/
theorem creations_eq_nil_iff :
    creations talk = [] ↔
      ∀ name blueprint reply, (.create name blueprint, reply) ∈ talk →
        reply.succeeds = false := by
  rw [creations, List.filterMap_eq_nil_iff]
  constructor
  · intro none name blueprint reply member
    have own := none _ member
    cases grants : reply.succeeds with
    | false => rfl
    | true => simp [creation?, grants] at own
  · rintro refused ⟨request, reply⟩ member
    cases request with
    | create name blueprint =>
        simp [creation?, refused name blueprint reply member]
    | pull image => rfl
    | start container => rfl
    | stop container seconds => rfl
    | remove container => rfl

end

theorem Reply.succeeds_of_created {reply : Reply} {container : String}
    (made : reply.created.toOption = some container) :
    reply.succeeds = true := by
  rw [created] at made
  split at made
  next succeeds => exact succeeds
  next => cases made

/-- What a success tells does not depend on the wording of faults. -/
theorem toOption_mapError {Fault Other Value : Type} (wording : Fault → Other)
    (result : Except Fault Value) :
    (result.mapError wording).toOption = result.toOption := by
  cases result <;> rfl

/-! ## Failed runs -/

/-- How far a failed run has come, by its failure and by what the daemon has
created. -/
inductive BrokenOff (task : Task) :
    RuntimeFailure → List Creation → Prop where
  /-- Nothing was to be created yet, -/
  | unpulled (reason : String) :
      BrokenOff task (.pullImage task.spec.image reason) []
  /-- or the creation was refused. -/
  | refused (reason : String) :
      BrokenOff task (.createContainer task.containerName reason) []
  /-- The creation was granted, but the reply did not tell the id. -/
  | unnamed (reason : String) :
      BrokenOff task (.createContainer task.containerName reason)
        [{ name := task.containerName, id? := none }]
  /-- The container was there, but it did not start. -/
  | unstarted (container reason : String) :
      BrokenOff task (.startContainer container reason)
        [{ name := task.containerName, id? := some container }]

section

variable {task : Task} {daemon : Daemon} {requests : List Request}

theorem Ran.unasked {outcome : Except RuntimeFailure String}
    (ran : Ran task (script task daemon) requests outcome)
    (handle : String) (reply : Reply) :
    (.remove handle, reply) ∉ daemon.converse requests := by
  cases ran <;> simp [Daemon.converse]

theorem Ran.brokenOff {failure : RuntimeFailure}
    (ran : Ran task (script task daemon) requests (.error failure)) :
    BrokenOff task failure (creations (daemon.converse requests)) := by
  rcases pulling : daemon.answer (.pull task.spec.image) with
    ⟨pulled, second⟩
  rcases creating :
      second.answer (.create task.containerName (.ofTask task)) with
    ⟨created, third⟩
  have told : (script task daemon).created.toOption =
      created.created.toOption := by
    simp only [script, Client.ask, pulling, creating]
    exact toOption_mapError _ _
  cases ran with
  | unpulled breaks => exact .unpulled _
  | uncreated pulls refused =>
      rw [refused] at told
      simp only [Daemon.converse, creations, List.filterMap, creation?,
        pulling, creating, ← told]
      cases created.succeeds with
      | false => exact .refused _
      | true => exact .unnamed _
  | unstarted pulls creates refused =>
      rw [creates] at told
      have grants := Reply.succeeds_of_created told.symm
      simp only [Daemon.converse, creations, List.filterMap, creation?,
        pulling, creating, grants, ← told]
      exact .unstarted _ _

end

/-- What the failure of a run comes to, for the daemon and for the worker. -/
structure Aftermath (task : Task) (daemon : Daemon)
    (talk : List (Request × Reply)) (failure : RuntimeFailure) : Prop where
  /-- Only this was said to the daemon, -/
  said : (run task daemon).daemon = after daemon (talk.map (·.1))
  /-- and never that a container be removed. -/
  unasked : ∀ handle reply, (.remove handle, reply) ∉ talk
  /-- One container at most has been created, according to the failure. -/
  brokenOff : BrokenOff task failure (creations talk)
  /-- Nothing is left behind exactly if every creation was refused. -/
  remains :
    LeavesNothing talk ↔
      ∀ name blueprint reply, (.create name blueprint, reply) ∈ talk →
        reply.succeeds = false
  /-- A launch that is told the failure ends without a further call, and no
  record gets to hold a container by it. -/
  forgotten :
    ∀ seconds registry id,
      (∃ error,
        ((Suspension.running id task).resume seconds registry
          (.error failure)).next = .finished (.error error)) ∧
        ∀ key,
          (((Suspension.running id task).resume seconds registry
              (.error failure)).registry.find? key).bind Task.containerId =
            (registry.find? key).bind Task.containerId

/-- A launch whose run has failed ends and changes no record's container. -/
theorem launch_forgets (seconds : Nat) (registry : Registry) (id : String)
    (task : Task) (failure : RuntimeFailure) :
    (∃ error,
      ((Suspension.running id task).resume seconds registry
        (.error failure)).next = .finished (.error error)) ∧
      ∀ key,
        (((Suspension.running id task).resume seconds registry
            (.error failure)).registry.find? key).bind Task.containerId =
          (registry.find? key).bind Task.containerId := by
  rw [Suspension.resume]
  cases found : registry.find? id with
  | none =>
      rw [recordFailure_of_absent found]
      exact ⟨⟨_, rfl⟩, fun _ => rfl⟩
  | some stored =>
      rw [recordFailure_of_present found]
      refine ⟨⟨_, rfl⟩, ?_⟩
      intro key
      rw [Segment.fail, Registry.find?_insert]
      split
      next own =>
        rw [← own, found]
        simp
      next => rfl

/-- A failed run asks for no removal, so that it leaves nothing behind exactly
if the daemon has created nothing. -/
theorem failed_run_aftermath {task : Task} {daemon : Daemon}
    {failure : RuntimeFailure}
    (failed : (run task daemon).outcome = .error failure) :
    Aftermath task daemon (daemon.converse (run task daemon).requests)
      failure := by
  rcases ran task daemon with ⟨ran, said⟩
  rw [failed] at ran
  exact {
    said := by rw [said, Daemon.map_converse]
    unasked := ran.unasked
    brokenOff := ran.brokenOff
    remains := (leavesNothing_iff ran.unasked).trans creations_eq_nil_iff
    forgotten := fun seconds registry id =>
      launch_forgets seconds registry id task failure }

/-! A daemon that creates the container and does not start it. -/

/-- A task with nothing but an id and a label. -/
def plainTask : Task :=
  Task.ofSpec { id := "a", label := "b" }

/-- A daemon that refuses the third request. -/
def unwillingDaemon : Daemon where
  replies := [none, none, some { status := 500 }]

/-- What a run of the task says to this daemon, and hears from it. -/
def unwillingTalk : List (Request × Reply) :=
  unwillingDaemon.converse (run plainTask unwillingDaemon).requests

theorem unwillingTalk_eq :
    unwillingTalk = [
      (.pull "", Request.accepted (.pull "")),
      (.create plainTask.containerName (.ofTask plainTask),
        Request.accepted (.create "" (.ofTask plainTask))),
      (.start "c0ffee", { status := 500 })] := by
  decide +kernel

theorem unwilling_outcome :
    (run plainTask unwillingDaemon).outcome =
      .error (.startContainer "c0ffee"
        "Docker responded with status code 500: ") := by
  have asked : (run plainTask unwillingDaemon).requests = [
      .pull "",
      .create plainTask.containerName (.ofTask plainTask),
      .start "c0ffee"] := by
    decide +kernel
  have wording :
      ({ status := 500 } : Reply).refusal.text =
        "Docker responded with status code 500: " := by
    decide +kernel
  have heard : (script plainTask unwillingDaemon).started "c0ffee" =
      .error ({ status := 500 } : Reply).refusal.text :=
    rfl
  rw [wording] at heard
  have ran := (ran plainTask unwillingDaemon).1
  rw [asked] at ran
  generalize (run plainTask unwillingDaemon).outcome = outcome at ran ⊢
  cases ran with
  | unstarted pulls creates refused =>
      rw [heard] at refused
      cases refused
      rfl
  | started pulls creates starts =>
      rw [heard] at starts
      cases starts

theorem failed_run_aftermath_unwilling :
    (run plainTask unwillingDaemon).outcome =
        .error (.startContainer "c0ffee"
          "Docker responded with status code 500: ") ∧
      Aftermath plainTask unwillingDaemon unwillingTalk
        (.startContainer "c0ffee"
          "Docker responded with status code 500: ") :=
  ⟨unwilling_outcome, failed_run_aftermath unwilling_outcome⟩

/-- The container was created, and nobody has asked the daemon to remove it. -/
theorem unstarted_container_remains :
    (∃ failure,
      (run plainTask unwillingDaemon).outcome = .error failure) ∧
      creations unwillingTalk =
        [{ name := plainTask.containerName, id? := some "c0ffee" }] ∧
      ¬LeavesNothing unwillingTalk := by
  have created : creations unwillingTalk =
      [{ name := plainTask.containerName, id? := some "c0ffee" }] := by
    decide +kernel
  refine ⟨⟨_, unwilling_outcome⟩, created, ?_⟩
  intro leaves
  rw [LeavesNothing, created] at leaves
  rcases leaves _ List.mem_cons_self with ⟨handle, reply, asked, _⟩
  rw [unwillingTalk_eq] at asked
  simp at asked

end Workloads.Docker
