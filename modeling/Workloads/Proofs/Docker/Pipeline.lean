import Workloads.Docker.Engine

/-!
# The stages of a run

A run asks a daemon for at most three things, each of them only after what was
asked before has fully succeeded.  How far it gets depends on what is heard
alone, and not on the client that hears it.  All that a run can do is listed here
once, by a script of what there is to be heard.
-/

namespace Workloads.Docker

/-! ## Pulls -/

/-- The wording of the error that an item of a pull is, if it is one. -/
def PullItem.reason? : PullItem → Option String
  | progress _ => none
  | failed reason => some reason

/-- Whether no item of a pull is an error. -/
def Unbroken (items : List PullItem) : Prop :=
  ∀ item ∈ items, item.reason? = none

/-- Whether the first error among the items of a pull has a wording. -/
def BreaksWith (items : List PullItem) (reason : String) : Prop :=
  ∃ before after, items = before ++ .failed reason :: after ∧ Unbroken before

theorem PullItem.reason?_eq_some {item : PullItem} {reason : String} :
    item.reason? = some reason ↔ item = .failed reason := by
  cases item <;> simp [reason?]

section

variable {items : List PullItem}

theorem unbroken_iff :
    Unbroken items ↔ items.findSome? PullItem.reason? = none :=
  List.findSome?_eq_none_iff.symm

theorem breaksWith_iff {reason : String} :
    BreaksWith items reason ↔
      items.findSome? PullItem.reason? = some reason := by
  rw [List.findSome?_eq_some_iff]
  constructor
  · rintro ⟨before, after, whole, unbroken⟩
    exact ⟨before, _, after, whole, rfl, unbroken⟩
  · rintro ⟨before, item, after, whole, breaks, unbroken⟩
    rw [PullItem.reason?_eq_some.mp breaks] at whole
    exact ⟨before, after, whole, unbroken⟩

end

/-- A pull is followed up to its first error. -/
theorem followPull_outcome (image : String) (items : List PullItem) :
    (followPull image items).2 =
      match items.findSome? PullItem.reason? with
      | none => .ok ()
      | some reason => .error reason := by
  induction items with
  | nil => rfl
  | cons item rest hypothesis =>
      cases item with
      | failed reason => rfl
      | progress status => cases status <;> exact hypothesis

/-! ## Exchanges -/

variable {State : Type}

/-- What an exchange comes to, its events apart. -/
structure Exchange.Shows {Value : Type} (exchange : Exchange State Value)
    (requests : List Request) (outcome : Except RuntimeFailure Value)
    (daemon : State) : Prop where
  requests : exchange.requests = requests
  outcome : exchange.outcome = outcome
  daemon : exchange.daemon = daemon

namespace Exchange.Shows

variable {Value Other : Type} {exchange : Exchange State Value}
  {requests : List Request} {daemon : State}
  {next : Value → State → Exchange State Other}

/-- A failure ends an exchange. -/
theorem andThen_error {failure : RuntimeFailure}
    (first : exchange.Shows requests (.error failure) daemon) :
    (exchange.andThen next).Shows requests (.error failure) daemon := by
  rcases first with ⟨rfl, outcome, rfl⟩
  simp only [andThen, outcome]
  exact ⟨rfl, rfl, rfl⟩

/-- After a success an exchange goes on. -/
theorem andThen_ok {value : Value}
    (first : exchange.Shows requests (.ok value) daemon)
    {later : List Request} {outcome : Except RuntimeFailure Other}
    {last : State}
    (second : (next value daemon).Shows later outcome last) :
    (exchange.andThen next).Shows (requests ++ later) outcome last := by
  rcases first with ⟨rfl, succeeds, rfl⟩
  rcases second with ⟨rfl, rfl, rfl⟩
  simp only [andThen, succeeds]
  exact ⟨rfl, rfl, rfl⟩

end Exchange.Shows

/-! ## Stages -/

section

variable [Client State] {image name container reason : String}
  {blueprint : Blueprint} {daemon : State}

theorem pull_broken
    (breaks : BreaksWith (Client.ask (.pull image) daemon).1 reason) :
    (pull image daemon).Shows [.pull image]
      (.error (.pullImage image reason))
      (Client.ask (.pull image) daemon).2 := by
  rw [breaksWith_iff] at breaks
  simp only [pull, followPull_outcome, breaks]
  exact ⟨rfl, rfl, rfl⟩

theorem pull_done
    (pulls : Unbroken (Client.ask (.pull image) daemon).1) :
    (pull image daemon).Shows [.pull image] (.ok ())
      (Client.ask (.pull image) daemon).2 := by
  rw [unbroken_iff] at pulls
  simp only [pull, followPull_outcome, pulls]
  exact ⟨rfl, rfl, rfl⟩

theorem create_refused
    (refused :
      (Client.ask (.create name blueprint) daemon).1 = .error reason) :
    (create name blueprint daemon).Shows [.create name blueprint]
      (.error (.createContainer name reason))
      (Client.ask (.create name blueprint) daemon).2 := by
  simp only [create, refused]
  exact ⟨rfl, rfl, rfl⟩

theorem create_done
    (creates :
      (Client.ask (.create name blueprint) daemon).1 = .ok container) :
    (create name blueprint daemon).Shows [.create name blueprint]
      (.ok container)
      (Client.ask (.create name blueprint) daemon).2 := by
  simp only [create, creates]
  exact ⟨rfl, rfl, rfl⟩

theorem start_refused
    (refused : (Client.ask (.start container) daemon).1 = .error reason) :
    (start name container daemon).Shows [.start container]
      (.error (.startContainer container reason))
      (Client.ask (.start container) daemon).2 := by
  simp only [start, refused]
  exact ⟨rfl, rfl, rfl⟩

theorem start_done
    (starts : (Client.ask (.start container) daemon).1 = .ok ()) :
    (start name container daemon).Shows [.start container] (.ok container)
      (Client.ask (.start container) daemon).2 := by
  simp only [start, starts]
  exact ⟨rfl, rfl, rfl⟩

end

/-! ## Scripts -/

/-- What there is to be heard at the stages of a run: any items of a pull and any
results, which for the start may depend on the container. -/
structure Script where
  pulled : List PullItem
  created : Except String String
  started : String → Except String Unit

/-- A script is a daemon that keeps to it, whatever it is asked before. -/
instance : Client Script where
  ask request script :=
    match request with
    | .pull _ => (script.pulled, script)
    | .create _ _ => (script.created, script)
    | .start container => (script.started container, script)
    | .stop _ _ | .remove _ => (.ok (), script)

section

variable [Client State]

/-- What a daemon has to say at the stages of a run of a task. -/
def script (task : Task) (daemon : State) : Script :=
  let pulling := Client.ask (.pull task.spec.image) daemon
  let creating :=
    Client.ask (.create task.containerName (.ofTask task)) pulling.2
  { pulled := pulling.1
    created := creating.1
    started := fun container =>
      (Client.ask (.start container) creating.2).1 }

/-- The daemon after some requests. -/
def after (daemon : State) : List Request → State
  | [] => daemon
  | request :: rest => after (Client.ask request daemon).2 rest

end

/-! ## Runs -/

/-- How a run of a task goes, by what it asks for and by its outcome. -/
inductive Ran (task : Task) (script : Script) :
    List Request → Except RuntimeFailure String → Prop where
  | unpulled {reason : String} (breaks : BreaksWith script.pulled reason) :
      Ran task script [.pull task.spec.image]
        (.error (.pullImage task.spec.image reason))
  | uncreated {reason : String} (pulls : Unbroken script.pulled)
      (refused : script.created = .error reason) :
      Ran task script [
          .pull task.spec.image,
          .create task.containerName (.ofTask task)]
        (.error (.createContainer task.containerName reason))
  | unstarted {container reason : String} (pulls : Unbroken script.pulled)
      (creates : script.created = .ok container)
      (refused : script.started container = .error reason) :
      Ran task script [
          .pull task.spec.image,
          .create task.containerName (.ofTask task),
          .start container]
        (.error (.startContainer container reason))
  | started {container : String} (pulls : Unbroken script.pulled)
      (creates : script.created = .ok container)
      (starts : script.started container = .ok ()) :
      Ran task script [
          .pull task.spec.image,
          .create task.containerName (.ofTask task),
          .start container]
        (.ok container)

/-- A run asks for nothing else, and for nothing out of order. -/
theorem Ran.inOrder {task : Task} {script : Script}
    {requests : List Request} {outcome : Except RuntimeFailure String}
    (ran : Ran task script requests outcome) :
    ∃ container,
      requests <+: [
        .pull task.spec.image,
        .create task.containerName (.ofTask task),
        .start container] := by
  cases ran <;> simp

/-- A run goes in one of the listed ways, and nothing else is asked of the
daemon. -/
theorem ran [Client State] (task : Task) (daemon : State) :
    Ran task (script task daemon) (run task daemon).requests
        (run task daemon).outcome ∧
      (run task daemon).daemon =
        after daemon (run task daemon).requests := by
  cases first : (script task daemon).pulled.findSome? PullItem.reason? with
  | some reason =>
      have breaks := breaksWith_iff.mpr first
      have whole : (run task daemon).Shows _ _ _ :=
        (pull_broken breaks).andThen_error
      rw [whole.requests, whole.outcome, whole.daemon]
      exact ⟨.unpulled breaks, rfl⟩
  | none =>
      have pulls := unbroken_iff.mpr first
      cases creates : (script task daemon).created with
      | error reason =>
          have whole : (run task daemon).Shows _ _ _ :=
            (pull_done pulls).andThen_ok (create_refused creates).andThen_error
          rw [whole.requests, whole.outcome, whole.daemon]
          exact ⟨.uncreated pulls creates, rfl⟩
      | ok container =>
          cases starts : (script task daemon).started container with
          | error reason =>
              have whole : (run task daemon).Shows _ _ _ :=
                (pull_done pulls).andThen_ok
                  ((create_done creates).andThen_ok (start_refused starts))
              rw [whole.requests, whole.outcome, whole.daemon]
              exact ⟨.unstarted pulls creates starts, rfl⟩
          | ok done =>
              have whole : (run task daemon).Shows _ _ _ :=
                (pull_done pulls).andThen_ok
                  ((create_done creates).andThen_ok (start_done starts))
              rw [whole.requests, whole.outcome, whole.daemon]
              exact ⟨.started pulls creates starts, rfl⟩

end Workloads.Docker
