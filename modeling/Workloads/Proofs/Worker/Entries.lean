import Workloads.Proofs.Worker.Record

/-!
# What a record says

A record is entered by an accepted submission and says from then on what was
submitted: no operation changes its id, its specification or its container
name.  The operations that wait write single fields into whatever record they
find later, also into that of a later task of the same id; the fields agree
with the status all the same, because each of these writes looks at the status
first.
-/

namespace Workloads

/-! ## Accepted submissions -/

/-- The specification of the task that is entered in a moment. -/
def Moment.entered? (moment : Moment) : Option LaunchSpec :=
  match moment.cause, moment.result? with
  | .begun (.submit spec), some (.ok _) => some spec
  | _, _ => none

/-- The specification that was accepted last for an id. -/
def lastEntered (history : List Moment) (key : String) : Option LaunchSpec :=
  ((history.filterMap Moment.entered?).filter
    (fun spec => spec.id = key)).getLast?

/-- An accepted submission enters the task of its specification. -/
theorem Moment.of_entered
    {seconds : Nat} {registry : Registry} {moment : Moment}
    {spec : LaunchSpec}
    (leads : moment.cause.Leads seconds registry moment.segment)
    (entered : moment.entered? = some spec) :
    moment.cause = .begun (.submit spec) ∧
      registry.find? spec.id = none ∧
      moment.after = registry.insert spec.id (Task.ofSpec spec) ∧
      moment.result? = some (.ok (.task (Task.ofSpec spec))) := by
  rcases moment with ⟨ticket, cause, before, segment⟩
  unfold entered? at entered
  split at entered
  · rename_i asked answer begun result
    cases entered
    cases begun
    cases leads with
    | submitted absent => exact ⟨rfl, absent, rfl, rfl⟩
    | taken found => cases result
    | unknown target absent => cases target
  · cases entered

/-- A record that is new was entered by a submission. -/
theorem Moment.entered_of_new
    {seconds : Nat} {registry : Registry} {moment : Moment} {key : String}
    {task : Task}
    (leads : moment.cause.Leads seconds registry moment.segment)
    (before : registry.find? key = none)
    (after : moment.after.find? key = some task) :
    ∃ spec, moment.entered? = some spec ∧ spec.id = key ∧
      task = Task.ofSpec spec := by
  rcases leads.writes.of_absent before after with ⟨spec, begun, rfl, rfl⟩
  refine ⟨spec, ?_, rfl, rfl⟩
  rcases moment with ⟨ticket, cause, registryBefore, segment⟩
  cases begun
  cases leads with
  | submitted absent => rfl
  | taken found => cases before.symm.trans found
  | unknown target absent => cases target

theorem lastEntered_of_entered
    {history : List Moment} {moment : Moment} {spec : LaunchSpec}
    (entered : moment.entered? = some spec) :
    lastEntered (history ++ [moment]) spec.id = some spec := by
  simp [lastEntered, entered]

/-- Otherwise the last accepted submission stays the last one. -/
theorem lastEntered_of_other
    {history : List Moment} {moment : Moment} {key : String}
    (other : ∀ spec, moment.entered? = some spec → spec.id ≠ key) :
    lastEntered (history ++ [moment]) key = lastEntered history key := by
  cases entered : moment.entered? with
  | none => simp [lastEntered, entered]
  | some spec => simp [lastEntered, entered, other spec entered]

/-! ## Records -/

/-- What the record under a key says after a history. -/
structure Task.Faithful
    (history : List Moment) (key : String) (task : Task) : Prop where
  /-- It has the id of its key, -/
  keyed : task.id = key
  /-- the specification that was accepted last for its id, -/
  spec : lastEntered history key = some task.spec
  /-- and the container name that is derived from both. -/
  named : task.containerName = ContainerName.derive task.spec.label key
  /-- It has no container while it is pending, -/
  bare : task.status = .pending → task.containerId = none
  /-- and a container while it runs. -/
  held : task.status = .running → task.containerId.isSome
  /-- It gives a reason for its end if and only if it has ended, -/
  reason : task.reason.isSome ↔ task.status = .terminated
  /-- and a message likewise. -/
  message : task.message.isSome ↔ task.status = .terminated

namespace Task.Faithful

variable {early late : List Moment} {key : String} {old new : Task}

/-- A new record says what was submitted. -/
theorem of_entered {spec : LaunchSpec}
    (entered : lastEntered late spec.id = some spec) :
    Task.Faithful late spec.id (Task.ofSpec spec) where
  keyed := rfl
  spec := entered
  named := rfl
  bare _ := rfl
  held := nofun
  reason := ⟨nofun, nofun⟩
  message := ⟨nofun, nofun⟩

/-- Whatever a moment does to a record, it says the same as before. -/
theorem follow {cause : Cause}
    (faithful : Task.Faithful early key old)
    (follows : old.Follows cause key new)
    (same : lastEntered late key = lastEntered early key) :
    Task.Faithful late key new := by
  have spec := same.trans faithful.spec
  cases follows with
  | same => exact { faithful with spec }
  | ended live reason message =>
      exact
        { faithful with
          spec
          bare := nofun
          held := nofun
          reason := ⟨fun _ => rfl, fun _ => rfl⟩
          message := ⟨fun _ => rfl, fun _ => rfl⟩ }
  | started live returned =>
      -- A record that has not ended gives neither a reason nor a message.
      have unexplained := mt faithful.reason.mp live
      have untold := mt faithful.message.mp live
      exact
        { faithful with
          spec
          bare := nofun
          held := fun _ => rfl
          reason := ⟨fun given => absurd given unexplained, nofun⟩
          message := ⟨fun given => absurd given untold, nofun⟩ }
  | attached ended returned =>
      have notPending : old.status ≠ .pending := by
        rw [ended]
        decide
      exact
        { faithful with
          spec
          bare := fun pending => absurd pending notPending
          held := fun _ => rfl }

end Task.Faithful

/-- Every record says what was accepted last for its key, and its fields agree
with its status. -/
theorem Run.records_faithful {seconds : Nat} {history : List Moment}
    {world : World} (run : Run seconds history world) :
    ∀ key task, world.registry.find? key = some task →
      Task.Faithful history key task := by
  induction run with
  | empty => exact nofun
  | @step history world ticket cause past allowed faithful =>
      intro key new after
      have leads :
          (world.moment seconds ticket cause).cause.Leads seconds
            world.registry (world.moment seconds ticket cause).segment :=
        Cause.leads_segment ..
      cases before : world.registry.find? key with
      | none =>
          rcases Moment.entered_of_new leads before after with
            ⟨spec, entered, rfl, rfl⟩
          exact .of_entered (lastEntered_of_entered entered)
      | some old =>
          refine (faithful key old before).follow
            (leads.writes.follows before after) (lastEntered_of_other ?_)
          rintro spec entered rfl
          rcases Moment.of_entered leads entered with ⟨_, absent, _⟩
          cases before.symm.trans absent

/-! A launch may return its container after its task is gone and another one
has been entered under the same id; the record of the later task then runs in
that container, and still says what was submitted for the later task. -/

/-- The task that is launched. -/
def formerSpec : LaunchSpec where
  id := "a"
  label := "former"
  command := ["serve"]

/-- The task that is submitted under the same id afterwards. -/
def latterSpec : LaunchSpec where
  id := "a"
  label := "latter"
  ports := [80]

/-- A script in which a launch returns its container to a later task. -/
def inheritingScript : List (Nat × Cause) := [
  (0, .begun (.submit formerSpec)),
  (1, .begun (.launch "a")),
  (2, .begun (.terminate "a" {})),
  (3, .begun (.remove "a")),
  (4, .begun (.submit latterSpec)),
  (1, .answered (.running "a" (Task.ofSpec formerSpec)) (.ok "c"))]

theorem inheritingScript_allowed :
    World.AllowsAll 10 {} inheritingScript :=
  ⟨.begin (by decide) _, .begin (by decide) _, .begin (by decide) _,
    .begin (by decide) _, .begin (by decide) _, .answer rfl _, trivial⟩

theorem Run.records_faithful_inherited :
    Run 10 (World.play 10 {} inheritingScript).1
        (World.play 10 {} inheritingScript).2 ∧
      (World.play 10 {} inheritingScript).2.registry.find? "a" =
        some ((Task.ofSpec latterSpec).started "c") ∧
      Task.Faithful (World.play 10 {} inheritingScript).1 "a"
        ((Task.ofSpec latterSpec).started "c") := by
  have run := Run.empty.play inheritingScript_allowed
  exact ⟨run, rfl, Run.records_faithful run "a" _ rfl⟩

end Workloads
