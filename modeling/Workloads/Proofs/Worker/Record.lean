import Workloads.Proofs.Worker.Run

/-!
# What happens to a record

A stored record changes in three ways only: it is ended, it starts to run in
the container of its launch, or, having ended, it is given that container.  A
record comes into being as the pending task of a submission.
-/

namespace Workloads

/-- The container that the run of a launch has returned, with the id of the
launch. -/
def Cause.returned? : Cause → Option (String × String)
  | .answered (.running id _) (.ok container) => some (id, container)
  | _ => none

theorem Cause.returned?_eq_some {cause : Cause} {id container : String} :
    cause.returned? = some (id, container) ↔
      ∃ seen, cause = .answered (.running id seen) (.ok container) := by
  constructor
  · intro returned
    unfold returned? at returned
    split at returned
    · cases returned
      exact ⟨_, rfl⟩
    · cases returned
  · rintro ⟨seen, rfl⟩
    rfl

/-! ## One moment -/

/-- How the record under a key can stand after a cause. -/
inductive Task.Follows (cause : Cause) (key : String) (old : Task) :
    Task → Prop where
  | same : Follows cause key old old
  | ended (live : old.status ≠ .terminated) (reason message : String) :
      Follows cause key old (old.terminate reason message)
  | started {container : String}
      (live : old.status ≠ .terminated)
      (returned : cause.returned? = some (key, container)) :
      Follows cause key old
        { old with containerId := some container, status := .running }
  | attached {container : String}
      (ended : old.status = .terminated)
      (returned : cause.returned? = some (key, container)) :
      Follows cause key old { old with containerId := some container }

namespace Task.Follows

variable {cause : Cause} {key : String} {old new : Task}

theorem of_settle (cause : Cause) (key : String) (task : Task)
    (reason message : String) :
    Follows cause key task (task.settle reason message) := by
  by_cases ended : task.status = .terminated
  · rw [Task.settle_of_ended ended]
    exact .same
  · rw [Task.settle_of_live ended]
    exact .ended ended reason message

theorem of_started {container : String}
    (returned : cause.returned? = some (key, container)) (task : Task) :
    Follows cause key task (task.started container) := by
  by_cases ended : task.status = .terminated
  · rw [Task.started_of_ended ended]
    exact .attached ended returned
  · rw [Task.started_of_live ended]
    exact .started ended returned

/-- A record's status stays or moves forward. -/
theorem mayBecome (follows : Follows cause key old new) :
    old.status.mayBecome new.status = true := by
  cases follows with
  | same => simp [Status.mayBecome]
  | ended live reason message =>
      cases old.status <;> simp [Task.terminate, Status.mayBecome, Status.rank]
  | started live returned =>
      simpa [Status.mayBecome_running] using live
  | attached ended returned => simp [Status.mayBecome]

/-- An ended record keeps everything but its container, and that it changes
only for the one that its launch has returned. -/
theorem of_ended (follows : Follows cause key old new)
    (ended : old.status = .terminated) :
    new = { old with containerId := new.containerId } ∧
      (new.containerId = old.containerId ∨
        ∃ container, cause.returned? = some (key, container) ∧
          new.containerId = some container) := by
  cases follows with
  | same => exact ⟨rfl, .inl rfl⟩
  | ended live reason message => exact absurd ended live
  | started live returned => exact absurd ended live
  | attached ended returned => exact ⟨rfl, .inr ⟨_, returned, rfl⟩⟩

end Task.Follows

namespace Cause.Writes

variable {registry : Registry} {cause : Cause} {segment : Segment}
  {key : String} {old new : Task}

/-- A record that is there before and after has changed in one of the three
ways, if at all. -/
theorem follows (writes : Writes registry cause segment)
    (before : registry.find? key = some old)
    (after : segment.registry.find? key = some new) :
    old.Follows cause key new := by
  have changed
      {id : String} {task settled : Task}
      (found : registry.find? id = some task)
      (stored : segment.registry = registry.insert id settled)
      (step : id = key → task.Follows cause key settled) :
      old.Follows cause key new := by
    rw [stored, Registry.find?_insert] at after
    by_cases own : id = key
    · subst own
      simp only [if_true, Option.some.injEq] at after
      rw [found] at before
      cases before
      cases after
      exact step rfl
    · simp only [own, if_false, before, Option.some.injEq] at after
      cases after
      exact .same
  have kept
      (less : segment.registry.find? key = some new →
        registry.find? key = some new) :
      old.Follows cause key new := by
    have same := (less after).symm.trans before
    cases same
    exact .same
  cases writes with
  | nothing same => exact kept (fun stored => same ▸ stored)
  | @entered spec segment absent stored =>
      apply kept
      intro stored'
      rw [stored, Registry.find?_insert] at stored'
      have other : spec.id ≠ key := by
        intro own
        rw [own, before] at absent
        cases absent
      simpa [other] using stored'
  | ended found bare stored =>
      exact changed found stored (fun _ => .of_settle ..)
  | stopped found stored late =>
      exact changed found stored (fun _ => .of_settle ..)
  | recorded found stored quelled =>
      exact changed found stored (fun own => .of_started (own ▸ rfl) _)
  | failed found stored =>
      exact changed found stored (fun _ => .of_settle ..)
  | removedBare found ended bare stored =>
      apply kept
      intro stored'
      exact Registry.find?_of_delete (stored ▸ stored')
  | removed stored =>
      apply kept
      intro stored'
      exact Registry.find?_of_delete (stored ▸ stored')

/-- A record that was not there before is the pending task of a
submission. -/
theorem of_absent (writes : Writes registry cause segment)
    (before : registry.find? key = none)
    (after : segment.registry.find? key = some new) :
    ∃ spec, cause = .begun (.submit spec) ∧ spec.id = key ∧
      new = Task.ofSpec spec := by
  have unchanged
      {id : String} {task settled : Task}
      (found : registry.find? id = some task)
      (stored : segment.registry = registry.insert id settled) : False := by
    rw [stored, Registry.find?_insert] at after
    by_cases own : id = key
    · rw [own, before] at found
      cases found
    · simp [own, before] at after
  cases writes with
  | nothing same =>
      rw [same, before] at after
      cases after
  | @entered spec segment absent stored =>
      rw [stored, Registry.find?_insert] at after
      by_cases own : spec.id = key
      · simp only [own, if_true, Option.some.injEq] at after
        exact ⟨spec, rfl, own, after.symm⟩
      · simp [own, before] at after
  | ended found bare stored => exact (unchanged found stored).elim
  | stopped found stored late => exact (unchanged found stored).elim
  | recorded found stored quelled => exact (unchanged found stored).elim
  | failed found stored => exact (unchanged found stored).elim
  | removedBare found ended bare stored =>
      rw [stored] at after
      cases before.symm.trans (Registry.find?_of_delete after)
  | removed stored =>
      rw [stored] at after
      cases before.symm.trans (Registry.find?_of_delete after)

end Cause.Writes

/-! ## Runs -/

/-- What every record has: the id of its key, no container while it is
pending, and a container while it runs. -/
structure Task.Sound (key : String) (task : Task) : Prop where
  keyed : task.id = key
  bare : task.status = .pending → task.containerId = none
  held : task.status = .running → task.containerId ≠ none

theorem Task.Follows.sound {cause : Cause} {key : String} {old new : Task}
    (follows : old.Follows cause key new) (sound : old.Sound key) :
    new.Sound key := by
  cases follows with
  | same => exact sound
  | ended live reason message =>
      exact ⟨sound.keyed, nofun, nofun⟩
  | started live returned =>
      exact ⟨sound.keyed, nofun, fun _ => Option.some_ne_none _⟩
  | attached ended returned =>
      constructor
      · exact sound.keyed
      · intro pending
        cases ended.symm.trans pending
      · intro running
        exact Option.some_ne_none _

theorem Task.sound_ofSpec (spec : LaunchSpec) :
    (Task.ofSpec spec).Sound spec.id :=
  ⟨rfl, fun _ => rfl, nofun⟩

/-- A record that is not there afterwards was taken out by a removal. -/
theorem Cause.Writes.of_gone
    {registry : Registry} {cause : Cause} {segment : Segment}
    {key : String} {old : Task}
    (writes : Writes registry cause segment)
    (sound : ∀ key task, registry.find? key = some task → task.Sound key)
    (before : registry.find? key = some old)
    (after : segment.registry.find? key = none) :
    (cause = .begun (.remove key) ∧ old.status = .terminated ∧
        old.containerId = none) ∨
      ∃ task container reply, task.id = key ∧
        cause = .answered (.removing task container) (.ok reply) := by
  have kept {id : String} {task : Task}
      (stored : segment.registry = registry.insert id task) : False := by
    rw [stored, Registry.find?_insert, before] at after
    split at after <;> cases after
  cases writes with
  | nothing same =>
      rw [same, before] at after
      cases after
  | entered absent stored => exact (kept stored).elim
  | ended found bare stored => exact (kept stored).elim
  | stopped found stored late => exact (kept stored).elim
  | recorded found stored quelled => exact (kept stored).elim
  | failed found stored => exact (kept stored).elim
  | @removedBare id task segment found ended bare stored =>
      rw [stored, Registry.find?_delete, before] at after
      by_cases own : task.id = key
      · rw [(sound _ _ found).keyed] at own
        subst own
        cases found.symm.trans before
        exact .inl ⟨rfl, ended, bare⟩
      · rw [if_neg own] at after
        cases after
  | @removed task container reply segment stored =>
      rw [stored, Registry.find?_delete, before] at after
      by_cases own : task.id = key
      · exact .inr ⟨task, container, reply, own, rfl⟩
      · rw [if_neg own] at after
        cases after

/-- A moment keeps every record sound. -/
theorem Cause.Writes.sound
    {registry : Registry} {cause : Cause} {segment : Segment}
    (writes : Writes registry cause segment)
    (sound : ∀ key task, registry.find? key = some task → task.Sound key) :
    ∀ key task, segment.registry.find? key = some task →
      task.Sound key := by
  intro key new after
  cases before : registry.find? key with
  | none =>
      rcases writes.of_absent before after with ⟨spec, _, rfl, rfl⟩
      exact Task.sound_ofSpec spec
  | some old =>
      exact (writes.follows before after).sound (sound key old before)

/-- Every stored record is sound. -/
theorem Run.sound {seconds : Nat} {history : List Moment} {world : World}
    (run : Run seconds history world) :
    ∀ key task, world.registry.find? key = some task →
      task.Sound key := by
  induction run with
  | empty => exact nofun
  | @step history world ticket cause past allowed sound =>
      exact (Cause.leads_segment seconds world.registry cause).writes.sound
        sound

/-- Every record that a moment finds is sound. -/
theorem Run.sound_before {seconds : Nat} {history : List Moment}
    {world : World} (run : Run seconds history world)
    {moment : Moment} (member : moment ∈ history) :
    ∀ key task, moment.before.find? key = some task → task.Sound key := by
  rcases run.of_mem member with ⟨_, _, past, _, earlier, _, same⟩
  rw [same]
  exact earlier.sound

end Workloads
