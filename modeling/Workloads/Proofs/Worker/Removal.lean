import Workloads.Proofs.Worker.Entries
import Workloads.Proofs.Worker.Finality

/-!
# What a removal takes out

A removal looks at its task once, before it waits for the removal of the
container, and takes the key out afterwards without a second look.  What it
takes out is the ended record that it has found, unless the key was taken out
and another task was entered under it while the removal was waiting; in that
case it takes out whatever the other task has become.
-/

namespace Workloads

namespace Run

variable {seconds : Nat} {history : List Moment} {world : World}
  {key : String}

/-- Between a moment after which a key is missing and one after which it is
there, a task is entered under it. -/
theorem entered_between (run : Run seconds history world)
    {first : Nat} {task : Task}
    (missing : recordAfter history first key = none) (gap : Nat)
    (found : recordAfter history (first + gap) key = some task) :
    ∃ index moment spec, first < index ∧ index ≤ first + gap ∧
      history[index]? = some moment ∧
      moment.entered? = some spec ∧ spec.id = key := by
  induction gap generalizing task with
  | zero =>
      rw [Nat.add_zero, missing] at found
      cases found
  | succ gap hypothesis =>
      rcases recordAfter_eq_some.mp found with ⟨moment, place, after⟩
      have finds :
          moment.before.find? key = recordAfter history (first + gap) key :=
        run.before_eq_recordAfter place
      -- The last moment enters the task itself unless it finds it already.
      cases before : recordAfter history (first + gap) key with
      | some old =>
          rcases hypothesis before with
            ⟨index, entry, spec, above, below, rest⟩
          exact ⟨index, entry, spec, above, Nat.le_succ_of_le below, rest⟩
      | none =>
          rcases Moment.entered_of_new
              (run.leads (List.mem_of_getElem? place))
              (finds.trans before) after with
            ⟨spec, entered, own, _⟩
          exact ⟨first + gap + 1, moment, spec,
            Nat.lt_succ_of_le (Nat.le_add_right ..), Nat.le_refl _, place,
            entered, own⟩

end Run

/-! ## The beginning of a removal -/

/-- A removal that waits has found its task ended and waits for the removal of
its container. -/
theorem Cause.Leads.of_removal
    {seconds : Nat} {registry : Registry} {cause : Cause}
    {segment : Segment} {task : Task} {container : String}
    (leads : Leads seconds registry cause segment)
    (sound : ∀ key task, registry.find? key = some task → task.Sound key)
    (next : segment.next = .waiting (.removing task container)) :
    cause = .begun (.remove task.id) ∧
      registry.find? task.id = some task ∧
      task.status = .terminated ∧ task.containerId = some container ∧
      segment.registry = registry := by
  cases leads <;> cases next
  case removing found ended held =>
    rw [(sound _ _ found).keyed]
    exact ⟨rfl, found, ended, held, rfl⟩

theorem Run.removal_began {seconds : Nat} {history : List Moment}
    {world : World} (run : Run seconds history world)
    {ticket : Nat} {task : Task} {container : String}
    (waits : world.flights ticket = some (.removing task container)) :
    ∃ index moment, history[index]? = some moment ∧
      moment.ticket = ticket ∧
      moment.cause = .begun (.remove task.id) ∧
      moment.before.find? task.id = some task ∧
      recordAfter history index task.id = some task ∧
      task.status = .terminated := by
  rcases run.suspended waits with ⟨moment, member, ticket, next⟩
  rcases List.getElem?_of_mem member with ⟨index, place⟩
  rcases (run.leads member).of_removal (run.sound_before member) next with
    ⟨begun, found, ended, _, unchanged⟩
  have left : moment.after.find? task.id = some task := by
    rw [Moment.after, unchanged]
    exact found
  exact ⟨index, moment, place, ticket, begun, found,
    recordAfter_eq_some.mpr ⟨moment, place, left⟩, ended⟩

/-! ## The end of a removal -/

/-- Whether a key was taken out after one moment and a task was entered under
it again before another. -/
def ReenteredBetween
    (history : List Moment) (key : String) (first last : Nat) : Prop :=
  ∃ gone back deletion entry spec,
    first < gone ∧ gone < back ∧ back < last ∧
      history[gone]? = some deletion ∧ deletion.Deletes key ∧
      history[back]? = some entry ∧ entry.entered? = some spec ∧
      spec.id = key

/-- A removal that begins in one moment and takes its key out in another, with
the record that it has found and the one that it takes out. -/
structure Removal (history : List Moment) (key : String)
    (first last : Nat) (seen taken : Task) : Prop where
  ordered : first ≤ last
  /-- Both moments belong to one removal of this key. -/
  begun :
    ∃ beginning ending,
      history[first]? = some beginning ∧ history[last]? = some ending ∧
        beginning.ticket = ending.ticket ∧
        beginning.cause = .begun (.remove key) ∧
        beginning.before.find? key = some seen ∧
        ending.before.find? key = some taken
  /-- It has found an ended record, -/
  ended : seen.status = .terminated
  /-- and takes out an ended record, the same but for its container, unless
  the key was taken out and entered again in between. -/
  outcome :
    (taken.status = .terminated ∧
        taken = { seen with containerId := taken.containerId }) ∨
      ReenteredBetween history key first last

namespace Run

variable {seconds : Nat} {history : List Moment} {world : World}
  {key : String}

/-- What is found later under the key of an ended record is that record, but
for its container, unless the key was taken out and entered again. -/
theorem ended_or_reentered (run : Run seconds history world)
    {first gap : Nat} {seen taken : Task} {moment : Moment}
    (start : recordAfter history first key = some seen)
    (ended : seen.status = .terminated)
    (place : history[first + gap + 1]? = some moment)
    (found : moment.before.find? key = some taken) :
    (taken.status = .terminated ∧
        taken = { seen with containerId := taken.containerId }) ∨
      ReenteredBetween history key first (first + gap + 1) := by
  rw [run.before_eq_recordAfter place] at found
  have inside : first + gap < history.length :=
    Nat.lt_of_succ_lt (List.getElem?_eq_some_iff.mp place).1
  -- Either some moment in between takes the key out, and then the record that
  -- is found has been entered later, or the ended record has stayed.
  by_cases lost :
      ∃ gone deletion, first < gone ∧ gone ≤ first + gap ∧
        history[gone]? = some deletion ∧ deletion.Deletes key
  · right
    rcases lost with ⟨gone, deletion, above, below, here, deletes⟩
    rcases Nat.exists_eq_add_of_le below with ⟨rest, last⟩
    have missing : recordAfter history gone key = none := by
      rw [recordAfter, here]
      exact deletes.2
    rw [last] at found
    rcases run.entered_between missing rest found with
      ⟨back, entry, spec, after, before, there, entered, own⟩
    refine ⟨gone, back, deletion, entry, spec, above, after, ?_, here,
      deletes, there, entered, own⟩
    rw [last]
    exact Nat.lt_succ_of_le before
  · left
    have kept : KeptBetween history key first (first + gap) :=
      fun index deletion above below here deletes =>
        lost ⟨index, deletion, above, below, here, deletes⟩
    rcases run.ended_stays start ended gap inside kept with
      ⟨same, stored, stays⟩
    rw [found] at stored
    cases stored
    refine ⟨?_, stays.frame⟩
    rw [stays.frame]
    exact ended

/-- Whatever takes a key out is a removal, which has found an ended record and
takes an ended record out, unless a task was entered again meanwhile. -/
theorem removal_of_deletes (run : Run seconds history world)
    {last : Nat} {moment : Moment}
    (place : history[last]? = some moment)
    (deletes : moment.Deletes key) :
    ∃ first seen taken, Removal history key first last seen taken := by
  rcases exists_split_of_getElem? place with ⟨early, late, rfl, rfl⟩
  rcases run.split with ⟨past, earlier, allowed, _⟩
  rcases Option.ne_none_iff_exists'.mp deletes.1 with ⟨taken, found⟩
  have member := List.mem_of_getElem? place
  rcases (run.leads member).writes.of_gone (run.sound_before member) found
      deletes.2 with
    ⟨begun, ended, _⟩ | ⟨task, container, reply, rfl, answered⟩
  · exact ⟨early.length, taken, taken,
      { ordered := Nat.le_refl _
        begun := ⟨moment, moment, place, place, rfl, begun, found, found⟩
        ended
        outcome := .inl ⟨ended, rfl⟩ }⟩
  · rw [answered] at allowed
    cases allowed with
    | answer waits =>
        rcases earlier.removal_began waits with
          ⟨first, beginning, here, ticket, begun, seen, start, ended⟩
        have inside := (List.getElem?_eq_some_iff.mp here).1
        have here' :
            (early ++ moment :: late)[first]? = some beginning := by
          rw [List.getElem?_append_left inside]
          exact here
        have start' :
            recordAfter (early ++ moment :: late) first task.id =
              some task := by
          rw [recordAfter, here', ← start, recordAfter, here]
        rcases Nat.exists_eq_add_of_lt inside with ⟨gap, length⟩
        rw [length] at place ⊢
        exact ⟨first, task, taken,
          { ordered := by omega
            begun :=
              ⟨beginning, moment, here', place, ticket, begun, seen, found⟩
            ended
            outcome :=
              run.ended_or_reentered start' ended place found }⟩

end Run

/-! Two removals of one task may overlap.  If the first of them to return is
followed by another submission of the id, the second takes out the new
task. -/

/-- The task that is submitted twice. -/
def contestedSpec : LaunchSpec where
  id := "a"
  label := "b"

/-- The record that both removals find. -/
def contestedTask : Task :=
  { Task.ofSpec contestedSpec with
    status := .terminated
    containerId := some "c"
    reason := some defaultReason
    message := some "" }

/-- A script in which the second removal returns after the id was submitted
again. -/
def contestedScript : List (Nat × Cause) := [
  (0, .begun (.submit contestedSpec)),
  (1, .begun (.launch "a")),
  (1, .answered (.running "a" (Task.ofSpec contestedSpec)) (.ok "c")),
  (2, .begun (.terminate "a" {})),
  (2, .answered (.stopping "a" {} "c" 10) (.ok ())),
  (3, .begun (.remove "a")),
  (4, .begun (.remove "a")),
  (4, .answered (.removing contestedTask "c") (.ok ())),
  (5, .begun (.submit contestedSpec)),
  (3, .answered (.removing contestedTask "c") (.ok ()))]

theorem contestedScript_allowed :
    World.AllowsAll 10 {} contestedScript :=
  ⟨.begin (by decide) _, .begin (by decide) _, .answer rfl _,
    .begin (by decide) _, .answer rfl _, .begin (by decide) _,
    .begin (by decide) _, .answer rfl _, .begin (by decide) _,
    .answer rfl _, trivial⟩

theorem Run.removal_of_deletes_contested :
    ∃ history world moment,
      Run 10 history world ∧ history[7]? = some moment ∧
        moment.Deletes "a" ∧
        ∃ first seen taken, Removal history "a" first 7 seen taken := by
  have run := Run.empty.play contestedScript_allowed
  refine ⟨_, _, _, run, rfl, ?deletes, ?removal⟩
  case deletes => exact ⟨Option.some_ne_none _, rfl⟩
  case removal =>
    exact Run.removal_of_deletes run rfl ⟨Option.some_ne_none _, rfl⟩

/-- The second removal takes out a task that is pending. -/
theorem overlapping_removal_forgets :
    ∃ history world moment task,
      Run 10 history world ∧ history[9]? = some moment ∧
        moment.cause = .answered (.removing contestedTask "c") (.ok ()) ∧
        moment.Deletes "a" ∧
        moment.before.find? "a" = some task ∧
        task.status = .pending :=
  ⟨_, _, _, _, Run.empty.play contestedScript_allowed, rfl, rfl,
    ⟨Option.some_ne_none _, rfl⟩, rfl, rfl⟩

end Workloads
