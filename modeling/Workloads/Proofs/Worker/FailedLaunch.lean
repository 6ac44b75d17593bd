import Workloads.Proofs.Worker.Atomicity
import Workloads.Proofs.Worker.Launches
import Workloads.Proofs.Worker.Removal

/-!
# Launches that fail

A launch whose run fails is over in the same moment.  It ends whatever record
its id has by then, and tells the failure; only if there is none does it answer
that the task is unknown.  The record need not be the one that the launch has
found in the beginning: other launches of the id may have given it a container,
or the task may have been removed and another one submitted.  A container that
another launch has put there stays in the ended record, and whoever asked for
its stop must have done so before.
-/

namespace Workloads

/-! ## Containers of live records -/

/-- Whether a launch has put its container into the live record of an id in one
moment and the record still has it when another moment comes: nobody takes the
id out in between, and no launch returns another container for it. -/
structure Lodged (history : List Moment) (id container : String)
    (point last : Nat) : Prop where
  ordered : point < last
  recorded :
    ∃ moment task, history[point]? = some moment ∧
      moment.cause.returned? = some (id, container) ∧
      moment.before.find? id = some task ∧ task.status ≠ .terminated
  left :
    ∀ index moment, point < index → index < last →
      history[index]? = some moment →
        ¬moment.Deletes id ∧
          ∀ other, moment.cause.returned? ≠ some (id, other)

theorem Lodged.append {early : List Moment} {id container : String}
    {point last : Nat} (lodged : Lodged early id container point last)
    (inside : last ≤ early.length) (late : List Moment) :
    Lodged (early ++ late) id container point last := by
  have within {index : Nat} (below : index < last) :
      (early ++ late)[index]? = early[index]? :=
    List.getElem?_append_left (Nat.lt_of_lt_of_le below inside)
  refine ⟨lodged.ordered, ?_, ?_⟩
  · rcases lodged.recorded with ⟨moment, task, here, rest⟩
    exact ⟨moment, task, (within lodged.ordered).trans here, rest⟩
  · intro index moment above below here
    exact lodged.left index moment above below ((within below).symm.trans here)

/-- A container that is returned for a registered id is recorded. -/
theorem Cause.Leads.lodges
    {seconds : Nat} {registry : Registry} {cause : Cause}
    {segment : Segment} {id container : String} {task : Task}
    (leads : Leads seconds registry cause segment)
    (returned : cause.returned? = some (id, container))
    (found : registry.find? id = some task) :
    ∃ new, segment.registry.find? id = some new ∧
      new.containerId = some container := by
  rcases leads.places returned with recorded | dropping
  · exact recorded
  · rcases Cause.returned?_eq_some.mp returned with ⟨seen, rfl⟩
    cases leads with
    | recorded => cases dropping
    | quelling => cases dropping
    | dropping absent => cases found.symm.trans absent

/-- Whatever takes a container out of the record of an id takes the id out, or
is a launch that returns a container for it. -/
theorem Cause.Leads.of_displaces
    {seconds : Nat} {registry : Registry} {cause : Cause}
    {segment : Segment} {id : String}
    (leads : Leads seconds registry cause segment)
    (displaces : cause.Displaces id) :
    segment.registry.find? id = none ∨
      ∃ other, cause.returned? = some (id, other) := by
  cases displaces with
  | replacing => exact .inr ⟨_, rfl⟩
  | forgetting own =>
      cases leads with
      | removed => exact .inl (by simp [Segment.succeed, own])

namespace Run

variable {seconds : Nat} {history : List Moment} {world : World}
  {id container : String} {task : Task}

/-- The container of a live record was put there by a launch. -/
theorem lodged_of_held (run : Run seconds history world)
    (found : world.registry.find? id = some task)
    (live : task.status ≠ .terminated)
    (held : task.containerId = some container) :
    ∃ point, Lodged history id container point history.length := by
  induction run generalizing task with
  | empty => cases found
  | @step history world ticket cause past allowed hypothesis =>
      have leads := Cause.leads_segment seconds world.registry cause
      have inside :
          (history ++ [world.moment seconds ticket cause])[history.length]? =
            some (world.moment seconds ticket cause) := by
        simp
      rw [List.length_append, List.length_singleton]
      by_cases returned : cause.returned? = some (id, container)
      · -- The launch puts it there now.
        cases before : world.registry.find? id with
        | none =>
            rcases leads.writes.of_absent before found with ⟨spec, rfl, _⟩
            cases returned
        | some old =>
            have oldLive : old.status ≠ .terminated := by
              intro ended
              have follows := leads.writes.follows before found
              rw [(follows.of_ended ended).1] at live
              exact live ended
            refine ⟨history.length, Nat.lt_succ_self _,
              ⟨_, old, inside, returned, before, oldLive⟩, ?_⟩
            intro index moment above below
            exact absurd (Nat.le_of_lt_succ below) (Nat.not_le_of_lt above)
      · rcases leads.writes.container found held with
          ⟨old, before, heldBefore, ends⟩ | now
        · rcases hypothesis before (fun ended => live (ends ended)) heldBefore
            with ⟨point, lodged⟩
          have earlier := lodged.append (Nat.le_refl _)
            [world.moment seconds ticket cause]
          refine ⟨point, Nat.lt_succ_of_lt lodged.ordered, earlier.recorded,
            ?_⟩
          intro index moment above below here
          rcases Nat.lt_or_eq_of_le (Nat.le_of_lt_succ below) with
            before' | rfl
          · exact earlier.left index moment above before' here
          · cases inside.symm.trans here
            constructor
            · intro deletes
              cases deletes.2.symm.trans found
            · intro other returned'
              rcases leads.lodges returned' before with ⟨new, stored, placed⟩
              cases found.symm.trans stored
              cases held.symm.trans placed
              exact returned returned'
        · exact absurd now returned

/-- A container that was put into a record is found there later. -/
theorem held_of_lodged (run : Run seconds history world)
    {point last : Nat} {moment : Moment}
    (lodged : Lodged history id container point last)
    (place : history[last]? = some moment) :
    ∃ task, moment.before.find? id = some task ∧
      task.containerId = some container := by
  rcases Nat.exists_eq_add_of_lt lodged.ordered with ⟨gap, rfl⟩
  have left := lodged.left
  induction gap generalizing moment with
  | zero =>
      rcases lodged.recorded with ⟨start, task, here, returned, found, _⟩
      rw [run.before_eq_after here place]
      have member := List.mem_of_getElem? here
      exact (run.leads member).lodges returned found
  | succ gap hypothesis =>
      have inside : point + gap + 1 < history.length :=
        Nat.lt_of_succ_lt (List.getElem?_eq_some_iff.mp place).1
      obtain ⟨middle, here⟩ : ∃ middle, history[point + gap + 1]? = some middle :=
        ⟨_, List.getElem?_eq_getElem inside⟩
      have shorter : Lodged history id container point (point + gap + 1) := by
        refine ⟨by omega, lodged.recorded, ?_⟩
        intro index other above below there
        exact left index other above (Nat.lt_succ_of_lt below) there
      rcases hypothesis shorter here shorter.left with ⟨task, found, held⟩
      have member := List.mem_of_getElem? here
      rw [run.before_eq_after here place]
      rcases (run.leads member).writes.keeps (run.sound_before member) found
          held with
        kept | displaces
      · exact kept
      · have stays := left (point + gap + 1) middle (by omega)
          (Nat.lt_succ_self _) here
        rcases (run.leads member).of_displaces displaces with
          gone | ⟨other, returned⟩
        · have present : middle.before.find? id ≠ none := by
            rw [found]
            exact Option.some_ne_none _
          exact absurd ⟨present, gone⟩ stays.1
        · exact absurd returned (stays.2 other)

end Run

/-! ## What a failed launch ends -/

/-- A launch whose run has failed settles the record that it finds. -/
theorem Cause.Leads.settles
    {seconds : Nat} {registry : Registry} {segment : Segment} {id : String}
    {seen old : Task} {failure : RuntimeFailure}
    (leads : Leads seconds registry
      (.answered (.running id seen) (.error failure)) segment)
    (found : registry.find? id = some old) :
    segment.registry.find? id =
        some (old.settle launchFailureReason failure.text) ∧
      segment.next = .finished (.error (.runtime failure)) := by
  cases leads with
  | failed found' =>
      cases found.symm.trans found'
      exact ⟨by simp [Segment.fail], rfl⟩
  | failedUnknown absent => cases found.symm.trans absent
  | broken later => exact absurd rfl (later id seen)

namespace Run

variable {seconds : Nat} {history : List Moment} {world : World}
  {id : String} {last : Nat} {final : Moment} {seen old : Task}
  {failure : RuntimeFailure}

/-- A container that was returned while a launch waited for its own run belongs
to another launch. -/
theorem returned_elsewhere (run : Run seconds history world)
    (place : history[last]? = some final)
    {reply : Except RuntimeFailure String}
    (answered : final.cause = .answered (.running id seen) reply)
    {point : Nat} {moment : Moment} {other container : String}
    (here : history[point]? = some moment) (earlier : point < last)
    (returned : moment.cause.returned? = some (other, container)) :
    moment.ticket ≠ final.ticket := by
  intro same
  rcases run.at_index place with ⟨early, past, before, allowed, members⟩
  rw [answered] at allowed
  cases allowed with
  | answer waits =>
      have begun := (before.running_begun waits).2 moment
        (members point moment here earlier) same
      rw [begun] at returned
      cases returned

/-- A launch that fails ends a live record without a container, or with one
whose stop was asked for, unless another launch has put its container there and
nobody has asked for its stop. -/
theorem failed_launch_spares (run : Run seconds history world)
    (place : history[last]? = some final)
    (failed : final.cause = .answered (.running id seen) (.error failure))
    (found : final.before.find? id = some old)
    (live : old.status ≠ .terminated) :
    ∃ new, final.after.find? id = some new ∧
      new = old.terminate launchFailureReason failure.text ∧
      ((new.containerId = none ∨
          ∃ container, new.containerId = some container ∧
            StopIssued (history.take last) container) ↔
        ¬∃ container point other,
          Lodged history id container point last ∧
            history[point]? = some other ∧ other.ticket ≠ final.ticket ∧
            ¬StopIssued (history.take last) container) ∧
      (LaunchedOnce history → new.containerId = none) := by
  have member := List.mem_of_getElem? place
  have leads := run.leads member
  rw [failed] at leads
  have settled := (leads.settles found).1
  rw [Task.settle_of_live live] at settled
  refine ⟨_, settled, rfl, ?_, ?_⟩
  · constructor
    · rintro spared ⟨container, point, other, lodged, _, _, unstopped⟩
      rcases run.held_of_lodged lodged place with ⟨task, stored, held⟩
      cases found.symm.trans stored
      rcases spared with bare | ⟨only, kept, stopped⟩
      · cases bare.symm.trans held
      · cases kept.symm.trans held
        exact unstopped stopped
    · intro alone
      cases held : old.containerId with
      | none => exact .inl held
      | some container =>
          refine .inr ⟨container, held, ?_⟩
          by_contra unstopped
          rcases exists_split_of_getElem? place with ⟨early, late, rfl, rfl⟩
          rcases run.split_leads with ⟨past, earlier, _, before, _⟩
          rw [before] at found
          rcases earlier.lodged_of_held found live held with ⟨point, lodged⟩
          have whole := lodged.append (Nat.le_refl _) (final :: late)
          rcases whole.recorded with ⟨other, task, here, returned, _⟩
          exact alone ⟨container, point, other, whole, here,
            run.returned_elsewhere place failed here whole.ordered returned,
            unstopped⟩
  · intro once
    cases held : old.containerId with
    | none => exact held
    | some container =>
        exact absurd
          ⟨final, member, seen, old, failure, failed, found, live, held⟩
          (run.not_endedByFailure once)

end Run

/-! Two launches of one task are under way.  The first one puts its container
into the record and the second one fails; before that, a termination has asked
for the stop. -/

/-- The task that is launched twice. -/
def relaunchedSpec : LaunchSpec where
  id := "a"
  label := "b"

/-- What the runtime says when it cannot start the container. -/
def unstartable : RuntimeFailure :=
  .startContainer "d" "no such device"

/-- A second launch fails while the first container is being stopped. -/
def relaunchedScript : List (Nat × Cause) := [
  (0, .begun (.submit relaunchedSpec)),
  (1, .begun (.launch "a")),
  (2, .begun (.launch "a")),
  (1, .answered (.running "a" (Task.ofSpec relaunchedSpec)) (.ok "c")),
  (3, .begun (.terminate "a" {})),
  (2, .answered (.running "a" (Task.ofSpec relaunchedSpec))
    (.error unstartable))]

theorem relaunchedScript_allowed :
    World.AllowsAll 10 {} relaunchedScript :=
  ⟨.begin (by decide) _, .begin (by decide) _, .begin (by decide) _,
    .answer rfl _, .begin (by decide) _, .answer rfl _, trivial⟩

theorem Run.failed_launch_spares_relaunched :
    ∃ history world final old,
      Run 10 history world ∧ history[5]? = some final ∧
        final.cause =
          .answered (.running "a" (Task.ofSpec relaunchedSpec))
            (.error unstartable) ∧
        final.before.find? "a" = some old ∧ old.status ≠ .terminated ∧
        ∃ new, final.after.find? "a" = some new ∧
          new.containerId = some "c" ∧
          ((new.containerId = none ∨
              ∃ container, new.containerId = some container ∧
                StopIssued (history.take 5) container) ↔
            ¬∃ container point other,
              Lodged history "a" container point 5 ∧
                history[point]? = some other ∧
                other.ticket ≠ final.ticket ∧
                ¬StopIssued (history.take 5) container) := by
  have run : Run 10 (World.play 10 {} relaunchedScript).1 _ :=
    Run.empty.play relaunchedScript_allowed
  have place : (World.play 10 {} relaunchedScript).1[5]? = some _ := rfl
  have found :
      ((World.play 10 {} relaunchedScript).1[5]).before.find? "a" =
        some ((Task.ofSpec relaunchedSpec).started "c") := rfl
  have live : ((Task.ofSpec relaunchedSpec).started "c").status ≠
      .terminated := by
    decide
  rcases Run.failed_launch_spares run place rfl found live with
    ⟨new, stored, rfl, spared, _⟩
  exact ⟨_, _, _, _, run, place, rfl, found, live, _, stored, rfl, spared⟩

/-! Without the termination the container is left running under an ended task.
So it is if the launch that fails is that of an earlier task of the id. -/

/-- A task is ended and removed while it is launched, its id is submitted once
more, and the launch of the first task fails when the second task runs. -/
def outlivedScript : List (Nat × Cause) := [
  (0, .begun (.submit relaunchedSpec)),
  (1, .begun (.launch "a")),
  (2, .begun (.terminate "a" {})),
  (3, .begun (.remove "a")),
  (4, .begun (.submit relaunchedSpec)),
  (5, .begun (.launch "a")),
  (5, .answered (.running "a" (Task.ofSpec relaunchedSpec)) (.ok "c")),
  (1, .answered (.running "a" (Task.ofSpec relaunchedSpec))
    (.error unstartable))]

theorem outlivedScript_allowed : World.AllowsAll 10 {} outlivedScript :=
  ⟨.begin (by decide) _, .begin (by decide) _, .begin (by decide) _,
    .begin (by decide) _, .begin (by decide) _, .begin (by decide) _,
    .answer rfl _, .answer rfl _, trivial⟩

/-- The running task is ended by the failure of a launch that is not its own,
and nobody has asked for the stop of its container. -/
theorem outlived_launch_ends_running :
    ∃ history world final old new,
      Run 10 history world ∧ history[7]? = some final ∧
        final.cause =
          .answered (.running "a" (Task.ofSpec relaunchedSpec))
            (.error unstartable) ∧
        final.before.find? "a" = some old ∧ old.status = .running ∧
        final.after.find? "a" = some new ∧ new.status = .terminated ∧
        new.reason = some launchFailureReason ∧
        new.containerId = some "c" ∧ ¬StopIssued (history.take 7) "c" := by
  refine ⟨_, _, _, _, _, Run.empty.play outlivedScript_allowed, rfl, rfl, rfl,
    rfl, rfl, rfl, rfl, rfl, ?_⟩
  rintro ⟨moment, member, limit, stops⟩
  have listed :
      .stop "c" limit ∈
        ((World.play 10 {} outlivedScript).1.take 7).filterMap
          Moment.call? :=
    List.mem_filterMap.mpr ⟨moment, member, stops⟩
  have calls :
      ((World.play 10 {} outlivedScript).1.take 7).filterMap Moment.call? =
        List.replicate 2 (.run (Task.ofSpec relaunchedSpec)) :=
    rfl
  rw [calls] at listed
  cases (List.mem_replicate.mp listed).2

/-! ## What a failed launch tells -/

/-- Whether a key is taken out between two moments and not entered again before
the second one. -/
def GoneBetween
    (history : List Moment) (key : String) (first last : Nat) : Prop :=
  ∃ gone deletion, first < gone ∧ gone < last ∧
    history[gone]? = some deletion ∧ deletion.Deletes key ∧
    ∀ index entry spec, gone < index → index < last →
      history[index]? = some entry → entry.entered? = some spec →
        spec.id ≠ key

/-- What a launch leaves and answers whose run has failed, from the moment in
which it has begun to its last one. -/
inductive FailureReport (history : List Moment) (id : String)
    (first last : Nat) (final : Moment) (failure : RuntimeFailure) :
    Prop where
  /-- A task of its id is registered.  Its record has ended, by this failure if
  it lived until then and as it was otherwise, and the failure is told. -/
  | told {old new : Task}
      (present : ¬GoneBetween history id first last)
      (found : final.before.find? id = some old)
      (stored : final.after.find? id = some new)
      (ended : new.status = .terminated)
      (marked :
        old.status ≠ .terminated →
          new = old.terminate launchFailureReason failure.text)
      (untouched : old.status = .terminated → new = old)
      (result : final.result? = some (.error (.runtime failure))) :
      FailureReport history id first last final failure
  /-- The task was removed and none was submitted again.  The launch answers
  that it is unknown, and leaves everything as it is. -/
  | concealed
      (gone : GoneBetween history id first last)
      (same : final.after = final.before)
      (result : final.result? = some (.error (.notFound id))) :
      FailureReport history id first last final failure

/-- A launch whose run has failed leaves the registry as it is where its id is
missing. -/
theorem Cause.Leads.conceals
    {seconds : Nat} {registry : Registry} {segment : Segment} {id : String}
    {seen : Task} {failure : RuntimeFailure}
    (leads : Leads seconds registry
      (.answered (.running id seen) (.error failure)) segment)
    (absent : registry.find? id = none) :
    segment.registry = registry ∧
      segment.next = .finished (.error (.notFound id)) := by
  cases leads with
  | failed found => cases found.symm.trans absent
  | failedUnknown => exact ⟨rfl, rfl⟩
  | broken later => exact absurd rfl (later id seen)

namespace Run

variable {seconds : Nat} {history : List Moment} {world : World}
  {key : String}

/-- A key that was there is missing later if and only if it was taken out in
between and not entered again. -/
theorem missing_iff (run : Run seconds history world)
    {first gap : Nat} {task : Task} {moment : Moment}
    (start : recordAfter history first key = some task)
    (place : history[first + gap + 1]? = some moment) :
    moment.before.find? key = none ↔
      GoneBetween history key first (first + gap + 1) := by
  constructor
  · intro missing
    induction gap generalizing moment with
    | zero =>
        rw [run.before_eq_recordAfter place] at missing
        cases start.symm.trans missing
    | succ gap hypothesis =>
        have inside : first + gap + 1 < history.length :=
          Nat.lt_of_succ_lt (List.getElem?_eq_some_iff.mp place).1
        obtain ⟨middle, here⟩ :
            ∃ middle, history[first + gap + 1]? = some middle :=
          ⟨_, List.getElem?_eq_getElem inside⟩
        rw [run.before_eq_after here place] at missing
        cases before : middle.before.find? key with
        | none =>
            rcases hypothesis here before with
              ⟨gone, deletion, above, below, there, deletes, later⟩
            refine ⟨gone, deletion, above, Nat.lt_succ_of_lt below, there,
              deletes, ?_⟩
            intro index entry spec after under at' entered own
            rcases Nat.lt_or_eq_of_le (Nat.le_of_lt_succ under) with
              earlier | rfl
            · exact later index entry spec after earlier at' entered own
            · -- What is entered now would not be missing.
              cases here.symm.trans at'
              have leads := run.leads (List.mem_of_getElem? here)
              rcases Moment.of_entered leads entered with ⟨_, _, stored, _⟩
              rw [stored, own, Registry.find?_insert, if_pos rfl] at missing
              cases missing
        | some old =>
            refine ⟨first + gap + 1, middle, by omega, Nat.lt_succ_self _,
              here, ⟨?_, missing⟩, ?_⟩
            · rw [before]
              exact Option.some_ne_none _
            · intro index entry spec after under
              exact absurd (Nat.le_of_lt_succ under) (Nat.not_le_of_lt after)
  · rintro ⟨gone, deletion, above, below, there, deletes, later⟩
    cases found : moment.before.find? key with
    | none => rfl
    | some stored =>
        have missing : recordAfter history gone key = none := by
          rw [recordAfter, there]
          exact deletes.2
        rcases Nat.exists_eq_add_of_lt below with ⟨rest, last⟩
        rw [last] at place
        rw [run.before_eq_recordAfter place] at found
        rcases run.entered_between missing rest found with
          ⟨index, entry, spec, after, under, at', entered, own⟩
        exact absurd own
          (later index entry spec after (by omega) at' entered)

/-- A launch whose run has failed tells the failure, and its task has ended,
unless the task was removed since the launch began. -/
theorem failed_launch_told (run : Run seconds history world)
    {last : Nat} {final : Moment} {id : String} {seen : Task}
    {failure : RuntimeFailure}
    (place : history[last]? = some final)
    (failed : final.cause = .answered (.running id seen) (.error failure)) :
    ∃ first start, history[first]? = some start ∧
      start.ticket = final.ticket ∧ start.cause = .begun (.launch id) ∧
      start.call? = some (.run seen) ∧
      FailureReport history id first last final failure := by
  rcases run.asked place failed with
    ⟨first, start, below, here, own, next⟩
  have member := List.mem_of_getElem? here
  have beginning := run.leads member
  rcases beginning.of_running next with ⟨begun, seenStored⟩
  have call : start.call? = some (.run seen) := by
    rw [Moment.call?, next]
    rfl
  refine ⟨first, start, here, own, begun, call, ?_⟩
  -- The launch has found a record, and has left it as it was.
  have start' : recordAfter history first id = some seen := by
    refine recordAfter_eq_some.mpr ⟨start, here, ?_⟩
    rw [begun] at beginning
    have kept := beginning.written
    rw [beginning.unwritten next] at kept
    rw [Moment.after, kept]
    exact seenStored
  have leads := run.leads (List.mem_of_getElem? place)
  rw [failed] at leads
  rcases Nat.exists_eq_add_of_lt below with ⟨gap, rfl⟩
  have missing := run.missing_iff start' place
  cases found : final.before.find? id with
  | none =>
      rcases leads.conceals found with ⟨same, next⟩
      exact .concealed (missing.mp found) same (Next.result?_eq_some.mpr next)
  | some old =>
      have present :
          ¬GoneBetween history id first (first + gap + 1) := by
        intro gone
        cases found.symm.trans (missing.mpr gone)
      rcases leads.settles found with ⟨stored, next⟩
      refine .told present found stored (Task.settle_status _ _ _) ?_ ?_
        (Next.result?_eq_some.mpr next)
      · intro live
        exact Task.settle_of_live live _ _
      · intro ended
        exact Task.settle_of_ended ended _ _

end Run

/-! The failure of the first launch is told although the task was removed,
because another task has been submitted under its id; it is the record of the
other task that ends. -/

theorem Run.failed_launch_told_outlived :
    ∃ history world final,
      Run 10 history world ∧ history[7]? = some final ∧
        final.cause =
          .answered (.running "a" (Task.ofSpec relaunchedSpec))
            (.error unstartable) ∧
        ∃ first start, history[first]? = some start ∧
          start.ticket = final.ticket ∧
          start.cause = .begun (.launch "a") ∧
          start.call? = some (.run (Task.ofSpec relaunchedSpec)) ∧
          FailureReport history "a" first 7 final unstartable := by
  have run : Run 10 (World.play 10 {} outlivedScript).1 _ :=
    Run.empty.play outlivedScript_allowed
  have place : (World.play 10 {} outlivedScript).1[7]? = some _ := rfl
  exact ⟨_, _, _, run, place, rfl, Run.failed_launch_told run place rfl⟩

/-! Where no other task was submitted, the failure is not told. -/

/-- A task is ended and removed while it is launched, and its run fails. -/
def forgottenScript : List (Nat × Cause) := [
  (0, .begun (.submit relaunchedSpec)),
  (1, .begun (.launch "a")),
  (2, .begun (.terminate "a" {})),
  (3, .begun (.remove "a")),
  (1, .answered (.running "a" (Task.ofSpec relaunchedSpec))
    (.error unstartable))]

theorem forgottenScript_allowed : World.AllowsAll 10 {} forgottenScript :=
  ⟨.begin (by decide) _, .begin (by decide) _, .begin (by decide) _,
    .begin (by decide) _, .answer rfl _, trivial⟩

/-- The launch answers that its task is unknown, and not that its run has
failed. -/
theorem forgotten_launch_conceals :
    ∃ history world final,
      Run 10 history world ∧ history[4]? = some final ∧
        final.cause =
          .answered (.running "a" (Task.ofSpec relaunchedSpec))
            (.error unstartable) ∧
        final.result? = some (.error (.notFound "a")) ∧
        final.result? ≠ some (.error (.runtime unstartable)) := by
  refine ⟨_, _, _, Run.empty.play forgottenScript_allowed, rfl, rfl, rfl, ?_⟩
  decide

end Workloads
