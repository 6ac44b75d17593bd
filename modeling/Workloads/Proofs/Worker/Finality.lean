import Workloads.Proofs.Worker.Record

/-!
# Ended tasks stay ended

A task that has ended keeps its status, its reason and its message for as long
as it is registered, whichever operations are under way, and only the launch
that started its container may still name that container in it.  An outcome
shows a record as it was right after one of the operation's own segments; it
can be late, so that two outcomes are compared by the moments of their
records and not by the moments in which they are given.
-/

namespace Workloads

/-! ## Moments by number -/

/-- The record under a key right after the moment with this number. -/
def recordAfter
    (history : List Moment) (index : Nat) (key : String) : Option Task :=
  history[index]?.bind (fun moment => moment.after.find? key)

/-- Whether a moment takes a key out of the registry. -/
def Moment.Deletes (moment : Moment) (key : String) : Prop :=
  moment.before.find? key ≠ none ∧ moment.after.find? key = none

/-- Whether no moment after the first and up to the last takes a key out of
the registry. -/
def KeptBetween
    (history : List Moment) (key : String) (first last : Nat) : Prop :=
  ∀ index moment, first < index → index ≤ last →
    history[index]? = some moment → ¬moment.Deletes key

theorem recordAfter_eq_some
    {history : List Moment} {index : Nat} {key : String} {task : Task} :
    recordAfter history index key = some task ↔
      ∃ moment, history[index]? = some moment ∧
        moment.after.find? key = some task := by
  simp [recordAfter, Option.bind_eq_some_iff]

namespace Run

variable {seconds : Nat} {history : List Moment} {world : World}

theorem registry_eq_after {moment : Moment}
    (run : Run seconds (history ++ [moment]) world) :
    world.registry = moment.after := by
  generalize whole : history ++ [moment] = longer at run
  cases run with
  | empty => simp at whole
  | step past allowed =>
      rcases List.append_inj' whole rfl with ⟨rfl, same⟩
      cases same
      rfl

/-- A moment finds the registry that the moment before has left. -/
theorem before_eq_after (run : Run seconds history world)
    {index : Nat} {first second : Moment}
    (here : history[index]? = some first)
    (next : history[index + 1]? = some second) :
    second.before = first.after := by
  rcases exists_split_of_getElem? next with ⟨early, late, rfl, length⟩
  rcases run.split with ⟨past, earlier, _, same⟩
  have last : early[index]? = some first := by
    rwa [List.getElem?_append_left (by rw [length]; exact Nat.lt_succ_self _)]
      at here
  have whole : early = early.take index ++ [first] := by
    rcases List.getElem?_eq_some_iff.mp last with ⟨inside, rfl⟩
    rw [List.take_append_getElem, ← length, List.take_length]
  rw [whole] at earlier
  rw [same]
  exact earlier.registry_eq_after

/-- A moment finds under a key what the moment before has left there. -/
theorem before_eq_recordAfter (run : Run seconds history world)
    {index : Nat} {moment : Moment} {key : String}
    (place : history[index + 1]? = some moment) :
    moment.before.find? key = recordAfter history index key := by
  have inside : index < history.length :=
    Nat.lt_of_succ_lt (List.getElem?_eq_some_iff.mp place).1
  have here : history[index]? = some history[index] :=
    List.getElem?_eq_getElem inside
  rw [run.before_eq_after here place, recordAfter, here]
  rfl

end Run

/-! ## An ended record -/

/-- What an ended record becomes up to a later moment: all of it stays, except
that a launch may have named its container. -/
structure Task.Stays (history : List Moment) (key : String)
    (first last : Nat) (old new : Task) : Prop where
  frame : new = { old with containerId := new.containerId }
  container :
    new.containerId = old.containerId ∨
      ∃ index moment container, first < index ∧ index ≤ last ∧
        history[index]? = some moment ∧
        moment.cause.returned? = some (key, container) ∧
        new.containerId = some container

namespace Task.Stays

variable {history : List Moment} {key : String} {first last : Nat}
  {old middle new : Task}

theorem refl (history : List Moment) (key : String) (first last : Nat)
    (task : Task) :
    Task.Stays history key first last task task :=
  ⟨rfl, .inl rfl⟩

/-- One more moment. -/
theorem follow {moment : Moment}
    (stays : Task.Stays history key first last old middle)
    (ended : middle.status = .terminated)
    (le : first ≤ last)
    (next : history[last + 1]? = some moment)
    (follows : middle.Follows moment.cause key new) :
    Task.Stays history key first (last + 1) old new := by
  rcases follows.of_ended ended with ⟨frame, container⟩
  constructor
  · rw [frame, stays.frame]
  · rcases container with same | ⟨container, returned, held⟩
    · rw [same]
      rcases stays.container with
        same | ⟨index, moment, container, above, below, rest⟩
      · exact .inl same
      · exact .inr ⟨index, moment, container, above, Nat.le_succ_of_le below,
          rest⟩
    · exact .inr ⟨last + 1, moment, container, Nat.lt_succ_of_le le,
        Nat.le_refl _, next, returned, held⟩

end Task.Stays

namespace Run

variable {seconds : Nat} {history : List Moment} {world : World}

/-- As long as its key is not taken out, an ended record stays. -/
theorem ended_stays (run : Run seconds history world)
    {first : Nat} {key : String} {old : Task}
    (start : recordAfter history first key = some old)
    (ended : old.status = .terminated) (gap : Nat)
    (inside : first + gap < history.length)
    (kept : KeptBetween history key first (first + gap)) :
    ∃ new, recordAfter history (first + gap) key = some new ∧
      Task.Stays history key first (first + gap) old new := by
  induction gap with
  | zero => exact ⟨old, start, .refl ..⟩
  | succ gap hypothesis =>
      rcases hypothesis (Nat.lt_of_succ_lt inside)
          (fun index moment above below =>
            kept index moment above (Nat.le_succ_of_le below)) with
        ⟨middle, stored, stays⟩
      obtain ⟨moment, next⟩ :
          ∃ moment, history[first + gap + 1]? = some moment :=
        ⟨_, List.getElem?_eq_getElem inside⟩
      have before : moment.before.find? key = some middle :=
        (run.before_eq_recordAfter next).trans stored
      have middleEnded : middle.status = .terminated := by
        rw [stays.frame]
        exact ended
      cases after : moment.after.find? key with
      | none =>
          have deleted : moment.Deletes key :=
            ⟨by rw [before]; exact Option.some_ne_none _, after⟩
          exact absurd deleted
            (kept (first + gap + 1) moment
              (Nat.lt_succ_of_le (Nat.le_add_right ..)) (Nat.le_refl _) next)
      | some new =>
          have member : moment ∈ history := List.mem_of_getElem? next
          have follows := (run.leads member).writes.follows before after
          exact ⟨new, recordAfter_eq_some.mpr ⟨moment, next, after⟩,
            stays.follow middleEnded (Nat.le_add_right ..) next follows⟩

/-- Two ended records of one key agree on reason and message, unless the key
was taken out in between. -/
theorem ended_agree (run : Run seconds history world)
    {first last : Nat} {key : String} {old new : Task}
    (start : recordAfter history first key = some old)
    (ended : old.status = .terminated) (le : first ≤ last)
    (finish : recordAfter history last key = some new)
    (kept : KeptBetween history key first last) :
    old.reason = new.reason ∧ old.message = new.message := by
  rcases Nat.exists_eq_add_of_le le with ⟨gap, rfl⟩
  rcases recordAfter_eq_some.mp finish with ⟨moment, place, _⟩
  have inside := (List.getElem?_eq_some_iff.mp place).1
  rcases run.ended_stays start ended gap inside kept with
    ⟨same, stored, stays⟩
  rw [finish] at stored
  cases stored
  rw [stays.frame]
  exact ⟨rfl, rfl⟩

end Run

/-! ## What an outcome shows -/

/-- The task that a suspended operation will show. -/
def Suspension.shown? : Suspension → Option Task
  | quelling task _ _ | stoppingLate task _ _ => some task
  | _ => none

/-- Whether an outcome shows a task. -/
def Moment.Shows (moment : Moment) (task : Task) : Prop :=
  moment.result? = some (.ok (.task task))

/-- Whether a record was stored right after the segment with this number, a
segment of the operation with this ticket. -/
def StoredBy
    (history : List Moment) (ticket index : Nat) (task : Task) : Prop :=
  recordAfter history index task.id = some task ∧
    ∃ moment, history[index]? = some moment ∧ moment.ticket = ticket

namespace Cause.Leads

variable {seconds : Nat} {registry : Registry} {cause : Cause}
  {segment : Segment} {task : Task}

/-- A task that is kept for the outcome is stored when it is put aside. -/
theorem kept_stored (leads : Leads seconds registry cause segment)
    (sound : ∀ key task, registry.find? key = some task → task.Sound key)
    {suspension : Suspension}
    (next : segment.next = .waiting suspension)
    (shown : suspension.shown? = some task) :
    segment.registry.find? task.id = some task := by
  cases leads <;> cases next <;> cases shown
  case stoppingLate found held other =>
    simp [Segment.await, StopRequest.settle, (sound _ _ found).keyed]
  case quelling found ended =>
    simp [Segment.await, (sound _ _ found).keyed]

/-- A shown task is stored at the end, or was put aside for the outcome. -/
theorem shown_stored (leads : Leads seconds registry cause segment)
    (sound : ∀ key task, registry.find? key = some task → task.Sound key)
    (next : segment.next = .finished (.ok (.task task))) :
    segment.registry.find? task.id = some task ∨
      ∃ suspension reply, cause = .answered suspension reply ∧
        suspension.shown? = some task := by
  cases leads <;> cases next
  case submitted absent =>
    left
    simp [Segment.succeed, Task.ofSpec]
  case got found =>
    left
    simpa [Segment.succeed, (sound _ _ found).keyed] using found
  case endedBefore found ended =>
    left
    simpa [Segment.succeed, (sound _ _ found).keyed] using found
  case endedBare found live bare =>
    left
    simp [Segment.succeed, StopRequest.settle, (sound _ _ found).keyed]
  case recorded found live =>
    left
    simp [Segment.succeed, (sound _ _ found).keyed]
  case stopped found accounted =>
    left
    simp [Segment.succeed, StopRequest.settle, (sound _ _ found).keyed]
  case stoppedLate => exact .inr ⟨_, _, rfl, rfl⟩
  case quelled => exact .inr ⟨_, _, rfl, rfl⟩

end Cause.Leads

theorem StoredBy.append
    {history : List Moment} {ticket index : Nat} {task : Task}
    (stored : StoredBy history ticket index task) (late : List Moment) :
    StoredBy (history ++ late) ticket index task := by
  rcases stored with ⟨record, moment, place, same⟩
  rcases recordAfter_eq_some.mp record with ⟨_, place', found⟩
  have place'' : (history ++ late)[index]? = some moment := by
    rw [List.getElem?_append_left (List.getElem?_eq_some_iff.mp place).1]
    exact place
  cases place.symm.trans place'
  exact ⟨recordAfter_eq_some.mpr ⟨moment, place'', found⟩,
    moment, place'', same⟩

/-- The last moment of a history, as the origin of a record. -/
theorem StoredBy.last
    {history : List Moment} {moment : Moment} {task : Task}
    (found : moment.after.find? task.id = some task) :
    StoredBy (history ++ [moment]) moment.ticket history.length task := by
  have place : (history ++ [moment])[history.length]? = some moment := by
    simp
  exact ⟨recordAfter_eq_some.mpr ⟨moment, place, found⟩,
    moment, place, rfl⟩

namespace Run

variable {seconds : Nat} {history : List Moment} {world : World}

/-- A task that is put aside for an outcome was stored right after a segment
of its operation. -/
theorem waiting_stored (run : Run seconds history world)
    {ticket : Nat} {suspension : Suspension} {task : Task}
    (waits : world.flights ticket = some suspension)
    (shown : suspension.shown? = some task) :
    ∃ index, StoredBy history ticket index task := by
  induction run with
  | empty => cases waits
  | @step history world own cause past allowed hypothesis =>
      rcases World.flights_advance waits with
        ⟨rfl, next⟩ | ⟨other, earlier⟩
      · have leads := Cause.leads_segment seconds world.registry cause
        exact ⟨_, StoredBy.last (leads.kept_stored past.sound next shown)⟩
      · rcases hypothesis earlier with ⟨index, stored⟩
        exact ⟨index, StoredBy.append stored _⟩

/-- A shown task was stored right after a segment of the operation that shows
it. -/
theorem shown_stored (run : Run seconds history world)
    {index : Nat} {moment : Moment} {task : Task}
    (place : history[index]? = some moment) (shows : moment.Shows task) :
    ∃ origin, origin ≤ index ∧
      StoredBy history moment.ticket origin task := by
  rcases exists_split_of_getElem? place with ⟨early, late, rfl, rfl⟩
  rcases run.split with ⟨past, earlier, allowed, _⟩
  have member := List.mem_of_getElem? place
  have leads := run.leads member
  have next : moment.segment.next = .finished (.ok (.task task)) :=
    Next.result?_eq_some.mp shows
  rw [List.append_cons early moment late]
  rcases leads.shown_stored (run.sound_before member) next with
    stored | ⟨suspension, reply, answered, shown⟩
  · exact ⟨early.length, Nat.le_refl _,
      StoredBy.append (StoredBy.last stored) late⟩
  · rw [answered] at allowed
    cases allowed with
    | answer waits reply =>
        rcases earlier.waiting_stored waits shown with ⟨origin, stored⟩
        have ⟨_, _, inside, _⟩ := stored
        have below := (List.getElem?_eq_some_iff.mp inside).1
        refine ⟨origin, Nat.le_of_lt below, ?_⟩
        exact StoredBy.append (StoredBy.append stored [moment]) late

end Run

/-! ## Operations on ended tasks -/

namespace Cause.Leads

variable {seconds : Nat} {registry : Registry} {cause : Cause}
  {segment : Segment}

/-- No segment warns of a status that would move back. -/
theorem quiet (leads : Leads seconds registry cause segment)
    (id : String) (source target : Status) :
    Event.outOfOrder id source target ∉ segment.events := by
  cases leads <;>
    simp [Segment.succeed, Segment.fail, Segment.await]

/-- A termination of an ended task ends at once and shows the task as it
is. -/
theorem terminate_ended {id : String} {request : StopRequest} {task : Task}
    (leads : Leads seconds registry (.begun (.terminate id request)) segment)
    (found : registry.find? id = some task)
    (ended : task.status = .terminated) :
    segment.next = .finished (.ok (.task task)) ∧
      segment.registry = registry := by
  cases leads with
  | unknown target absent =>
      cases target
      cases found.symm.trans absent
  | endedBefore found' ended' =>
      cases found.symm.trans found'
      exact ⟨rfl, rfl⟩
  | endedBare found' live bare =>
      cases found.symm.trans found'
      exact absurd ended live
  | stopping found' live held =>
      cases found.symm.trans found'
      exact absurd ended live

/-- Only a removal that begins on a task that has not ended complains about
it. -/
theorem of_notTerminated {id : String}
    (leads : Leads seconds registry cause segment)
    (next : segment.next = .finished (.error (.notTerminated id))) :
    ∃ key task, cause = .begun (.remove key) ∧
      registry.find? key = some task ∧ task.status ≠ .terminated := by
  cases leads <;> cases next
  case refused found live => exact ⟨_, _, rfl, found, live⟩

end Cause.Leads

/-! ## The first end counts -/

/-- What a history says about ended tasks. -/
structure EndsForGood (history : List Moment) : Prop where
  /-- A stored status never moves back. -/
  forward :
    ∀ moment ∈ history, ∀ key old new,
      moment.before.find? key = some old →
      moment.after.find? key = some new →
        old.status.mayBecome new.status = true
  /-- So there is never a warning that one would. -/
  quiet :
    ∀ moment ∈ history, ∀ id source target,
      Event.outOfOrder id source target ∉ moment.segment.events
  /-- An ended record stays as it is for as long as its key is there; only a
  launch may name its container. -/
  stays :
    ∀ first last key old, first ≤ last → last < history.length →
      recordAfter history first key = some old →
      old.status = .terminated →
      KeptBetween history key first last →
        ∃ new, recordAfter history last key = some new ∧
          Task.Stays history key first last old new
  /-- Every outcome shows a record that was stored during its operation. -/
  stored :
    ∀ index moment task, history[index]? = some moment →
      moment.Shows task →
        ∃ origin, origin ≤ index ∧
          StoredBy history moment.ticket origin task
  /-- Two outcomes that show one task ended agree, unless its key was taken
  out between the moments of their records. -/
  agree :
    ∀ first ∈ history, ∀ second ∈ history, ∀ old new left right,
      first.Shows old → second.Shows new → old.id = new.id →
      old.status = .terminated → new.status = .terminated →
      StoredBy history first.ticket left old →
      StoredBy history second.ticket right new →
      KeptBetween history old.id (min left right) (max left right) →
        old.reason = new.reason ∧ old.message = new.message
  /-- A termination that finds its task ended shows it as it is, without a
  call. -/
  again :
    ∀ moment ∈ history, ∀ id request task,
      moment.cause = .begun (.terminate id request) →
      moment.before.find? id = some task →
      task.status = .terminated →
        moment.Shows task ∧ moment.call? = none ∧
          moment.after = moment.before
  /-- A removal that finds its task ended never complains that it has not. -/
  removable :
    ∀ first ∈ history, ∀ last ∈ history, ∀ id task other,
      first.cause = .begun (.remove id) →
      first.before.find? id = some task →
      task.status = .terminated →
      last.ticket = first.ticket →
        last.result? ≠ some (.error (.notTerminated other))

/-- Ended is for good, and the first end counts. -/
theorem Run.endsForGood {seconds : Nat} {history : List Moment}
    {world : World} (run : Run seconds history world) :
    EndsForGood history := by
  constructor
  · intro moment member key old new before after
    exact ((run.leads member).writes.follows before after).mayBecome
  · intro moment member id source target
    exact (run.leads member).quiet id source target
  · intro first last key old le inside start ended kept
    rcases Nat.exists_eq_add_of_le le with ⟨gap, rfl⟩
    exact run.ended_stays start ended gap inside kept
  · intro index moment task place shows
    exact run.shown_stored place shows
  · intro first _ second _ old new left right _ _ same oldEnded newEnded
      oldStored newStored kept
    have oldRecord := oldStored.1
    have newRecord := newStored.1
    rw [← same] at newRecord
    rcases Nat.le_total left right with le | le
    · rw [Nat.min_eq_left le, Nat.max_eq_right le] at kept
      exact run.ended_agree oldRecord oldEnded le newRecord kept
    · rw [Nat.min_eq_right le, Nat.max_eq_left le] at kept
      rcases run.ended_agree newRecord newEnded le oldRecord kept with
        ⟨reason, message⟩
      exact ⟨reason.symm, message.symm⟩
  · intro moment member id request task begun found ended
    have leads := run.leads member
    rw [begun] at leads
    rcases leads.terminate_ended found ended with ⟨next, same⟩
    refine ⟨?_, ?_, same⟩
    · simp [Moment.Shows, Moment.result?, next, Next.result?]
    · simp [Moment.call?, next, Next.suspension?]
  · intro first firstMember last lastMember id task other begun found ended
      ticket complains
    have next := Next.result?_eq_some.mp complains
    rcases (run.leads lastMember).of_notTerminated next with
      ⟨key, stored, begun', found', live⟩
    have same : last = first :=
      run.begun_unique lastMember firstMember begun' begun ticket
    subst last
    rw [begun] at begun'
    cases begun'
    cases found.symm.trans found'
    exact live ended

/-! A launch may answer late: its task ended while it was starting, so it
waits for its container to stop; meanwhile the task is removed, another is
submitted under the same id, and that one ends for another reason. -/

/-- The task that is launched in the script. -/
def overtakenSpec : LaunchSpec where
  id := "a"
  label := "b"

/-- The record that the launch leaves. -/
def overtakenTask : Task :=
  { Task.ofSpec overtakenSpec with
    status := .terminated
    containerId := some "c"
    reason := some "first"
    message := some "" }

/-- A script in which a launch answers after its task is gone. -/
def overtakenScript : List (Nat × Cause) := [
  (0, .begun (.submit overtakenSpec)),
  (1, .begun (.launch "a")),
  (2, .begun (.terminate "a" { reason := some "first" })),
  (1, .answered (.running "a" (Task.ofSpec overtakenSpec)) (.ok "c")),
  (3, .begun (.remove "a")),
  (3, .answered (.removing overtakenTask "c") (.ok ())),
  (4, .begun (.submit overtakenSpec)),
  (5, .begun (.terminate "a" { reason := some "second" })),
  (1, .answered (.quelling overtakenTask "c" 10) (.ok ()))]

theorem overtakenScript_allowed :
    World.AllowsAll 10 {} overtakenScript :=
  ⟨.begin (by decide) _, .begin (by decide) _, .begin (by decide) _,
    .answer rfl _, .begin (by decide) _, .answer rfl _,
    .begin (by decide) _, .begin (by decide) _, .answer rfl _, trivial⟩

theorem Run.endsForGood_overtaken :
    Run 10 (World.play 10 {} overtakenScript).1
        (World.play 10 {} overtakenScript).2 ∧
      EndsForGood (World.play 10 {} overtakenScript).1 := by
  have run := Run.empty.play overtakenScript_allowed
  exact ⟨run, Run.endsForGood run⟩

/-- Outcomes compared by the moments in which they are given need not agree:
the termination for the second reason ends first, the launch shows the first
reason right after it, and nothing is removed in between. -/
theorem late_outcome_disagrees :
    ∃ history world first second old new,
      Run 10 history world ∧
      history[7]? = some first ∧ history[8]? = some second ∧
      first.Shows old ∧ second.Shows new ∧
      old.id = "a" ∧ new.id = "a" ∧
      old.status = .terminated ∧ new.status = .terminated ∧
      KeptBetween history "a" 7 8 ∧
      old.reason = some "second" ∧ new.reason = some "first" := by
  refine ⟨_, _, _, _, _, _, Run.empty.play overtakenScript_allowed,
    rfl, rfl, rfl, rfl, rfl, rfl, rfl, rfl, ?_, rfl, rfl⟩
  intro index moment above below place
  obtain rfl : index = 8 := Nat.le_antisymm below above
  cases place
  exact fun deletes => deletes.1 deletes.2

end Workloads
