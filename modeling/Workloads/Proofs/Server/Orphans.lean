import Workloads.Proofs.Server.Submissions
import Workloads.Proofs.Worker.Orphans
import Workloads.Proofs.Worker.Removal

/-!
# Orphans and reused ids

An id may be submitted again once its task was removed.  The service stays in
order if by then nothing of the earlier task is under way any more: neither its
launch nor a removal of its container.  Otherwise what is still under way works
on the later task instead, and a container can be left to itself.
-/

namespace Workloads

namespace Server

/-- Whether a launch of an id is due or waits for its run. -/
def Launching (server : Server) (id : String) : Prop :=
  id ∈ server.due ∨
    ∃ ticket seen, server.world.flights ticket = some (.running id seen)

/-- Whether a removal waits that will forget an id. -/
def Removing (server : Server) (id : String) : Prop :=
  ∃ ticket task container, task.id = id ∧
    server.world.flights ticket = some (.removing task container)

/-- Whether nothing is under way. -/
def Quiescent (server : Server) : Prop :=
  server.due = [] ∧ ∀ ticket, server.world.flights ticket = none

theorem Quiescent.enters {server : Server}
    (quiescent : server.Quiescent) (id : String) :
    ¬server.Launching id ∧ ¬server.Removing id := by
  rcases quiescent with ⟨nothing, quiet⟩
  constructor
  · rintro (due | ⟨ticket, seen, waits⟩)
    · rw [nothing] at due
      cases due
    · cases (quiet ticket).symm.trans waits
  · rintro ⟨ticket, task, container, _, waits⟩
    cases (quiet ticket).symm.trans waits

/-- Whether no task is entered in these turns while a launch or a removal of
its id is under way. -/
def Orderly (server : Server) : List Turn → Prop
  | [] => True
  | .replied _ _ :: rest => server.Orderly rest
  | .worked party moment :: rest =>
      (∀ id, moment.accepts? = some id →
          ¬server.Launching id ∧ ¬server.Removing id) ∧
        (server.advance party moment).Orderly rest

theorem orderly_append {server : Server} {early late : List Turn} :
    server.Orderly (early ++ late) ↔
      server.Orderly early ∧ (server.follow early).Orderly late := by
  induction early generalizing server with
  | nil => simp [Orderly, follow]
  | cons turn rest hypothesis =>
      cases turn with
      | replied request response => exact hypothesis
      | worked party moment =>
          simp only [List.cons_append, Orderly, follow, hypothesis, and_assoc]

/-! ## What an orderly service keeps -/

/-- What holds between the turns of an orderly session. -/
structure Tidy (server : Server) : Prop where
  /-- A launch is due once, -/
  dueOnce : server.due.Nodup
  /-- and no other one waits for the run of its id then. -/
  dueAlone :
    ∀ id ∈ server.due, ∀ ticket seen,
      server.world.flights ticket ≠ some (.running id seen)
  /-- At most one launch of an id waits for its run. -/
  runOnce :
    ∀ id left right first second,
      server.world.flights left = some (.running id first) →
      server.world.flights right = some (.running id second) →
        left = right
  /-- As long as a launch is to come, its record holds no container. -/
  bare :
    ∀ id task, server.Launching id →
      server.world.registry.find? id = some task →
        task.containerId = none
  /-- A removal waits for the container of the record that it forgets. -/
  removing :
    ∀ ticket gone container task,
      server.world.flights ticket = some (.removing gone container) →
      server.world.registry.find? gone.id = some task →
        task.containerId = some container

/-- Nothing is under way in the beginning. -/
theorem tidy_empty : Server.Tidy {} := by
  constructor
  · exact List.nodup_nil
  · intro id due
    cases due
  · intro id left right first second waits
    cases waits
  · intro id task launching found
    cases found
  · intro ticket gone container task waits
    cases waits

end Server

/-- A record that is new was entered by a submission. -/
theorem Moment.accepts_of_entered
    {seconds : Nat} {registry : Registry} {moment : Moment} {id : String}
    {task : Task}
    (leads : moment.cause.Leads seconds registry moment.segment)
    (before : registry.find? id = none)
    (after : moment.after.find? id = some task) :
    moment.accepts? = some id := by
  rcases Moment.entered_of_new leads before after with
    ⟨spec, entered, rfl, _⟩
  rw [accepts?_eq, entered, Option.map_some]

/-- A removal that ends forgets its record. -/
theorem Cause.Leads.forgets
    {seconds : Nat} {registry : Registry} {segment : Segment}
    {gone : Task} {container : String} {reply : Unit}
    (leads : Leads seconds registry
      (.answered (.removing gone container) (.ok reply)) segment) :
    segment.registry.find? gone.id = none := by
  cases leads with
  | removed => simp [Segment.succeed]

namespace Session

variable {seconds : Nat} {turns : List Turn} {server : Server}
  {ticket : Nat} {party : Party} {cause : Cause} {id : String}

/-- A launch is due after a segment if it was due before and does not begin
now, or if its task is entered now. -/
theorem due_after (session : Session seconds turns server)
    (allowed : server.Allows ticket party cause)
    (due : id ∈ (server.advance party
      (server.world.moment seconds ticket cause)).due) :
    (id ∈ server.due ∧
        (server.due.Nodup → cause ≠ .begun (.launch id))) ∨
      (server.world.moment seconds ticket cause).accepts? = some id := by
  rw [Server.advance_due, Server.dueAfter, session.followUp_eq allowed]
    at due
  rcases List.mem_append.mp due with old | new
  · left
    cases launched : cause.launched? with
    | none =>
        simp only [World.moment, launched, Option.elim] at old
        refine ⟨old, ?_⟩
        rintro - rfl
        cases launched
    | some key =>
        simp only [World.moment, launched, Option.elim] at old
        refine ⟨List.mem_of_mem_erase old, ?_⟩
        rintro nodup rfl
        cases launched
        exact nodup.not_mem_erase old
  · right
    simpa using new

/-- A launch that waits for its run after a segment did so before, or begins
now because it was due. -/
theorem running_after
    (allowed : server.Allows ticket party cause)
    {other : Nat} {seen : Task}
    (waits : (server.advance party
      (server.world.moment seconds ticket cause)).world.flights other =
        some (.running id seen)) :
    (other = ticket ∧ cause = .begun (.launch id) ∧ id ∈ server.due) ∨
      (other ≠ ticket ∧
        server.world.flights other = some (.running id seen)) := by
  rcases World.flights_advance waits with ⟨same, next⟩ | ⟨apart, earlier⟩
  · left
    have leads := Cause.leads_segment seconds server.world.registry cause
    have begun := (leads.of_running next).1
    exact ⟨same, begun,
      allowed.launch_due (Cause.launched?_eq_some.mpr begun)⟩
  · exact .inr ⟨apart, earlier⟩

/-- A launch is to come after a segment if it was before, or if its task is
entered now. -/
theorem launching_after (session : Session seconds turns server)
    (allowed : server.Allows ticket party cause)
    (launching : (server.advance party
      (server.world.moment seconds ticket cause)).Launching id) :
    server.Launching id ∨
      (server.world.moment seconds ticket cause).accepts? = some id := by
  rcases launching with due | ⟨other, seen, waits⟩
  · rcases session.due_after allowed due with ⟨old, _⟩ | new
    · exact .inl (.inl old)
    · exact .inr new
  · rcases running_after allowed waits with ⟨_, _, due⟩ | ⟨_, earlier⟩
    · exact .inl (.inl due)
    · exact .inl (.inr ⟨other, seen, earlier⟩)

/-- Once the run of a launch is answered, no launch of its id is to come. -/
theorem launching_over (session : Session seconds turns server)
    (tidy : server.Tidy) {seen : Task}
    {reply : Except RuntimeFailure String}
    (allowed :
      server.Allows ticket party (.answered (.running id seen) reply)) :
    ¬(server.advance party (server.world.moment seconds ticket
      (.answered (.running id seen) reply))).Launching id := by
  rintro (due | ⟨other, first, waits⟩)
  · rcases session.due_after allowed due with ⟨old, _⟩ | new
    · cases allowed with
      | answer known waits => exact tidy.dueAlone id old _ _ waits
    · cases new
  · rcases running_after allowed waits with ⟨_, begun, _⟩ | ⟨apart, earlier⟩
    · cases begun
    · cases allowed with
      | answer known waits =>
          exact apart (tidy.runOnce id _ _ _ _ earlier waits)

/-- A record stays bare as long as a launch is to come. -/
theorem bare_step (session : Session seconds turns server)
    (tidy : server.Tidy) (allowed : server.Allows ticket party cause)
    {task : Task}
    (launching : (server.advance party
      (server.world.moment seconds ticket cause)).Launching id)
    (found : (server.advance party
      (server.world.moment seconds ticket cause)).world.registry.find? id =
        some task) :
    task.containerId = none := by
  have leads := Cause.leads_segment seconds server.world.registry cause
  cases held : task.containerId with
  | none => rfl
  | some container =>
      exfalso
      rcases leads.writes.container found held with
        ⟨old, before, heldBefore, _⟩ | returned
      · rcases session.launching_after allowed launching with was | accepted
        · cases heldBefore.symm.trans (tidy.bare id old was before)
        · rcases Moment.of_accepts leads accepted with
            ⟨_, _, _, absent, _⟩
          cases before.symm.trans absent
      · rcases Cause.returned?_eq_some.mp returned with ⟨seen, rfl⟩
        exact session.launching_over tidy allowed launching

/-- A removal goes on waiting for the container of its record. -/
theorem removing_step (session : Session seconds turns server)
    (tidy : server.Tidy) (allowed : server.Allows ticket party cause)
    (orderly : ∀ id,
      (server.world.moment seconds ticket cause).accepts? = some id →
        ¬server.Removing id)
    {other : Nat} {gone task : Task} {container : String}
    (waits : (server.advance party
      (server.world.moment seconds ticket cause)).world.flights other =
        some (.removing gone container))
    (found : (server.advance party
      (server.world.moment seconds ticket cause)).world.registry.find?
        gone.id = some task) :
    task.containerId = some container := by
  have leads := Cause.leads_segment seconds server.world.registry cause
  rcases World.flights_advance waits with ⟨_, next⟩ | ⟨_, earlier⟩
  · rcases leads.of_removal session.run.sound next with
      ⟨_, seen, _, held, unchanged⟩
    rw [← unchanged] at seen
    cases found.symm.trans seen
    exact held
  · cases before : server.world.registry.find? gone.id with
    | none =>
        have accepted := Moment.accepts_of_entered leads before found
        exact absurd ⟨other, gone, container, rfl, earlier⟩
          (orderly gone.id accepted)
    | some old =>
        have held := tidy.removing other gone container old earlier before
        rcases leads.writes.keeps session.run.sound before held with
          ⟨new, found', held'⟩ | displaces
        · cases found.symm.trans found'
          exact held'
        · exfalso
          revert displaces
          generalize gone.id = key at before found
          intro displaces
          cases displaces with
          | replacing =>
              cases allowed with
              | answer known running =>
                  have bare :=
                    tidy.bare key old (.inr ⟨ticket, _, running⟩) before
                  cases held.symm.trans bare
          | forgetting own =>
              subst own
              cases found.symm.trans leads.forgets

/-- No launch is due twice. -/
theorem dueOnce_step (session : Session seconds turns server)
    (tidy : server.Tidy) (allowed : server.Allows ticket party cause)
    (orderly : ∀ id,
      (server.world.moment seconds ticket cause).accepts? = some id →
        ¬server.Launching id) :
    (server.advance party
      (server.world.moment seconds ticket cause)).due.Nodup := by
  have less :
      (cause.launched?.elim server.due server.due.erase).Sublist
        server.due := by
    cases cause.launched? with
    | none => exact List.Sublist.refl _
    | some key => exact List.erase_sublist
  rw [Server.advance_due, Server.dueAfter, session.followUp_eq allowed]
  cases accepted :
      (server.world.moment seconds ticket cause).accepts? with
  | none =>
      rw [Option.toList, List.append_nil]
      exact tidy.dueOnce.sublist less
  | some id =>
      apply List.nodup_append.mpr
      refine ⟨tidy.dueOnce.sublist less, List.nodup_singleton id, ?_⟩
      intro old member new own same
      rw [same, List.mem_singleton.mp own] at member
      exact orderly id accepted (.inl (less.subset member))

/-- A turn that is in order keeps the service tidy. -/
theorem tidy_step (session : Session seconds turns server)
    (tidy : server.Tidy) (allowed : server.Allows ticket party cause)
    (orderly : ∀ id,
      (server.world.moment seconds ticket cause).accepts? = some id →
        ¬server.Launching id ∧ ¬server.Removing id) :
    (server.advance party
      (server.world.moment seconds ticket cause)).Tidy := by
  constructor
  · exact session.dueOnce_step tidy allowed
      (fun id accepted => (orderly id accepted).1)
  · intro id due other seen waits
    rcases session.due_after allowed due with ⟨old, again⟩ | new
    · rcases running_after allowed waits with ⟨_, begun, _⟩ | ⟨_, earlier⟩
      · exact again tidy.dueOnce begun
      · exact tidy.dueAlone id old other seen earlier
    · rcases running_after allowed waits with ⟨_, _, due⟩ | ⟨_, earlier⟩
      · exact (orderly id new).1 (.inl due)
      · exact (orderly id new).1 (.inr ⟨other, seen, earlier⟩)
  · intro id left right first second leftWaits rightWaits
    rcases running_after allowed leftWaits with
      ⟨leftOwn, _, leftDue⟩ | ⟨_, leftEarlier⟩ <;>
      rcases running_after allowed rightWaits with
        ⟨rightOwn, _, rightDue⟩ | ⟨_, rightEarlier⟩
    · rw [leftOwn, rightOwn]
    · exact absurd rightEarlier (tidy.dueAlone id leftDue right second)
    · exact absurd leftEarlier (tidy.dueAlone id rightDue left first)
    · exact tidy.runOnce id left right first second leftEarlier rightEarlier
  · intro id task launching found
    exact session.bare_step tidy allowed launching found
  · intro other gone container task waits found
    exact session.removing_step tidy allowed
      (fun id accepted => (orderly id accepted).2) waits found

/-- The service stays tidy in an orderly session. -/
theorem tidy (session : Session seconds turns server)
    (orderly : Server.Orderly {} turns) : server.Tidy := by
  induction session with
  | empty => exact Server.tidy_empty
  | reply past answers hypothesis =>
      exact hypothesis (Server.orderly_append.mp orderly).1
  | work past allowed hypothesis =>
      rcases Server.orderly_append.mp orderly with ⟨before, last, _⟩
      rw [past.follow_eq] at last
      exact past.tidy_step (hypothesis before) allowed last

/-- No container is left to itself in an orderly session. -/
theorem not_stranded (session : Session seconds turns server)
    (orderly : Server.Orderly {} turns) (container : String) :
    ¬Stranded (moments turns) server.world.registry container := by
  intro stranded
  cases stranded with
  | @displaced early late moment id task split displaces found held
      unstopped unremoved =>
      rcases session.split_moments split with
        ⟨first, party, rest, past, rfl, rfl, earlier, allowed, same⟩
      have tidy := earlier.tidy (Server.orderly_append.mp orderly).1
      rw [same] at found
      generalize moment.cause = cause at allowed displaces
      cases displaces with
      | replacing =>
          cases allowed with
          | answer known waits =>
              have bare := tidy.bare id task (.inr ⟨_, _, waits⟩) found
              cases held.symm.trans bare
      | @forgetting gone other reply own =>
          subst own
          cases allowed with
          | answer known waits =>
              have mine := tidy.removing _ gone other task waits found
              cases held.symm.trans mine
              exact unremoved (earlier.run.remove_issued waits rfl)
  | @ended id task found ended held unstopped unremoved =>
      rcases session.run.ended_stopped found ended held with
        stopped | ⟨moment, member, seen, old, failure, failed, before, live,
          heldBefore⟩
      · exact unstopped stopped
      · rcases List.append_of_mem member with ⟨early, late, split⟩
        rcases session.split_moments split with
          ⟨first, party, rest, past, rfl, rfl, earlier, allowed, same⟩
        have tidy := earlier.tidy (Server.orderly_append.mp orderly).1
        rw [same] at before
        rw [failed] at allowed
        cases allowed with
        | answer known waits =>
            have bare := tidy.bare id old (.inr ⟨_, _, waits⟩) before
            cases heldBefore.symm.trans bare

/-- Once nothing is under way, the containers that are up are those of the
running records, unless some container is left to itself; and none is if no id
is reused while a launch or a removal of it is under way. -/
theorem accounted (session : Session seconds turns server)
    (fresh : Fresh (moments turns)) (compliant : Compliant (moments turns))
    (quiescent : server.Quiescent) :
    (Accounted (moments turns) server.world.registry ↔
        ∀ container,
          ¬Stranded (moments turns) server.world.registry container) ∧
      (Server.Orderly {} turns →
        Accounted (moments turns) server.world.registry) := by
  have exactly :=
    session.run.accounted_iff fresh compliant quiescent.2
  refine ⟨exactly, ?_⟩
  intro orderly
  exact exactly.mpr (session.not_stranded orderly)

end Session

/-! Ids may be reused in order. -/

/-- The record of a task that has run and ended. -/
def endedTask : Task :=
  { Task.ofSpec Sample.spec with
    status := .terminated
    containerId := some "c"
    reason := some defaultReason
    message := some "" }

/-- A task runs, is ended and removed. -/
def endedScript : List (Nat × Party × Cause) := [
  (0, Sample.submitter, .begun (.submit Sample.spec)),
  (1, Sample.launcher, .begun (.launch "a")),
  (1, Sample.launcher,
    .answered (.running "a" (Task.ofSpec Sample.spec)) (.ok "c")),
  (2, Sample.terminator, .begun (.terminate "a" {})),
  (2, Sample.terminator, .answered (.stopping "a" {} "c" 10) (.ok ())),
  (3, Sample.remover, .begun (.remove "a")),
  (3, Sample.remover, .answered (.removing endedTask "c") (.ok ()))]

/-- Then its id is submitted once more. -/
def reusedScript : List (Nat × Party × Cause) := [
  (4, Sample.submitter, .begun (.submit Sample.spec)),
  (5, Sample.launcher, .begun (.launch "a")),
  (5, Sample.launcher,
    .answered (.running "a" (Task.ofSpec Sample.spec)) (.ok "d"))]

def endedServer : Server :=
  (Server.play 10 {} endedScript).2

def reusedServer : Server :=
  (endedServer.play 10 reusedScript).2

def reusedTurns : List Turn :=
  (Server.play 10 {} endedScript).1 ++ (endedServer.play 10 reusedScript).1

theorem endedScript_allowed : Server.AllowsAll 10 {} endedScript :=
  ⟨Sample.submitter_allowed (by decide),
    .launch (by decide) (by decide), .answer rfl rfl _,
    Sample.terminator_allowed (by decide), .answer rfl rfl _,
    Sample.remover_allowed (by decide), .answer rfl rfl _, trivial⟩

theorem reusedScript_allowed : endedServer.AllowsAll 10 reusedScript :=
  ⟨Sample.submitter_allowed (by decide),
    .launch (by decide) (by decide), .answer rfl rfl _, trivial⟩

theorem endedServer_quiescent : endedServer.Quiescent :=
  ⟨rfl,
    (Session.empty.play endedScript_allowed).run.quiet_of_tickets
      (by decide)⟩

theorem reusedTurns_orderly : Server.Orderly {} reusedTurns := by
  apply Server.orderly_append.mpr
  constructor
  · exact ⟨fun id _ => Server.Quiescent.enters ⟨rfl, fun _ => rfl⟩ id,
      nofun, nofun, nofun, nofun, nofun, nofun, trivial⟩
  · have ended :
        Session 10 (Server.play 10 {} endedScript).1 endedServer :=
      Session.empty.play endedScript_allowed
    rw [ended.follow_eq]
    exact ⟨fun id _ => endedServer_quiescent.enters id, nofun, nofun,
      trivial⟩

theorem Session.accounted_reused :
    Session 10 reusedTurns reusedServer ∧
      Fresh (moments reusedTurns) ∧
      Compliant (moments reusedTurns) ∧
      reusedServer.Quiescent ∧
      Server.Orderly {} reusedTurns ∧
      Accounted (moments reusedTurns) reusedServer.world.registry := by
  have session : Session 10 reusedTurns reusedServer :=
    (Session.empty.play endedScript_allowed).play reusedScript_allowed
  have fresh : Fresh (moments reusedTurns) := by
    unfold Fresh
    decide
  have compliant : Compliant (moments reusedTurns) :=
    .of_no_failure rfl
  have quiescent : reusedServer.Quiescent :=
    ⟨rfl, session.run.quiet_of_tickets (by decide)⟩
  exact ⟨session, fresh, compliant, quiescent, reusedTurns_orderly,
    (Session.accounted session fresh compliant quiescent).2
      reusedTurns_orderly⟩

/-! They may not be reused while the earlier launch is still under way. -/

/-- A task is ended and removed while it is launched, its id is submitted
once more, and then the runs of both launches are answered. -/
def overlappingScript : List (Nat × Party × Cause) := [
  (0, Sample.submitter, .begun (.submit Sample.spec)),
  (1, Sample.launcher, .begun (.launch "a")),
  (2, Sample.terminator, .begun (.terminate "a" {})),
  (3, Sample.remover, .begun (.remove "a")),
  (4, Sample.submitter, .begun (.submit Sample.spec)),
  (5, Sample.launcher, .begun (.launch "a")),
  (1, Sample.launcher,
    .answered (.running "a" (Task.ofSpec Sample.spec)) (.ok "c")),
  (5, Sample.launcher,
    .answered (.running "a" (Task.ofSpec Sample.spec)) (.ok "d"))]

theorem overlappingScript_allowed :
    Server.AllowsAll 10 {} overlappingScript :=
  ⟨Sample.submitter_allowed (by decide),
    .launch (by decide) (by decide),
    Sample.terminator_allowed (by decide),
    Sample.remover_allowed (by decide),
    Sample.submitter_allowed (by decide),
    .launch (by decide) (by decide), .answer rfl rfl _, .answer rfl rfl _,
    trivial⟩

def overlappingServer : Server :=
  (Server.play 10 {} overlappingScript).2

def overlappingTurns : List Turn :=
  (Server.play 10 {} overlappingScript).1

/-- The container of the first launch keeps running, and no record knows
it. -/
theorem overlapping_launch_strands :
    Session 10 overlappingTurns overlappingServer ∧
      Fresh (moments overlappingTurns) ∧
      Compliant (moments overlappingTurns) ∧
      overlappingServer.Quiescent ∧
      ¬Accounted (moments overlappingTurns)
        overlappingServer.world.registry := by
  have session : Session 10 overlappingTurns overlappingServer :=
    Session.empty.play overlappingScript_allowed
  have fresh : Fresh (moments overlappingTurns) := by
    unfold Fresh
    decide
  refine ⟨session, fresh, .of_no_failure rfl,
    ⟨rfl, session.run.quiet_of_tickets (by decide)⟩, ?_⟩
  intro accounted
  have returned : Returned (moments overlappingTurns) "a" "c" :=
    ⟨_, List.mem_of_getElem? (i := 6) rfl, rfl⟩
  -- No stop and no removal was ever asked for.
  have only :
      ∀ call moment, moment ∈ moments overlappingTurns →
        moment.cause.completed? = some call →
          call = .run (Task.ofSpec Sample.spec) := by
    intro call moment member completed
    have listed :
        call ∈ (moments overlappingTurns).filterMap
          (fun moment => moment.cause.completed?) :=
      List.mem_filterMap.mpr ⟨moment, member, completed⟩
    have calls :
        (moments overlappingTurns).filterMap
            (fun moment => moment.cause.completed?) =
          List.replicate 2 (.run (Task.ofSpec Sample.spec)) :=
      rfl
    rw [calls] at listed
    exact (List.mem_replicate.mp listed).2
  have unstopped : ¬StopDone (moments overlappingTurns) "c" := by
    rintro ⟨moment, member, limit, stopped⟩
    cases only _ moment member stopped
  have unremoved : ¬RemoveDone (moments overlappingTurns) "c" := by
    rintro ⟨moment, member, removed⟩
    cases only _ moment member removed
  rcases (accounted.running "c").mp ⟨⟨"a", returned⟩, unstopped, unremoved⟩
    with ⟨id, task, found, _, held⟩
  have own : id = "a" :=
    fresh.owner_eq (session.run.held_returned found held) returned
  have stored :
      overlappingServer.world.registry.find? "a" =
        some { Task.ofSpec Sample.spec with
          status := .running
          containerId := some "d" } :=
    rfl
  rw [own, stored] at found
  cases found
  exact absurd held (by decide)

end Workloads
