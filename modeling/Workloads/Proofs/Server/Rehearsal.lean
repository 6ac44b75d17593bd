import Mathlib.Data.Finset.Dedup
import Mathlib.Data.Fintype.EquivFin
import Workloads.Proofs.Server.Submissions
import Workloads.Rehearsal.Host

/-!
# Rehearsals are sessions

A rehearsal decides for itself when a call is answered and when a launch begins.
Whatever it decides, what its host does with requests is a session: the host has
the same tasks, lets the same operations wait, sends the same responses and
makes the same calls.  What holds for sessions therefore holds for rehearsals.
-/

namespace Workloads.Rehearsal

/-! ## What a host shows -/

/-- The party whose operation an owner waits for; an operation that is a step of
its own has none. -/
def Owner.party? : Owner → Option Party
  | .step _ => none
  | .request _ asked endpoint => some (.client asked endpoint)
  | .background _ id => some (.background id)

def Shown.response? : Shown → Option Http.Response
  | .response sent => some sent
  | _ => none

def Sighting.call? : Sighting → Option RuntimeCall
  | .call made => some made
  | .request _ => none

def Backend.isPlanned : Backend → Bool
  | .planned _ => true
  | .driven _ => false

namespace Host

/-- The responses that were sent since the step began. -/
def responses (host : Host) : List Http.Response :=
  host.journal.shown.filterMap (fun entry => entry.2.response?)

/-- The calls that were made since the step began, if the runtime is planned. -/
def calls (host : Host) : List RuntimeCall :=
  host.journal.sightings.filterMap Sighting.call?

/-- The ids whose launches were left for the background. -/
def due (host : Host) : List String :=
  host.journal.launches.map (fun launch => launch.2)

end Host

/-- How a host goes on while these turns come about. -/
structure Goes (host next : Host) (turns : List Turn) : Prop where
  limit : next.stopTimeout = host.stopTimeout
  planned : next.backend.isPlanned = host.backend.isPlanned
  responses :
    next.responses = host.responses ++ turns.filterMap Turn.response?
  calls :
    host.backend.isPlanned = true →
      next.calls = host.calls ++ (moments turns).filterMap Moment.call?

/-- A host goes on without a turn if nothing of this changes. -/
theorem Goes.of_alike {host next : Host}
    (limit : next.stopTimeout = host.stopTimeout)
    (backend : next.backend = host.backend)
    (responses : next.responses = host.responses)
    (calls : next.calls = host.calls) :
    Goes host next [] := by
  constructor
  · exact limit
  · rw [backend]
  · simpa using responses
  · intro planned
    simpa using calls

theorem Goes.refl (host : Host) : Goes host host [] :=
  .of_alike rfl rfl rfl rfl

theorem Goes.trans {first second third : Host} {early late : List Turn}
    (before : Goes first second early) (after : Goes second third late) :
    Goes first third (early ++ late) := by
  constructor
  · rw [after.limit, before.limit]
  · rw [after.planned, before.planned]
  · rw [after.responses, before.responses, List.filterMap_append,
      List.append_assoc]
  · intro planned
    rw [after.calls (before.planned.trans planned), before.calls planned,
      moments_append, List.filterMap_append, List.append_assoc]

/-! ## Operations -/

namespace Host

variable {host : Host} {owner : Owner} {segment : Segment}

/-- The host when the call of a suspended operation has been made. -/
def called (host : Host) (suspension : Suspension) : Host :=
  host.place (host.backend.place suspension.call)

/-- The operation that waits for a call to be let through. -/
def kept (host : Host) (owner : Owner) (suspension : Suspension)
    (gate : String) : Waiting :=
  { gate, owner, suspension
    reply := (host.backend.place suspension.call).reply }

theorem proceed_of_finished {result : Result}
    (next : segment.next = .finished result) :
    host.proceed owner segment =
      (host.absorb segment).conclude result owner := by
  rw [proceed]
  split
  next other =>
    cases next.symm.trans other
    rfl
  next other => cases next.symm.trans other

theorem proceed_of_waiting {suspension : Suspension}
    (next : segment.next = .waiting suspension) :
    host.proceed owner segment =
      let absorbed := host.absorb segment
      let called := absorbed.called suspension
      match called.holds (absorbed.backend.place suspension.call).gate with
      | some gate =>
        { called with
          waiting :=
            (absorbed.kept owner suspension gate).queue called.waiting }
      | none =>
        called.proceed owner
          (suspension.resume called.stopTimeout called.registry.tasks
            (absorbed.backend.place suspension.call).reply) := by
  rw [proceed]
  split
  next other => cases next.symm.trans other
  next other =>
    cases next.symm.trans other
    rfl

/-- What a call changes. -/
theorem called_goes (host : Host) (suspension : Suspension) :
    (host.called suspension).backend.isPlanned = host.backend.isPlanned ∧
      (host.backend.isPlanned = true →
        (host.called suspension).calls = host.calls ++ [suspension.call]) := by
  rcases host with ⟨registry, backend, limit, gates, waiting, journal⟩
  cases backend with
  | planned plans =>
      refine ⟨rfl, ?_⟩
      intro planned
      simp [calls, called, place, Backend.place, Sighting.call?]
  | driven daemon => exact ⟨rfl, nofun⟩

/-- What the end of an operation changes. -/
theorem conclude_goes {party : Party} (host : Host) (result : Result)
    (owned : owner.party? = some party) :
    (host.conclude result owner).registry = host.registry ∧
      (host.conclude result owner).waiting = host.waiting ∧
      (host.conclude result owner).stopTimeout = host.stopTimeout ∧
      (host.conclude result owner).backend = host.backend ∧
      (host.conclude result owner).calls = host.calls ∧
      (host.conclude result owner).responses =
        host.responses ++ (party.response? result).toList ∧
      (host.conclude result owner).due =
        host.due ++ (party.followUp result).toList := by
  cases owner with
  | step number => cases owned
  | request number request endpoint =>
      cases owned
      cases follows : endpoint.followUp result <;>
        simp [conclude, follows, display, calls, responses, due,
          Shown.response?, Party.response?, Party.followUp]
  | background number id =>
      cases owned
      cases result <;>
        simp [conclude, report, calls, responses, due, Party.response?,
          Party.followUp]

end Host

/-! ## Hosts and sessions -/

theorem Waiting.queue_perm (entry : Waiting) (list : List Waiting) :
    (entry.queue list).Perm (entry :: list) := by
  induction list with
  | nil => exact .refl _
  | cons first rest hypothesis =>
      rw [queue]
      split
      · exact (hypothesis.cons first).trans (.swap entry first rest)
      · exact .refl _

/-- Whether a session lets an operation wait as a host does. -/
structure Waiting.Stands (entry : Waiting) (server : Server) (ticket : Nat) :
    Prop where
  owned :
    ∃ party, entry.owner.party? = some party ∧
      server.parties ticket = some party
  waits : server.world.flights ticket = some entry.suspension

/-- A host that stands where a session does.  Some operations have been taken
aside, since it is their turn to go on, and one may be going on. -/
structure Mirrors (seconds : Nat) (turns : List Turn) (server : Server)
    (held : List (Nat × Waiting)) (aside : List Waiting)
    (busy : Option Nat) (host : Host) : Prop where
  session : Session seconds turns server
  limit : host.stopTimeout = seconds
  registry : host.registry.tasks = server.world.registry
  apart : (held.map Prod.fst).Nodup
  waiting : (held.map Prod.snd).Perm (aside ++ host.waiting)
  stands : ∀ ticket entry, (ticket, entry) ∈ held → entry.Stands server ticket
  only :
    ∀ ticket, server.world.flights ticket ≠ none →
      ticket ∈ held.map Prod.fst ∨ busy = some ticket

/-- Whether a host goes on as the session does. -/
def Continues (seconds : Nat) (turns : List Turn) (aside : List Waiting)
    (pending : List String) (host next : Host) : Prop :=
  ∃ later server held,
    Mirrors seconds (turns ++ later) server held aside none next ∧
      server.due.Perm (next.due ++ pending) ∧
      Goes host next later

section

variable {seconds ticket : Nat} {turns : List Turn} {server : Server}
  {held : List (Nat × Waiting)} {aside : List Waiting} {host next : Host}
  {owner : Owner} {party : Party} {cause : Cause} {pending : List String}

/-- The host takes over a segment of the operation that goes on. -/
theorem Mirrors.absorb
    (mirrors : Mirrors seconds turns server held aside (some ticket) host)
    (apart : ticket ∉ held.map Prod.fst)
    (allowed : server.Allows ticket party cause) :
    Mirrors seconds
      (turns ++ [.worked party (server.world.moment seconds ticket cause)])
      (server.advance party (server.world.moment seconds ticket cause))
      held aside (some ticket)
      (host.absorb (cause.segment seconds server.world.registry)) where
  session := mirrors.session.work allowed
  limit := mirrors.limit
  registry := rfl
  apart := mirrors.apart
  waiting := mirrors.waiting
  stands := by
    intro other entry member
    have different : other ≠ ticket := by
      rintro rfl
      exact apart (List.mem_map_of_mem member)
    rcases mirrors.stands other entry member with
      ⟨⟨party, owned, known⟩, waits⟩
    refine ⟨⟨party, owned, ?_⟩, ?_⟩
    · simpa [Server.advance, World.moment, different] using known
    · simpa [World.advance, World.moment, different] using waits
  only := by
    intro other waits
    by_cases same : other = ticket
    · exact .inr (by rw [same])
    · rcases mirrors.only other
          (by simpa [World.advance, World.moment, same] using waits) with
        there | busy
      · exact .inl there
      · exact absurd (Option.some.inj busy).symm same

/-- The host changes in what the session does not tell. -/
theorem Mirrors.congr {busy : Option Nat}
    (mirrors : Mirrors seconds turns server held aside busy host)
    (limit : next.stopTimeout = host.stopTimeout)
    (registry : next.registry = host.registry)
    (waiting : next.waiting = host.waiting) :
    Mirrors seconds turns server held aside busy next where
  session := mirrors.session
  limit := limit.trans mirrors.limit
  registry := registry ▸ mirrors.registry
  apart := mirrors.apart
  waiting := waiting ▸ mirrors.waiting
  stands := mirrors.stands
  only := mirrors.only

/-- The operation that was going on has ended. -/
theorem Mirrors.idle
    (mirrors : Mirrors seconds turns server held aside (some ticket) host)
    (ended : server.world.flights ticket = none) :
    Mirrors seconds turns server held aside none host :=
  { mirrors with
    only := by
      intro other waits
      rcases mirrors.only other waits with there | busy
      · exact .inl there
      · cases busy
        exact absurd ended waits }

/-- The operation that was going on waits. -/
theorem Mirrors.hold {entry : Waiting}
    (mirrors : Mirrors seconds turns server held aside (some ticket) host)
    (apart : ticket ∉ held.map Prod.fst)
    (stands : entry.Stands server ticket) :
    Mirrors seconds turns server ((ticket, entry) :: held) aside none
      { host with waiting := entry.queue host.waiting } where
  session := mirrors.session
  limit := mirrors.limit
  registry := mirrors.registry
  apart := List.nodup_cons.mpr ⟨apart, mirrors.apart⟩
  waiting :=
    (mirrors.waiting.cons entry).trans
      (List.perm_middle.symm.trans
        ((entry.queue_perm host.waiting).symm.append_left aside))
  stands := by
    intro other found member
    rcases List.mem_cons.mp member with own | old
    · cases own
      exact stands
    · exact mirrors.stands other found old
  only := by
    intro other waits
    left
    rcases mirrors.only other waits with there | busy
    · exact List.mem_cons_of_mem _ there
    · cases busy
      exact List.mem_cons_self

/-- The next operation that was taken aside is going on. -/
theorem Mirrors.resume {entry : Waiting} {rest : List Waiting}
    (mirrors :
      Mirrors seconds turns server held (entry :: rest) none host) :
    ∃ ticket fewer,
      Mirrors seconds turns server fewer rest (some ticket) host ∧
        ticket ∉ fewer.map Prod.fst ∧ entry.Stands server ticket := by
  have member : entry ∈ held.map Prod.snd :=
    mirrors.waiting.symm.subset List.mem_cons_self
  rcases List.mem_map.mp member with ⟨⟨ticket, found⟩, inside, rfl⟩
  rcases List.append_of_mem inside with ⟨early, late, rfl⟩
  have stands := mirrors.stands ticket found inside
  have apart := mirrors.apart
  have waiting := mirrors.waiting
  simp only [List.map_append, List.map_cons] at apart waiting
  have fresh := List.nodup_middle.mp apart
  have fewer := (List.perm_middle.symm.trans waiting).cons_inv
  refine ⟨ticket, early ++ late, ?_, ?_, stands⟩
  · exact
      { session := mirrors.session
        limit := mirrors.limit
        registry := mirrors.registry
        apart := by
          rw [List.map_append]
          exact (List.nodup_cons.mp fresh).2
        waiting := by
          rw [List.map_append]
          exact fewer
        stands := by
          intro other next member
          apply mirrors.stands
          rcases List.mem_append.mp member with before | after
          · exact List.mem_append_left _ before
          · exact List.mem_append_right _ (List.mem_cons_of_mem _ after)
        only := by
          intro other waits
          rcases mirrors.only other waits with there | busy
          · simp only [List.map_append, List.map_cons, List.mem_append,
              List.mem_cons] at there ⊢
            rcases there with before | same | after
            · exact .inl (.inl before)
            · exact .inr (by rw [same])
            · exact .inl (.inr after)
          · cases busy }
  · rw [List.map_append]
    exact (List.nodup_cons.mp fresh).1

/-- What a host has done first comes first. -/
theorem Continues.after {middle : Host} {early : List Turn}
    (goes : Goes host middle early)
    (continues : Continues seconds (turns ++ early) aside pending middle next) :
    Continues seconds turns aside pending host next := by
  rcases continues with ⟨later, server, held, mirrors, due, more⟩
  rw [List.append_assoc] at mirrors
  exact ⟨early ++ later, server, held, mirrors, due, goes.trans more⟩

/-- An operation ends in a turn. -/
theorem Goes.of_finished {moment : Moment} {result : Result}
    (owned : owner.party? = some party)
    (next : moment.segment.next = .finished result) :
    Goes host ((host.absorb moment.segment).conclude result owner)
      [.worked party moment] := by
  rcases Host.conclude_goes (host.absorb moment.segment) result owned with
    ⟨_, _, limit, backend, calls, responses, _⟩
  have ended : moment.result? = some result := Next.result?_eq_some.mpr next
  have silent : moment.call? = none := by
    rw [Moment.call?, next]
    rfl
  constructor
  · exact limit
  · rw [backend]
    rfl
  · rw [responses, List.filterMap_cons, Turn.response?, ended]
    cases sent : party.response? result <;> simp [sent]
    all_goals rfl
  · intro planned
    rw [calls]
    simp [silent]
    rfl

/-- An operation waits after a turn. -/
theorem Goes.of_waiting {moment : Moment} {suspension : Suspension}
    (next : moment.segment.next = .waiting suspension) :
    Goes host ((host.absorb moment.segment).called suspension)
      [.worked party moment] := by
  rcases Host.called_goes (host.absorb moment.segment) suspension with
    ⟨backend, calls⟩
  have waits : moment.result? = none := by
    rw [Moment.result?, next]
    rfl
  have made : moment.call? = some suspension.call := by
    rw [Moment.call?, next]
    rfl
  constructor
  · rfl
  · exact backend
  · simp [Turn.response?, waits]
    rfl
  · intro planned
    rw [calls planned]
    simp [made]
    rfl

/-- The operation that goes on ends with its segment. -/
theorem Mirrors.finish {result : Result}
    (mirrors : Mirrors seconds turns server held aside (some ticket) host)
    (apart : ticket ∉ held.map Prod.fst)
    (owned : owner.party? = some party)
    (allowed : server.Allows ticket party cause)
    (due :
      (cause.launched?.elim server.due server.due.erase).Perm
        (host.due ++ pending))
    (next :
      (cause.segment seconds server.world.registry).next =
        .finished result) :
    Continues seconds turns aside pending host
      ((host.absorb
        (cause.segment seconds server.world.registry)).conclude result
          owner) := by
  rcases Host.conclude_goes
      (host.absorb (cause.segment seconds server.world.registry)) result
      owned with
    ⟨registry, waiting, limit, _, _, _, left⟩
  have absorbed := mirrors.absorb apart allowed
  have ended :
      (server.world.moment seconds ticket cause).result? = some result :=
    Next.result?_eq_some.mpr next
  have goes :
      Goes host _
        [.worked party (server.world.moment seconds ticket cause)] :=
    Goes.of_finished owned next
  refine ⟨_, _, held, (absorbed.congr limit registry waiting).idle ?_, ?_,
    goes⟩
  · simp [World.advance, World.moment, next, Next.suspension?]
  · -- What follows the operation joins what is due, in front of the rest.
    have joined := due.append_right (party.followUp result).toList
    rw [Server.advance_due, Server.dueAfter, ended, left]
    refine joined.trans ?_
    rw [List.append_assoc, List.append_assoc]
    exact List.perm_append_comm.append_left _

/-- The operation that goes on makes a call. -/
theorem Mirrors.call {suspension : Suspension}
    (mirrors : Mirrors seconds turns server held aside (some ticket) host)
    (apart : ticket ∉ held.map Prod.fst)
    (allowed : server.Allows ticket party cause)
    (due :
      (cause.launched?.elim server.due server.due.erase).Perm
        (host.due ++ pending))
    (next :
      (cause.segment seconds server.world.registry).next =
        .waiting suspension) :
    ∃ after,
      Mirrors seconds
          (turns ++
            [.worked party (server.world.moment seconds ticket cause)])
          after held aside (some ticket)
          ((host.absorb
            (cause.segment seconds server.world.registry)).called
              suspension) ∧
        after.parties ticket = some party ∧
        after.world.flights ticket = some suspension ∧
        after.due.Perm (host.due ++ pending) := by
  have waits :
      (server.world.moment seconds ticket cause).result? = none := by
    rw [Moment.result?, World.moment, next]
    rfl
  refine ⟨_, (mirrors.absorb apart allowed).congr rfl rfl rfl, ?_,
    World.advance_flights_own server.world next, ?_⟩
  · simp [Server.advance, World.moment]
  · rw [Server.advance_due, Server.dueAfter, waits, Option.bind_none,
      Option.toList_none, List.append_nil]
    exact due

/-- An operation goes on until it ends or waits. -/
theorem Mirrors.proceed
    (mirrors : Mirrors seconds turns server held aside (some ticket) host)
    (apart : ticket ∉ held.map Prod.fst)
    (owned : owner.party? = some party)
    (allowed : server.Allows ticket party cause)
    (due :
      (cause.launched?.elim server.due server.due.erase).Perm
        (host.due ++ pending)) :
    Continues seconds turns aside pending host
      (host.proceed owner (cause.segment seconds server.world.registry)) := by
  -- Each segment leaves fewer calls to make.
  generalize steps :
    (cause.segment seconds server.world.registry).next.depth = depth
  induction depth using Nat.strongRecOn
    generalizing turns server host cause with
  | ind depth hypothesis =>
      cases next : (cause.segment seconds server.world.registry).next with
      | finished result =>
          rw [Host.proceed_of_finished next]
          exact mirrors.finish apart owned allowed due next
      | waiting suspension =>
          have goes :
              Goes host _
                [.worked party
                  (server.world.moment seconds ticket cause)] :=
            Goes.of_waiting next
          rcases mirrors.call apart allowed due next with
            ⟨after, called, known, flies, left⟩
          rw [Host.proceed_of_waiting next]
          dsimp only
          split
          next gate closed =>
            exact ⟨_, _, _,
              called.hold apart ⟨⟨party, owned, known⟩, flies⟩, left,
              ⟨goes.limit, goes.planned, goes.responses, goes.calls⟩⟩
          next through =>
            rw [called.limit, called.registry]
            refine
              (hypothesis _ ?_ called (.answer known flies _) left rfl).after
                goes
            rw [← steps, next]
            exact resume_depth_lt ..

/-- An operation begins. -/
theorem Mirrors.begin {operation : Operation}
    (mirrors : Mirrors seconds turns server held aside none host)
    (owned : owner.party? = some party)
    (allowed :
      ∀ ticket, ticket ∉ server.world.tickets →
        server.Allows ticket party (.begun operation))
    (due :
      ((Cause.begun operation).launched?.elim server.due
        server.due.erase).Perm (host.due ++ pending)) :
    Continues seconds turns aside pending host
      (host.begin owner operation) := by
  rcases Infinite.exists_notMem_finset server.world.tickets.toFinset with
    ⟨ticket, other⟩
  have unused : ticket ∉ server.world.tickets := by
    simpa using other
  have apart : ticket ∉ held.map Prod.fst := by
    intro member
    rcases List.mem_map.mp member with ⟨⟨own, entry⟩, inside, rfl⟩
    have waits := (mirrors.stands own entry inside).waits
    rw [mirrors.session.run.not_waiting unused] at waits
    cases waits
  have busy : Mirrors seconds turns server held aside (some ticket) host :=
    { mirrors with
      only := by
        intro other waits
        rcases mirrors.only other waits with there | nobody
        · exact .inl there
        · cases nobody }
  rw [Host.begin, mirrors.limit, mirrors.registry]
  exact busy.proceed apart owned (allowed ticket unused) due

/-- The operations that were taken aside go on, one after the other. -/
theorem Mirrors.awaken
    (mirrors : Mirrors seconds turns server held aside none host)
    (due : server.due.Perm (host.due ++ pending)) :
    Continues seconds turns [] pending host
      (aside.foldl Host.awaken host) := by
  induction aside generalizing turns server held host with
  | nil =>
      refine ⟨[], server, held, ?_, due, .refl host⟩
      rw [List.append_nil]
      exact mirrors
  | cons entry rest hypothesis =>
      rcases mirrors.resume with ⟨ticket, fewer, busy, apart, stands⟩
      rcases stands.owned with ⟨party, owned, known⟩
      have next :
          Continues seconds turns rest pending host (host.awaken entry) := by
        rw [Host.awaken, mirrors.limit, mirrors.registry]
        exact busy.proceed apart owned (.answer known stands.waits _) due
      rcases next with ⟨early, after, left, mirrors, due, goes⟩
      exact (hypothesis mirrors due).after goes

/-- The launches that were left begin, one after the other. -/
theorem Mirrors.launch {launches : List (Nat × String)}
    (mirrors : Mirrors seconds turns server held [] none host)
    (due :
      server.due.Perm
        (host.due ++ launches.map (fun launch => launch.2))) :
    Continues seconds turns [] [] host
      (launches.foldl
        (fun host (number, id) =>
          host.begin (.background number id) (.launch id)) host) := by
  induction launches generalizing turns server held host with
  | nil =>
      refine ⟨[], server, held, ?_, due, .refl host⟩
      rw [List.append_nil]
      exact mirrors
  | cons launch rest hypothesis =>
      rcases launch with ⟨number, id⟩
      have first := due.trans List.perm_middle
      have present : id ∈ server.due :=
        first.symm.subset List.mem_cons_self
      have fewer := first.erase id
      rw [List.erase_cons_head] at fewer
      have next :
          Continues seconds turns []
            (rest.map (fun launch => launch.2)) host
            (host.begin (.background number id) (.launch id)) :=
        mirrors.begin rfl (fun ticket unused => .launch present unused) fewer
      rcases next with ⟨early, after, left, mirrors, due, goes⟩
      exact (hypothesis mirrors due).after goes

/-- A request is answered at once. -/
theorem Mirrors.reply
    (mirrors : Mirrors seconds turns server held [] none host)
    (due : server.due.Perm (host.due ++ []))
    (number : Nat) (request : Http.Request) {response : Http.Response}
    (answers : request.atOnce? = some response) :
    Continues seconds turns [] [] host
      (host.display number (.response response)) := by
  refine ⟨[.replied request response], server, held, ?_, due, ?_⟩
  · exact { mirrors with session := mirrors.session.reply answers }
  · constructor
    · rfl
    · rfl
    · simp [Host.responses, Host.display, Shown.response?, Turn.response?]
    · intro planned
      simp [Host.calls, Host.display]

/-- A request is answered, or its operation begins. -/
theorem Mirrors.serve
    (mirrors : Mirrors seconds turns server held [] none host)
    (due : server.due.Perm (host.due ++ []))
    (number : Nat) (request : Http.Request) :
    Continues seconds turns [] [] host (host.serve number request) := by
  rw [Host.serve]
  cases understood : request.endpoint with
  | error response =>
      apply mirrors.reply due number request
      rw [Http.Request.atOnce?, understood]
  | ok endpoint =>
      have reported :=
        mirrors.congr
          (Eq.refl (host.report endpoint.announcements).stopTimeout) rfl rfl
      have silent :
          Goes host (host.report endpoint.announcements) [] :=
        .of_alike rfl rfl rfl rfl
      rw [← List.append_nil turns] at reported
      refine Continues.after silent ?_
      dsimp only
      cases asks : endpoint.operation? with
      | none =>
          apply reported.reply due number request
          simp [Http.Request.atOnce?, understood, asks]
      | some operation =>
          have idle : (Cause.begun operation).launched? = none := by
            cases endpoint <;> cases asks <;> rfl
          apply reported.begin rfl
          · intro ticket unused
            exact .ask understood asks unused
          · rw [idle]
            exact due

/-- A gate is opened. -/
theorem Mirrors.release
    (mirrors : Mirrors seconds turns server held [] none host)
    (due : server.due.Perm (host.due ++ pending)) (gate : String) :
    Continues seconds turns [] pending host (host.release gate) := by
  have parted :=
    List.filter_append_perm (fun entry : Waiting => decide (entry.gate = gate))
      host.waiting
  let opened : Host :=
    { host with
      openGates := gate :: host.openGates
      waiting :=
        host.waiting.filter (fun entry => !decide (entry.gate = gate)) }
  have aside :
      Mirrors seconds (turns ++ []) server held
        (host.waiting.filter (fun entry => decide (entry.gate = gate))) none
        opened := by
    rw [List.append_nil]
    exact { mirrors with waiting := mirrors.waiting.trans parted.symm }
  have silent : Goes host opened [] := .of_alike rfl rfl rfl rfl
  rw [Host.release, List.partition_eq_filter_filter]
  exact (aside.awaken due).after silent

end

/-! ## Steps -/

/-- A launch in the background leaves no other launch. -/
theorem Host.proceed_background_due (host : Host) (number : Nat) (id : String)
    (segment : Segment) :
    (host.proceed (.background number id) segment).due = host.due := by
  generalize steps : segment.next.depth = depth
  induction depth using Nat.strongRecOn generalizing host segment with
  | ind depth hypothesis =>
      cases next : segment.next with
      | finished result =>
          rw [Host.proceed_of_finished next]
          cases result <;> rfl
      | waiting suspension =>
          rw [Host.proceed_of_waiting next]
          dsimp only
          split
          next gate closed => rfl
          next through =>
            rw [hypothesis _ ?_ _ _ rfl]
            · rfl
            · rw [← steps, next]
              exact resume_depth_lt ..

/-- No launch is left when those that were left have begun. -/
theorem Host.runLaunches_due (host : Host) : host.runLaunches.due = [] := by
  have kept (launches : List (Nat × String)) (first : Host) :
      (launches.foldl
        (fun host (number, id) =>
          host.begin (.background number id) (.launch id)) first).due =
        first.due := by
    induction launches generalizing first with
    | nil => rfl
    | cons launch rest hypothesis =>
        rw [List.foldl_cons, hypothesis]
        exact Host.proceed_background_due ..
  rw [Host.runLaunches, kept]
  rfl

theorem Host.perform_due (host : Host) (number : Nat) (step : Step) :
    (host.perform number step).due = [] :=
  Host.runLaunches_due _

/-- Whether a step is a client's: a request, or the opening of a gate. -/
def Step.isClient : Step → Bool
  | .request _ | .release _ => true
  | .operation _ | .registry _ | .count => false

section

variable {seconds : Nat} {turns : List Turn} {server : Server}
  {held : List (Nat × Waiting)} {host : Host}

theorem Mirrors.runLaunches
    (mirrors : Mirrors seconds turns server held [] none host)
    (due : server.due.Perm (host.due ++ [])) :
    Continues seconds turns [] [] host host.runLaunches := by
  let cleared : Host :=
    { host with journal := { host.journal with launches := [] } }
  have silent : Goes host cleared [] := .of_alike rfl rfl rfl rfl
  have alike : Mirrors seconds (turns ++ []) server held [] none cleared := by
    rw [List.append_nil]
    exact mirrors.congr rfl rfl rfl
  have left :
      server.due.Perm
        (cleared.due ++
          host.journal.launches.map (fun launch => launch.2)) := by
    simpa [cleared, Host.due] using due
  exact (alike.launch left).after silent

/-- A client's step, with the launches that it leaves. -/
theorem Mirrors.perform {step : Step}
    (mirrors : Mirrors seconds turns server held [] none host)
    (settled : server.due = []) (client : step.isClient = true)
    (number : Nat) :
    Continues seconds turns [] [] { host with journal := {} }
      (host.perform number step) := by
  let fresh : Host := { host with journal := {} }
  have alike : Mirrors seconds turns server held [] none fresh :=
    mirrors.congr rfl rfl rfl
  have due : server.due.Perm (fresh.due ++ []) := by
    rw [settled]
    exact .refl _
  cases step with
  | request request =>
      rcases alike.serve due number request with
        ⟨early, after, held, served, left, goes⟩
      exact (served.runLaunches left).after goes
  | release gate =>
      rcases alike.release due gate with
        ⟨early, after, held, released, left, goes⟩
      let shown : Host := (fresh.release gate).display number .released
      have opened : Mirrors seconds (turns ++ early) after held [] none shown :=
        released.congr rfl rfl rfl
      have unsent : shown.responses = (fresh.release gate).responses := by
        simp [shown, Host.display, Host.responses, Shown.response?]
      have silent : Goes (fresh.release gate) shown [] :=
        .of_alike rfl rfl unsent rfl
      have onward := goes.trans silent
      rw [List.append_nil] at onward
      exact (opened.runLaunches left).after onward
  | operation operation => cases client
  | registry action => cases client
  | count => cases client

/-- Clients' steps, one after the other: the hosts after them send together
what the session sends, and make the calls that it makes. -/
theorem Mirrors.rehearse {steps : List Step}
    (mirrors : Mirrors seconds turns server held [] none host)
    (settled : server.due = [])
    (clients : ∀ step ∈ steps, step.isClient = true) (number : Nat) :
    let hosts := Rehearsal.rehearse host number steps
    ∃ later after,
      Session seconds (turns ++ later) after ∧
        (hosts.getLast?.getD host).registry.tasks = after.world.registry ∧
        hosts.flatMap Host.responses = later.filterMap Turn.response? ∧
        (host.backend.isPlanned = true →
          hosts.flatMap Host.calls =
            (moments later).filterMap Moment.call?) := by
  induction steps generalizing turns server held host number with
  | nil =>
      refine ⟨[], server, ?_, mirrors.registry, rfl, fun _ => rfl⟩
      rw [List.append_nil]
      exact mirrors.session
  | cons step rest hypothesis =>
      rw [List.forall_mem_cons] at clients
      rcases mirrors.perform settled clients.1 number with
        ⟨early, middle, held, performed, left, goes⟩
      have none_due : middle.due = [] := by
        rw [Host.perform_due] at left
        exact left.eq_nil
      rcases hypothesis performed none_due clients.2 (number + 1) with
        ⟨later, after, session, registry, responses, calls⟩
      refine ⟨early ++ later, after, ?_, ?_, ?_, ?_⟩
      · rw [← List.append_assoc]
        exact session
      · rw [Rehearsal.rehearse, List.getLast?_cons]
        exact registry
      · rw [Rehearsal.rehearse, List.flatMap_cons, responses, goes.responses,
          List.filterMap_append]
        rfl
      · intro planned
        rw [Rehearsal.rehearse, List.flatMap_cons,
          calls (goes.planned.trans planned), goes.calls planned,
          moments_append, List.filterMap_append]
        rfl

end

/-- What a rehearsal of clients' steps does is a session: it ends with the
session's tasks, sends its responses in order, and makes its calls in order. -/
theorem rehearse_session (seconds : Nat) (backend : Backend)
    (steps : List Step) (clients : ∀ step ∈ steps, step.isClient = true) :
    let host : Host := { backend, stopTimeout := seconds }
    let hosts := rehearse host 0 steps
    ∃ turns server,
      Session seconds turns server ∧
        (hosts.getLast?.getD host).registry.tasks = server.world.registry ∧
        hosts.flatMap Host.responses = turns.filterMap Turn.response? ∧
        (backend.isPlanned = true →
          hosts.flatMap Host.calls =
            (moments turns).filterMap Moment.call?) := by
  have mirrors :
      Mirrors seconds [] {} [] [] none
        { backend, stopTimeout := seconds } :=
    { session := .empty
      limit := rfl
      registry := rfl
      apart := List.nodup_nil
      waiting := .nil
      stands := fun _ _ member => absurd member List.not_mem_nil
      only := fun _ waits => absurd rfl waits }
  exact mirrors.rehearse rfl clients 0

end Workloads.Rehearsal
