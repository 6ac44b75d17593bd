import Workloads.Proofs.Server.Submissions
import Workloads.Proofs.Worker.Protocol

/-!
# Containers under unique ids

Clients are asked to give every task an id of its own.  As long as they do,
the service handles every container in order, whatever the runtime answers and
whichever requests are under way at the same time.
-/

namespace Workloads

/-- Where no id is accepted twice and every run names a new container, a
container is run once for its task, then stopped, then removed, and every state
of the session shows how far it has come. -/
theorem Session.containers_in_order {seconds : Nat}
    {early late : List Turn} {server : Server}
    (session : Session seconds (early ++ late) server)
    (once : AcceptedOnce (moments (early ++ late)))
    (fresh : Fresh (moments (early ++ late))) :
    ContainerProtocol (moments early)
      (Server.follow {} early).world.registry := by
  rw [moments_append] at once fresh
  have past := session.beginning
  exact past.run.containerProtocol (past.launchedOnce once.of_append)
    fresh.of_append

/-! A task can end while it is being launched. -/

/-- The record that the launch leaves. -/
def quelledTask : Task :=
  { Task.ofSpec Sample.spec with
    status := .terminated
    containerId := some "c"
    reason := some defaultReason
    message := some "" }

/-- A task is submitted, ended while its container starts, and removed. -/
def quelledScript : List (Nat × Party × Cause) := [
  (0, Sample.submitter, .begun (.submit Sample.spec)),
  (1, Sample.launcher, .begun (.launch "a")),
  (2, Sample.terminator, .begun (.terminate "a" {})),
  (1, Sample.launcher,
    .answered (.running "a" (Task.ofSpec Sample.spec)) (.ok "c")),
  (1, Sample.launcher, .answered (.quelling quelledTask "c" 10) (.ok ())),
  (3, Sample.remover, .begun (.remove "a")),
  (3, Sample.remover, .answered (.removing quelledTask "c") (.ok ()))]

theorem quelledScript_allowed :
    Server.AllowsAll 10 {} quelledScript :=
  ⟨Sample.submitter_allowed (by decide),
    .launch (by decide) (by decide),
    Sample.terminator_allowed (by decide),
    .answer rfl rfl _, .answer rfl rfl _,
    Sample.remover_allowed (by decide), .answer rfl rfl _, trivial⟩

def quelledServer : Server :=
  (Server.play 10 {} quelledScript).2

def quelledTurns : List Turn :=
  (Server.play 10 {} quelledScript).1

theorem Session.containers_in_order_quelled :
    Session 10 quelledTurns quelledServer ∧
      AcceptedOnce (moments quelledTurns) ∧
      Fresh (moments quelledTurns) ∧
      ContainerProtocol (moments quelledTurns)
        quelledServer.world.registry := by
  have session : Session 10 (quelledTurns ++ []) quelledServer :=
    Session.empty.play quelledScript_allowed
  have once : AcceptedOnce (moments (quelledTurns ++ [])) := by
    unfold AcceptedOnce
    decide
  have fresh : Fresh (moments (quelledTurns ++ [])) := by
    unfold Fresh
    decide
  have ordered := Session.containers_in_order session once fresh
  rw [List.append_nil] at session once fresh
  rw [session.follow_eq] at ordered
  exact ⟨session, once, fresh, ordered⟩

end Workloads
