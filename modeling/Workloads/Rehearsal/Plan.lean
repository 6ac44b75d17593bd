import Workloads.Worker.Call

/-!
# Planned runtimes

A container runtime that does as it was told beforehand.  For each kind of
call there is a list of plans, used up call by call; a call without a plan
succeeds at once.  A plan may hold a call back at a gate until that gate is
opened.
-/

namespace Workloads.Rehearsal

/-- How one call is answered. -/
structure CallPlan where
  gate : Option String := none
  failure : Option RuntimeFailure := none
  container : Option String := none
  deriving DecidableEq, Repr, Inhabited

/-- The answer that a plan gives to a call; a run without a planned container
names it after the task. -/
def CallPlan.reply (plan : CallPlan) (call : RuntimeCall) : call.Reply :=
  match plan.failure with
  | some failure => .error failure
  | none =>
    match call with
    | .run task => .ok (plan.container.getD ("container-" ++ task.id))
    | .stop _ _ => .ok ()
    | .remove _ => .ok ()

/-- The plans for calls to come. -/
structure RuntimePlan where
  runs : List CallPlan := []
  stops : List CallPlan := []
  removals : List CallPlan := []
  deriving DecidableEq, Repr, Inhabited

/-- The plan for a call, and the plans left for later ones. -/
def RuntimePlan.take (plans : RuntimePlan) :
    RuntimeCall → CallPlan × RuntimePlan
  | .run _ =>
    (plans.runs.headD default, { plans with runs := plans.runs.tail })
  | .stop _ _ =>
    (plans.stops.headD default, { plans with stops := plans.stops.tail })
  | .remove _ =>
    (plans.removals.headD default,
      { plans with removals := plans.removals.tail })

end Workloads.Rehearsal
