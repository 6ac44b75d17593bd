/-!
# Task status

A task is pending until its container runs, running until it is ended, and
terminated for good.  Statuses may stay as they are and may move forward, and a
launch that fails ends a task that never ran.
-/

namespace Workloads

/-- Where a task stands in its life. -/
inductive Status where
  | pending
  | running
  | terminated
  deriving DecidableEq, Repr, Inhabited

namespace Status

/-- A terminated task never changes status again. -/
def isFinal : Status → Bool
  | terminated => true
  | _ => false

/-- Position in the life of a task. -/
def rank : Status → Nat
  | pending => 0
  | running => 1
  | terminated => 2

/-- A task may keep its status or move forward, never back. -/
def mayBecome (source target : Status) : Bool :=
  source.rank ≤ target.rank

/-- The word for a status in messages and reports. -/
def word : Status → String
  | pending => "pending"
  | running => "running"
  | terminated => "terminated"

/-- All statuses in the order of a task's life. -/
def all : List Status :=
  [pending, running, terminated]

/-- The status that a word names. -/
def ofWord? (text : String) : Option Status :=
  all.find? (fun status => status.word = text)

@[simp]
theorem isFinal_iff (status : Status) :
    status.isFinal = true ↔ status = terminated := by
  cases status <;> simp [isFinal]

/-- Only a terminated task may not become running. -/
theorem mayBecome_running (status : Status) :
    status.mayBecome running = !status.isFinal := by
  cases status <;> rfl

end Status

end Workloads
