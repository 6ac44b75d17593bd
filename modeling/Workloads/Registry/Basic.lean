import Workloads.Event
import Workloads.Task.Basic

/-!
# The task registry

The tasks on this host by key.  A task is entered under its id and its key
never changes; a change to a stored record may give it another id, so a key
and the id of its record can differ.  Records are handed out by value.
-/

namespace Workloads

/-- The registered tasks by key. -/
abbrev Registry := KeyMap Task

namespace Registry

/-- The record stored under a key. -/
def find? (registry : Registry) (key : String) : Option Task :=
  registry.get? key

/-- Whether a key is present. -/
def has (registry : Registry) (key : String) : Bool :=
  (registry.find? key).isSome

/-- Enters a task under its id unless that key is taken; tells whether it was
entered. -/
def add (registry : Registry) (task : Task) : Bool × Registry :=
  if registry.has task.id then (false, registry)
  else (true, registry.insert task.id task)

/-- Replaces the record stored under the task's id; tells whether there was
one.  It never creates an entry. -/
def update (registry : Registry) (task : Task) : Bool × Registry :=
  if registry.has task.id then (true, registry.insert task.id task)
  else (false, registry)

/-- Changes the record stored under a key, if there is one, and answers the
changed record. -/
def modify (registry : Registry) (key : String) (change : Task → Task) :
    Option Task × Registry :=
  match registry.find? key with
  | none => (none, registry)
  | some task => (some (change task), registry.insert key (change task))

/-- Drops a key. -/
def delete (registry : Registry) (key : String) : Registry :=
  registry.erase key

/-- The present keys in increasing order. -/
def ids (registry : Registry) : List String :=
  registry.keys

/-! ## Operations as values -/

/-- A registry operation.  A modification is given by what its code makes of
a record, which may break off partway. -/
inductive Action where
  | get (key : String)
  | add (task : Task)
  | update (task : Task)
  | modify (key : String) (change : Task → Edited)
  | delete (key : String)
  | count
  | isEmpty
  | ids

/-- What a registry operation answers. -/
inductive Reply where
  | record (task : Option Task)
  | accepted (outcome : Bool)
  | modified (task : Option Task)
  | broken
  | done
  | number (count : Nat)
  | truth (value : Bool)
  | keys (ids : List String)
  deriving DecidableEq

/-- What an operation answers, leaves stored, and reports. -/
structure Outcome where
  reply : Reply
  registry : Registry
  events : List Event := []

/-- Carries out one operation.  A modification that breaks off leaves the
changes it made before. -/
def perform (registry : Registry) : Action → Outcome
  | .get key => { reply := .record (registry.find? key), registry }
  | .add task =>
    let (added, stored) := registry.add task
    { reply := .accepted added
      registry := stored
      events := if added then [] else [.keyTaken task.id] }
  | .update task =>
    let (replaced, stored) := registry.update task
    { reply := .accepted replaced
      registry := stored
      events := if replaced then [] else [.keyMissing task.id] }
  | .modify key change =>
    match registry.find? key with
    | none => { reply := .modified none, registry }
    | some task =>
      let edited := change task
      { reply :=
          if edited.panicked then .broken else .modified (some edited.task)
        registry := registry.insert key edited.task }
  | .delete key => { reply := .done, registry := registry.delete key }
  | .count => { reply := .number registry.size, registry }
  | .isEmpty => { reply := .truth (registry.size == 0), registry }
  | .ids => { reply := .keys registry.ids, registry }

end Registry

end Workloads
