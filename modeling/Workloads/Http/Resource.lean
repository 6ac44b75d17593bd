import Workloads.Http.Path

/-!
# Resources

The paths of the service.  A path is cut at its slashes and compared segment
by segment; a task is named by one segment as it stands in the path.  Neither
the query matters nor the host that may stand in front of the path.
-/

namespace Workloads.Http

/-- What a path leads to; a task is named by its raw segment. -/
inductive Resource where
  | health
  | tasks
  | task (segment : Bytes)
  | termination (segment : Bytes)
  | removal (segment : Bytes)
  deriving DecidableEq, Repr

namespace Resource

/-- The path in front of a query or fragment. -/
def withoutQuery (target : Bytes) : Bytes :=
  target.takeWhile (fun octet => octet ≠ 63 && octet ≠ 35)

/-- Whether an octet may stand in a scheme. -/
def isSchemeOctet (octet : UInt8) : Bool :=
  Bytes.isDigit octet || 97 ≤ Bytes.lower octet && Bytes.lower octet ≤ 122 ||
    [43, 45, 46].contains octet

/-- What follows a scheme and a host, if there are any. -/
def withoutHost (target : Bytes) : Bytes :=
  match target.dropWhile isSchemeOctet with
  | 58 :: 47 :: 47 :: rest =>
    rest.dropWhile (fun octet => octet ≠ 47 && octet ≠ 63 && octet ≠ 35)
  | _ => target

/-- A word of a path. -/
def word (text : String) : Bytes :=
  Bytes.ofText text

/-- The resource of a path's segments; a task of its own needs a name, the
actions on one do not. -/
def ofSegments? : List Bytes → Option Resource
  | [root, first] =>
    if root = word "api" then
      if first = word "healthcheck" then some .health
      else if first = word "tasks" then some .tasks
      else none
    else
      none
  | [root, first, name] =>
    if root = word "api" ∧ first = word "tasks" ∧ name ≠ [] then
      some (.task name)
    else
      none
  | [root, first, name, action] =>
    if root = word "api" ∧ first = word "tasks" then
      if action = word "terminate" then some (.termination name)
      else if action = word "remove" then some (.removal name)
      else none
    else
      none
  | _ => none

/-- The resource that a path leads to. -/
def ofPath? (path : String) : Option Resource :=
  match withoutQuery (withoutHost (Bytes.ofText path)) with
  | [] => none
  | octet :: rest =>
    if octet = Path.slash then ofSegments? (Path.segments rest)
    else none

/-- The methods of a resource, as they are listed to clients. -/
def methods : Resource → List String
  | health | task _ => ["GET", "HEAD"]
  | tasks => ["GET", "HEAD", "POST"]
  | termination _ | removal _ => ["POST"]

end Resource

end Workloads.Http
