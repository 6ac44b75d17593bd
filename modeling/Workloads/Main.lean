import Workloads.Startup.Outcome

/-!
# The command line

Reads the arguments and the variables of a start, looks for the daemon's
socket, and writes what the start comes to.  Carrying requests from and to a
connection is left to the host: a service that has started ends here with
exit code zero.
-/

namespace Workloads

/-- The variables of a start that are set. -/
def readEnvironment : IO (KeyMap String) := do
  let mut environment : KeyMap String := ∅
  for name in Startup.variableNames do
    if let some value ← IO.getEnv name then
      environment := environment.insert name value
  return environment

/-- Whether a path exists; what exists but cannot be opened does. -/
def isPresent (path : String) : IO Bool := do
  try
    let _ ← IO.FS.Handle.mk path .read
    return true
  catch failure =>
    match failure with
    | .noFileOrDirectory .. => return false
    | _ => return true

end Workloads

/-- Starts the service. -/
def main (arguments : List String) : IO UInt32 := do
  let environment ← Workloads.readEnvironment
  let socket :=
    Workloads.Docker.socketPath
      (environment.get? Workloads.Startup.daemonVariable)
  let present ← Workloads.isPresent socket
  let outcome :=
    Workloads.Startup.start (fun path => present && path == socket)
      arguments environment
  for line in outcome.output do
    IO.println line
  for line in outcome.errors do
    IO.eprintln line
  return (outcome.exitCode.getD 0).toUInt32
