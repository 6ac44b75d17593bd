/-!
# Failures

What can go wrong between a client and its container: the container runtime
fails at one of its calls, or a task is not in the state an operation needs.
Each cause has one wording.
-/

namespace Workloads

/-- A failure of the container runtime, with the subject of the call. -/
inductive RuntimeFailure where
  | connect (reason : String)
  | pullImage (image reason : String)
  | createContainer (name reason : String)
  | startContainer (container reason : String)
  | stopContainer (container reason : String)
  | removeContainer (container reason : String)
  deriving DecidableEq, Repr

/-- The wording of a runtime failure. -/
def RuntimeFailure.text : RuntimeFailure → String
  | connect reason => "failed to connect to docker: " ++ reason
  | pullImage image reason =>
    "failed to pull image " ++ image ++ ": " ++ reason
  | createContainer name reason =>
    "failed to create container " ++ name ++ ": " ++ reason
  | startContainer container reason =>
    "failed to start container " ++ container ++ ": " ++ reason
  | stopContainer container reason =>
    "failed to stop container " ++ container ++ ": " ++ reason
  | removeContainer container reason =>
    "failed to remove container " ++ container ++ ": " ++ reason

/-- Why an operation on a task gave no result. -/
inductive TaskError where
  | alreadyExists (id : String)
  | notFound (id : String)
  | notTerminated (id : String)
  | runtime (failure : RuntimeFailure)
  deriving DecidableEq, Repr

/-- The wording of a task error; a runtime failure keeps its own. -/
def TaskError.text : TaskError → String
  | alreadyExists id => "task " ++ id ++ " already exists"
  | notFound id => "task " ++ id ++ " not found"
  | notTerminated id => "task " ++ id ++ " is not terminated"
  | runtime failure => failure.text

end Workloads
