/-!
# The service

What the service calls itself wherever it introduces itself.
-/

namespace Workloads.Service

/-- The name of the service. -/
def name : String :=
  "task-shim"

/-- The version of the service. -/
def version : String :=
  "0.1.0"

/-- What the service is for, in one line. -/
def purpose : String :=
  "Launches and tracks workload containers on this host"

end Workloads.Service
