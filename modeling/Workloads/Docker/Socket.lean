import Workloads.Failure

/-!
# The daemon's socket

Where the daemon listens.  A variable of the environment names the socket by
an address with a scheme; without such an address the usual socket is taken.
A connection needs a socket that exists, and says so before anything is sent.
-/

namespace Workloads.Docker

/-- The scheme of a socket's address. -/
def socketScheme : String :=
  "unix://"

/-- The socket that is taken when none is named. -/
def usualSocket : String :=
  "/var/run/docker.sock"

/-- The path of an address with the scheme of sockets. -/
def socketPath? (address : String) : Option String :=
  if socketScheme.toList.isPrefixOf address.toList then
    some (String.ofList (address.toList.drop socketScheme.length))
  else
    none

/-- The path of the socket that an address names, if any. -/
def socketPath (address : Option String) : String :=
  (address.bind socketPath?).getD usualSocket

/-- Connects to the daemon, given which paths exist. -/
def connect (present : String → Bool) (address : Option String) :
    Except RuntimeFailure Unit :=
  let path := socketPath address
  if present path then .ok ()
  else .error (.connect ("Socket not found: " ++ path))

end Workloads.Docker
