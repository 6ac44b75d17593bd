import Workloads.Docker.Client
import Workloads.Docker.Pull

/-!
# A daemon of replies

A daemon that has its replies ready, and what a client hears of them: the items
of the stream that replies to a pull, and success or a fault of any other
reply.
-/

namespace Workloads.Docker

/-- A daemon by what it has ready for each request that comes: a reply, or
nothing, and then it accepts the request.  So it does when all is used up. -/
structure Daemon where
  replies : List (Option Reply) := []

/-- What a willing daemon replies to a request. -/
def Request.accepted : Request → Reply
  | .pull _ =>
    { status := 200
      body := Bytes.ofText "\x7b\"status\":\"Pulling\"\x7d\n" }
  | .create _ _ =>
    { status := 201
      body :=
        Bytes.ofText "\x7b\"Id\":\"c0ffee\",\"Warnings\":[]\x7d" }
  | _ => { status := 204 }

/-- The daemon's reply to a request, and the daemon after it. -/
def Daemon.answer (daemon : Daemon) (request : Request) :
    Reply × Daemon :=
  match daemon.replies with
  | [] => (request.accepted, daemon)
  | reply :: rest =>
    (reply.getD request.accepted, { replies := rest })

/-- What is heard of a reply. -/
def Request.heard : (request : Request) → Reply → request.Answer
  | .pull _, reply => reply.pullItems
  | .create _ _, reply => reply.created.mapError DaemonFault.text
  | .start _, reply | .stop _ _, reply | .remove _, reply =>
    reply.acknowledgement.mapError DaemonFault.text

instance : Client Daemon where
  ask request daemon :=
    let (reply, later) := daemon.answer request
    (request.heard reply, later)

end Workloads.Docker
