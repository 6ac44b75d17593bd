import Workloads.Docker.Blueprint
import Workloads.Http.Path
import Workloads.Http.Query

/-!
# Requests to the daemon

The five requests that a container's life takes, and how each is addressed.
A stop timeout is a signed word for the daemon, to which a negative one means
waiting for ever; a longer time is therefore cut to the largest such word.
-/

namespace Workloads.Docker

/-- A request to the daemon. -/
inductive Request where
  | pull (image : String)
  | create (name : String) (blueprint : Blueprint)
  | start (container : String)
  | stop (container : String) (seconds : Int64)
  | remove (container : String)
  deriving DecidableEq

/-- The longest stop timeout that the daemon is sent. -/
def longestGrace : Nat :=
  0x7FFFFFFFFFFFFFFF

/-- The stop timeout that the daemon is sent, as a signed word. -/
def grace (seconds : Nat) : Int64 :=
  if seconds ≤ longestGrace then Int64.ofNat seconds else Int64.maxValue

/-! ## Addresses -/

/-- Whether an octet of a path is written by number: controls, space, what is
not ASCII, and the signs that would end or confuse a path. -/
def isEscaped (octet : UInt8) : Bool :=
  octet ≤ 32 || 127 ≤ octet || [34, 60, 62, 96, 123, 125].contains octet

/-- One octet of a path as it is sent. -/
def pathOctet (octet : UInt8) : List Char :=
  if isEscaped octet then
    '%' :: (Bytes.hexPair octet).map Char.toUpper
  else
    [Char.ofNat octet.toNat]

/-- A container and an action on it as they stand in an address, up to a
number sign.  Controls and spaces at the end vanish, and so do tabs and line
breaks anywhere. -/
def containerPlace (container action : String) : Bytes :=
  let octets := Bytes.ofText (container ++ action)
  let trimmed :=
    (octets.reverse.dropWhile (fun octet => octet ≤ 32)).reverse
  (trimmed.filter
    (fun octet => octet ≠ 9 && octet ≠ 10 && octet ≠ 13)).takeWhile
      (fun octet => octet ≠ 35)

/-- The path to a container, or to an action on it: it ends at a question
mark, and segments of dots are followed within it. -/
def containerPath (container action : String) : String :=
  let path :=
    (containerPlace container action).takeWhile (fun octet => octet ≠ 63)
  let resolved := Http.Path.resolve (Bytes.ofText "containers/" ++ path)
  "/" ++ String.ofList (resolved.flatMap pathOctet)

/-- The query behind the question mark that a container may hold. -/
def containerQuery (container action : String) : List (String × String) :=
  Http.Query.sorted
    (Http.Query.pairs
      (((containerPlace container action).dropWhile
        (fun octet => octet ≠ 63)).drop 1))

namespace Request

/-- The method of a request. -/
def method : Request → String
  | remove _ => "DELETE"
  | _ => "POST"

/-- The path of a request. -/
def path : Request → String
  | pull _ => "/images/create"
  | create _ _ => "/containers/create"
  | start container => containerPath container "/start"
  | stop container _ => containerPath container "/stop"
  | remove container => containerPath container ""

/-- The query of a request, in increasing order; one that a request brings
itself takes the place of that of a container. -/
def query : Request → List (String × String)
  | pull image =>
    [("fromImage", image), ("fromSrc", ""), ("platform", ""),
      ("repo", ""), ("tag", "")]
  | create name _ => [("name", name)]
  | start container => containerQuery container "/start"
  | stop _ seconds => [("t", toString seconds)]
  | remove _ => [("force", "true"), ("link", "false"), ("v", "false")]

/-- The body of a request, if it has one. -/
def body : Request → Option Bytes
  | create _ blueprint => some blueprint.write
  | _ => none

end Request

end Workloads.Docker
