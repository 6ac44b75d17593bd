import Workloads.Startup.Host

/-!
# Binding to an address

What comes of binding to an address on a host that may use every numeric
address, can ask nobody for the address of another host, and keeps the ports
below 1024 to the privileged.  The port stands behind the last colon and is
read before the host is looked at.
-/

namespace Workloads.Startup

/-- Why an address cannot be bound to. -/
inductive BindFault where
  | noPort
  | badPort
  | badHost
  | noHost
  | unknownHost
  | notPermitted
  deriving DecidableEq, Repr

/-- The wording of a bind fault. -/
def BindFault.text : BindFault → String
  | noPort => "invalid socket address"
  | badPort => "invalid port value"
  | badHost => "file name contained an unexpected NUL byte"
  | noHost =>
    "failed to lookup address information: Name or service not known"
  | unknownHost =>
    "failed to lookup address information: " ++
      "Temporary failure in name resolution"
  | notPermitted => "Permission denied (os error 13)"

/-- A text cut at its last colon, if it has one. -/
def cutAtLastColon (text : String) : Option (String × String) :=
  let reversed := text.toList.reverse
  match reversed.dropWhile (fun letter => letter ≠ ':') with
  | [] => none
  | _ :: front =>
    let back := reversed.takeWhile (fun letter => letter ≠ ':')
    some (String.ofList front.reverse, String.ofList back.reverse)

/-! ## Binding -/

/-- The largest port. -/
def largestPort : Nat :=
  65535

/-- The first port that needs no privilege, zero apart. -/
def firstFreePort : Nat :=
  1024

/-- Binds to an address; port zero stands for any free port. -/
def bind (address : String) : Except BindFault Unit :=
  match cutAtLastColon address with
  | none => .error .noPort
  | some (host, digits) =>
    match Numeral.readUnsigned largestPort digits with
    | .error _ => .error .badPort
    | .ok port =>
      if host.toList.contains '\x00' then .error .badHost
      else if Host.isKnown host then
        if 0 < port ∧ port < firstFreePort then .error .notPermitted
        else .ok ()
      else if Host.isName host then .error .unknownHost
      else .error .noHost

end Workloads.Startup
