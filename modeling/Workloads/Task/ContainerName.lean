import Workloads.Text.Digest

/-!
# Container names

A container is named after its task: the task's label, a dash, and the first
eight hexadecimal digits of a digest of label and id.  The suffix separates
tasks of one label; refusing a name that is taken is the container runtime's
business.
-/

namespace Workloads.ContainerName

/-- The text whose digest distinguishes tasks of one label. -/
def seed (label id : String) : String :=
  label ++ "/" ++ id

/-- The digest of a label and an id. -/
def digest (label id : String) : Vector UInt8 32 :=
  Text.Digest.sha256 (Bytes.ofText (seed label id))

/-- The eight hexadecimal digits of the first four octets of a digest. -/
def suffix (digest : Vector UInt8 32) : String :=
  String.ofList ((digest.toList.take 4).flatMap Bytes.hexPair)

/-- The name of the container of the task with this label and id. -/
def derive (label id : String) : String :=
  label ++ "-" ++ suffix (digest label id)

end Workloads.ContainerName
