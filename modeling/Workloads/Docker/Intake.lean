import Workloads.Bytes

/-!
# Intakes

A stream arrives in portions and is used line by line.  Between the two stands
an intake, which holds the octets that have arrived and are not used yet.  An
intake has a limit, so that a portion may have to wait for a part of it to be
taken in.  Taking octets out of an intake leaves a gap in front of the others;
only when the intake is full is the gap closed, if it is large enough, or the
space made larger.
-/

namespace Workloads.Docker

/-- Octets that have arrived, and the space in which they lie: its size, the
gap in front of the octets, and how many octets may lie behind that gap. -/
structure Intake where
  octets : Bytes := []
  size : Nat
  gap : Nat := 0
  limit : Nat
  deriving DecidableEq, Repr

namespace Intake

/-- The least size of a space. -/
def leastSize : Nat :=
  8192

/-- Octets that fill a space of their own from its start. -/
def ofOctets (octets : Bytes) : Intake :=
  let size := max octets.length leastSize
  { octets, size, limit := size }

/-! ## Taking in -/

/-- Makes room for another octet, unless there is room: the rest of the space
is used octet by octet, then the gap is closed if it is as large as what stands
behind it, and then the space is doubled. -/
def makeRoom (intake : Intake) : Intake :=
  let length := intake.octets.length
  let needed := intake.gap + length + 1
  if length < intake.limit then intake
  else if needed ≤ intake.size then { intake with limit := length + 1 }
  else if length < intake.size && length ≤ intake.gap then
    { intake with gap := 0, limit := intake.size }
  else
    let size := max (2 * intake.size) needed
    { intake with size, limit := size - intake.gap }

/-- Takes in as much of a portion as there is room for; gives what is left of
the portion. -/
def takeIn (intake : Intake) (portion : Bytes) : Intake × Bytes :=
  let roomy := intake.makeRoom
  let room := roomy.limit - roomy.octets.length
  ({ roomy with octets := roomy.octets ++ portion.take room },
    portion.drop room)

/-! ## Lines -/

/-- The octet that ends a line. -/
def lineFeed : UInt8 :=
  10

/-- The first line, if it has an end. -/
def line? (intake : Intake) : Option Bytes :=
  if intake.octets.contains lineFeed then
    some (intake.octets.takeWhile (fun octet => octet ≠ lineFeed))
  else
    none

/-- What stands behind a line of a length and its end. -/
def behind (intake : Intake) (length : Nat) : Intake :=
  { intake with
    octets := intake.octets.drop (length + 1)
    gap := intake.gap + length + 1
    limit := intake.limit - (length + 1) }

/-- Joins a first line with the next one.  If more than an octet stands behind
it, all goes to a space of its own; else there is no room beyond the line. -/
def joinLine (intake : Intake) (line : Bytes) : Intake :=
  let rest := intake.behind line.length
  if line.isEmpty then rest
  else if 1 < rest.octets.length then .ofOctets (line ++ rest.octets)
  else
    { intake with
      octets := line ++ rest.octets, limit := line.length + 1 }

/-- Takes everything out. -/
def clear (intake : Intake) : Intake :=
  { intake with octets := [] }

end Intake

end Workloads.Docker
