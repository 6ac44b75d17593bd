import Workloads.Bytes

/-!
# Paths

A path is a sequence of segments with slashes between them.  A segment of one
dot stands for the place it is in, and one of two dots for the place above;
either dot can also be written by its number.  There is no place above a
drive.
-/

namespace Workloads.Http.Path

/-- The slash. -/
def slash : UInt8 := 47

/-- The parts of a text between slashes. -/
def segments : Bytes → List Bytes
  | [] => [[]]
  | octet :: rest =>
    if octet = slash then [] :: segments rest
    else
      match segments rest with
      | [] => [[octet]]
      | first :: others => (octet :: first) :: others

/-- Segments with slashes between them. -/
def join : List Bytes → Bytes
  | [] => []
  | [segment] => segment
  | segment :: rest => segment ++ slash :: join rest

/-- The number of dots that a segment consists of, if it consists of dots. -/
def dots? : Bytes → Option Nat
  | [] => some 0
  | 46 :: rest => (dots? rest).map (· + 1)
  | 37 :: 50 :: 69 :: rest => (dots? rest).map (· + 1)
  | 37 :: 50 :: 101 :: rest => (dots? rest).map (· + 1)
  | _ => none

/-- Whether a segment is a drive: a letter, then a colon or a bar, and nothing
more before a backslash. -/
def isDrive : Bytes → Bool
  | letter :: mark :: rest =>
    (65 ≤ letter && letter ≤ 90 || 97 ≤ letter && letter ≤ 122) &&
      (mark = 58 || mark = 124) &&
      (rest.isEmpty || rest.head? = some 92)
  | _ => false

/-- The segments above the last one, which come in reverse. -/
def ascend : List Bytes → List Bytes
  | [] => []
  | segment :: above => if isDrive segment then segment :: above else above

/-- Follows the segments of dots, with the segments in front of them in
reverse; a path that ends with one ends with a slash. -/
def follow (above : List Bytes) : List Bytes → List Bytes
  | [] => above.reverse
  | segment :: rest =>
    let close (places : List Bytes) : List Bytes :=
      if rest.isEmpty then [] :: places else places
    match dots? segment with
    | some 1 => follow (close above) rest
    | some 2 => follow (close (ascend above)) rest
    | _ => follow (segment :: above) rest

/-- The path with all segments of dots followed. -/
def resolve (path : Bytes) : Bytes :=
  join (follow [] (segments path))

end Workloads.Http.Path
