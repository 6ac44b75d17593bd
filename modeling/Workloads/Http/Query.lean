import Workloads.Http.Percent

/-!
# Queries

A query is a sequence of names and values with ampersands between the pairs
and an equals sign in each of them.  A plus sign stands for a space, and an
octet may be written by its number.
-/

namespace Workloads.Http.Query

/-- The parts of a text between ampersands. -/
def parts : Bytes → List Bytes
  | [] => [[]]
  | octet :: rest =>
    if octet = 38 then [] :: parts rest
    else
      match parts rest with
      | [] => [[octet]]
      | first :: others => (octet :: first) :: others

/-- The text that a name or a value stands for. -/
def decode (octets : Bytes) : String :=
  Bytes.readable
    (Percent.decode
      (octets.map (fun octet => if octet = 43 then 32 else octet)))

/-- The name and the value of a part; without an equals sign the value is
empty. -/
def pair (part : Bytes) : String × String :=
  (decode (part.takeWhile (fun octet => octet ≠ 61)),
    decode ((part.dropWhile (fun octet => octet ≠ 61)).drop 1))

/-- The names and values of a query; parts without anything do not count. -/
def pairs (query : Bytes) : List (String × String) :=
  ((parts query).filter (fun part => !part.isEmpty)).map pair

/-- Pairs in increasing order of names, and of values under one name. -/
def sorted (found : List (String × String)) : List (String × String) :=
  found.mergeSort fun left right =>
    left.1 < right.1 || left.1 = right.1 && left.2 ≤ right.2

end Workloads.Http.Query
