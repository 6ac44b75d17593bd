/-!
# Similarity of words

How alike two words are, as a fraction of one: letters are paired when they
are equal and not far apart, and the measure weighs how many of each word are
paired and how many of the pairs are out of order.  It is a binary
floating-point number, each step of which is rounded.
-/

namespace Workloads.Text.Similarity

/-- How far apart the places of two paired letters may be. -/
def reach (left right : List Char) : Nat :=
  max left.length right.length / 2 - 1

/-- The first place that a letter can be paired with. -/
def partner? (distance position : Nat) (letter : Char)
    (taken : List Nat) (word : List Char) : Option Nat :=
  (word.zipIdx.find? fun entry =>
    entry.1 = letter && position ≤ entry.2 + distance &&
      entry.2 ≤ position + distance && !taken.contains entry.2).map
        (fun entry => entry.2)

/-- The paired letters of a word from a position on, each with the place of
its partner. -/
def pairs (distance : Nat) (word : List Char) (position : Nat)
    (taken : List Nat) : List Char → List (Char × Nat)
  | [] => []
  | letter :: rest =>
    match partner? distance position letter taken word with
    | none => pairs distance word (position + 1) taken rest
    | some place =>
      (letter, place) ::
        pairs distance word (position + 1) (place :: taken) rest

/-- A quotient of two numbers, rounded. -/
def ratio (part whole : Nat) : Float :=
  part.toFloat / whole.toFloat

/-- How alike two words are: one for equal words, zero for words without
common letters. -/
def measure (left right : String) : Float :=
  let first := left.toList
  let second := right.toList
  let paired := pairs (reach first second) second 0 [] first
  let partners :=
    second.zipIdx.filter
      (fun entry => paired.any (fun pair => pair.2 = entry.2))
  let crossed :=
    (paired.zip partners).countP (fun both => both.1.1 ≠ both.2.1) / 2
  let shared := paired.length
  if shared = 0 then
    if first.isEmpty && second.isEmpty then 1 else 0
  else
    (ratio shared first.length + ratio shared second.length +
      ratio (shared - crossed) shared) / 3

end Workloads.Text.Similarity
