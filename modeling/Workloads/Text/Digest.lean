import Workloads.Bytes

/-!
# The SHA-256 digest

The digest of a byte text: padding to whole blocks of sixteen words, the
message schedule of sixty-four words, and one compression per block.  A digest
is a vector of exactly thirty-two octets, so its length never has to be
checked.
-/

namespace Workloads.Text.Digest

/-- The sixty-four round constants. -/
def roundConstants : List UInt32 := [
  0x428a2f98, 0x71374491, 0xb5c0fbcf, 0xe9b5dba5,
  0x3956c25b, 0x59f111f1, 0x923f82a4, 0xab1c5ed5,
  0xd807aa98, 0x12835b01, 0x243185be, 0x550c7dc3,
  0x72be5d74, 0x80deb1fe, 0x9bdc06a7, 0xc19bf174,
  0xe49b69c1, 0xefbe4786, 0x0fc19dc6, 0x240ca1cc,
  0x2de92c6f, 0x4a7484aa, 0x5cb0a9dc, 0x76f988da,
  0x983e5152, 0xa831c66d, 0xb00327c8, 0xbf597fc7,
  0xc6e00bf3, 0xd5a79147, 0x06ca6351, 0x14292967,
  0x27b70a85, 0x2e1b2138, 0x4d2c6dfc, 0x53380d13,
  0x650a7354, 0x766a0abb, 0x81c2c92e, 0x92722c85,
  0xa2bfe8a1, 0xa81a664b, 0xc24b8b70, 0xc76c51a3,
  0xd192e819, 0xd6990624, 0xf40e3585, 0x106aa070,
  0x19a4c116, 0x1e376c08, 0x2748774c, 0x34b0bcb5,
  0x391c0cb3, 0x4ed8aa4a, 0x5b9cca4f, 0x682e6ff3,
  0x748f82ee, 0x78a5636f, 0x84c87814, 0x8cc70208,
  0x90befffa, 0xa4506ceb, 0xbef9a3f7, 0xc67178f2]

/-- The eight chaining words carried from block to block. -/
structure Chain where
  a : UInt32
  b : UInt32
  c : UInt32
  d : UInt32
  e : UInt32
  f : UInt32
  g : UInt32
  h : UInt32
  deriving DecidableEq, Repr

/-- The chaining words before the first block. -/
def Chain.initial : Chain where
  a := 0x6a09e667
  b := 0xbb67ae85
  c := 0x3c6ef372
  d := 0xa54ff53a
  e := 0x510e527f
  f := 0x9b05688c
  g := 0x1f83d9ab
  h := 0x5be0cd19

/-- Wordwise sum of two chains. -/
def Chain.add (left right : Chain) : Chain where
  a := left.a + right.a
  b := left.b + right.b
  c := left.c + right.c
  d := left.d + right.d
  e := left.e + right.e
  f := left.f + right.f
  g := left.g + right.g
  h := left.h + right.h

/-- Rotation of a word to the right, for an amount strictly between 0 and 32. -/
def rotate (word amount : UInt32) : UInt32 :=
  (word >>> amount) ||| (word <<< (32 - amount))

/-- The four octets of a word, most significant first. -/
def wordOctets (word : UInt32) : Vector UInt8 4 :=
  #v[(word >>> 24).toUInt8, (word >>> 16).toUInt8,
    (word >>> 8).toUInt8, word.toUInt8]

/-- The word written by four octets, most significant first. -/
def wordOfOctets (first second third fourth : UInt8) : UInt32 :=
  (first.toUInt32 <<< 24) ||| (second.toUInt32 <<< 16) |||
    (third.toUInt32 <<< 8) ||| fourth.toUInt32

/-- The words of a text whose length is a multiple of four. -/
def words : Bytes → List UInt32
  | first :: second :: third :: fourth :: rest =>
    wordOfOctets first second third fourth :: words rest
  | _ => []

/-- The octets that follow a message of the given length: a one bit, zeros,
and the length in bits as eight octets. -/
def padding (length : Nat) : Bytes :=
  0x80 :: List.replicate ((119 - length % 64) % 64) 0 ++
    (wordOctets (length * 8 / 0x100000000).toUInt32).toList ++
    (wordOctets (length * 8).toUInt32).toList

/-- One further schedule word from the sixteen words before it, newest first. -/
def nextWord (recent : List UInt32) : UInt32 :=
  let back (distance : Nat) := recent.getD (distance - 1) 0
  let early := back 15
  let late := back 2
  back 16 +
    (rotate early 7 ^^^ rotate early 18 ^^^ (early >>> 3)) +
    back 7 +
    (rotate late 17 ^^^ rotate late 19 ^^^ (late >>> 10))

/-- The message schedule, newest word first, extended by so many words. -/
def extendSchedule : Nat → List UInt32 → List UInt32
  | 0, recent => recent
  | remaining + 1, recent =>
    extendSchedule remaining (nextWord recent :: recent)

/-- One round with its schedule word and its constant. -/
def round (chain : Chain) (word constant : UInt32) : Chain :=
  let choice := (chain.e &&& chain.f) ^^^ (~~~chain.e &&& chain.g)
  let majority :=
    (chain.a &&& chain.b) ^^^ (chain.a &&& chain.c) ^^^
      (chain.b &&& chain.c)
  let first :=
    chain.h +
      (rotate chain.e 6 ^^^ rotate chain.e 11 ^^^ rotate chain.e 25) +
      choice + constant + word
  let second :=
    (rotate chain.a 2 ^^^ rotate chain.a 13 ^^^ rotate chain.a 22) +
      majority
  { a := first + second, b := chain.a, c := chain.b, d := chain.c
    e := chain.d + first, f := chain.e, g := chain.f, h := chain.g }

/-- The chain after one block of sixteen words. -/
def compress (chain : Chain) (block : List UInt32) : Chain :=
  let schedule := (extendSchedule 48 block.reverse).reverse
  chain.add <|
    (schedule.zip roundConstants).foldl
      (fun current step => round current step.1 step.2) chain

/-- The chain after so many blocks of sixty-four octets. -/
def absorb : Nat → Chain → Bytes → Chain
  | 0, chain, _ => chain
  | blocks + 1, chain, rest =>
    absorb blocks (compress chain (words (rest.take 64))) (rest.drop 64)

/-- The octets of the chaining words in order. -/
def Chain.octets (chain : Chain) : Vector UInt8 32 :=
  wordOctets chain.a ++ wordOctets chain.b ++ wordOctets chain.c ++
    wordOctets chain.d ++ wordOctets chain.e ++ wordOctets chain.f ++
    wordOctets chain.g ++ wordOctets chain.h

/-- The SHA-256 digest of a byte text. -/
def sha256 (message : Bytes) : Vector UInt8 32 :=
  let padded := message ++ padding message.length
  (absorb (padded.length / 64) Chain.initial padded).octets

end Workloads.Text.Digest
