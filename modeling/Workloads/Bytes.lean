/-!
# Byte texts

Messages arrive and leave as sequences of octets, while identifiers and names
are Unicode text.  This module holds the passage between the two: every text
has one UTF-8 form, and a sequence of octets is a text exactly when it is such
a form.
-/

namespace Workloads

/-- A sequence of octets, as read from or written to a connection. -/
abbrev Bytes := List UInt8

namespace Bytes

/-- The UTF-8 form of a text. -/
def ofText (text : String) : Bytes :=
  text.toByteArray.data.toList

/-- The text whose UTF-8 form these octets are, if they are one. -/
def text? (octets : Bytes) : Option String :=
  String.fromUTF8? ⟨octets.toArray⟩

/-- Reading the UTF-8 form of a text gives the text back. -/
@[simp]
theorem text?_ofText (text : String) :
    text? (ofText text) = some text := by
  have valid := text.isValidUTF8
  simp [text?, ofText, String.fromUTF8?, String.fromUTF8, valid]

/-- Distinct texts have distinct UTF-8 forms. -/
theorem ofText_injective
    {left right : String}
    (same : ofText left = ofText right) :
    left = right := by
  have reads := text?_ofText left
  rw [same, text?_ofText] at reads
  exact (Option.some.inj reads).symm

/-- The octet of an ASCII character. -/
def ofChar (character : Char) : UInt8 :=
  character.toNat.toUInt8

/-- Whether an octet is a decimal digit. -/
def isDigit (octet : UInt8) : Bool :=
  48 ≤ octet && octet ≤ 57

/-- The value of a hexadecimal digit of either case. -/
def hexValue? (octet : UInt8) : Option Nat :=
  if 48 ≤ octet && octet ≤ 57 then
    some (octet.toNat - 48)
  else if 97 ≤ octet && octet ≤ 102 then
    some (octet.toNat - 87)
  else if 65 ≤ octet && octet ≤ 70 then
    some (octet.toNat - 55)
  else
    none

/-- The lower-case hexadecimal digit of a value below sixteen. -/
def hexDigit (value : Nat) : Char :=
  if value < 10 then Char.ofNat (48 + value)
  else Char.ofNat (87 + value)

/-- The two lower-case hexadecimal digits of an octet. -/
def hexPair (octet : UInt8) : List Char :=
  [hexDigit (octet.toNat / 16), hexDigit (octet.toNat % 16)]

/-- The lower-case form of an ASCII letter; other octets are unchanged. -/
def lower (octet : UInt8) : UInt8 :=
  if 65 ≤ octet && octet ≤ 90 then octet + 32 else octet

/-! ## Octets that need not be a text -/

/-- The bounds of the octets that follow the first one of a character beyond
ASCII. -/
def continuation? (first : UInt8) : Option (List (UInt8 × UInt8)) :=
  if first < 0xC2 || 0xF4 < first then none
  else if first < 0xE0 then some [(0x80, 0xBF)]
  else if first = 0xE0 then some [(0xA0, 0xBF), (0x80, 0xBF)]
  else if first = 0xED then some [(0x80, 0x9F), (0x80, 0xBF)]
  else if first < 0xF0 then some [(0x80, 0xBF), (0x80, 0xBF)]
  else if first = 0xF0 then some [(0x90, 0xBF), (0x80, 0xBF), (0x80, 0xBF)]
  else if first = 0xF4 then some [(0x80, 0x8F), (0x80, 0xBF), (0x80, 0xBF)]
  else some [(0x80, 0xBF), (0x80, 0xBF), (0x80, 0xBF)]

/-- The number of octets at the start that are within bounds, one by one. -/
def countWithin : List (UInt8 × UInt8) → Bytes → Nat
  | (low, high) :: bounds, octet :: rest =>
    if low ≤ octet && octet ≤ high then countWithin bounds rest + 1 else 0
  | _, _ => 0

/-- What stands for octets that are no character. -/
def replacement : Char :=
  '\uFFFD'

/-- The characters of octets; the replacement character stands for each
longest sequence that a character could start with but does not, and for each
octet that no character starts with. -/
def characters : Bytes → List Char
  | [] => []
  | octet :: rest =>
    if octet < 0x80 then
      Char.ofNat octet.toNat :: characters rest
    else
      let following := countWithin ((continuation? octet).getD []) rest
      let read := text? (octet :: rest.take following)
      (read.elim [replacement] String.toList) ++
        characters (rest.drop following)
termination_by octets => octets.length
decreasing_by
  all_goals simp only [List.length_cons, List.length_drop]; omega

/-- The text that can be made of octets. -/
def readable (octets : Bytes) : String :=
  String.ofList (characters octets)

end Bytes

end Workloads
