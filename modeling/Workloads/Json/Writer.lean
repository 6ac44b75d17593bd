import Workloads.Json.Scan

/-!
# Writing JSON

The compact form: no white space, members in the order they are given.  A
string is written octet by octet; quotes, backslashes and controls are
escaped, the latter by a letter if they have one and by number otherwise.
-/

namespace Workloads.Json

/-- The octets of ASCII characters. -/
def ascii (characters : List Char) : Bytes :=
  characters.map Bytes.ofChar

/-- The letter that escapes an octet, if it has one. -/
def escapeLetter? (octet : UInt8) : Option UInt8 :=
  if octet = quote then some quote
  else if octet = backslash then some backslash
  else if octet = 8 then some 98
  else if octet = 12 then some 102
  else if octet = 10 then some 110
  else if octet = 13 then some 114
  else if octet = 9 then some 116
  else none

/-- One octet of a string as it is written. -/
def writeOctet (octet : UInt8) : Bytes :=
  match escapeLetter? octet with
  | some letter => [backslash, letter]
  | none =>
    if octet < 32 then
      backslash :: unicodeLetter :: 48 :: 48 :: ascii (Bytes.hexPair octet)
    else
      [octet]

/-- A string. -/
def writeText (text : String) : Bytes :=
  quote :: ((Bytes.ofText text).flatMap writeOctet ++ [quote])

/-- The word null. -/
def writeNull : Bytes :=
  110 :: restOfNull

/-- A string, or null in its absence. -/
def writeOptional : Option String → Bytes
  | none => writeNull
  | some text => writeText text

/-- A natural number. -/
def writeNat (value : Nat) : Bytes :=
  ascii (Nat.toDigits 10 value)

/-- Items separated by commas. -/
def separated : List Bytes → Bytes
  | [] => []
  | [item] => item
  | item :: rest => item ++ comma :: separated rest

/-- A list of written elements. -/
def writeList (elements : List Bytes) : Bytes :=
  openList :: (separated elements ++ [closeList])

/-- A member with a written value. -/
def writeMember (member : String × Bytes) : Bytes :=
  writeText member.1 ++ colon :: member.2

/-- An object of written values. -/
def writeObject (members : List (String × Bytes)) : Bytes :=
  openObject :: (separated (members.map writeMember) ++ [closeObject])

end Workloads.Json
