import Workloads.Settings.Numeral

/-!
# Hosts

Which texts stand for a host whose address is known: one to four numbers with
dots between them, groups of hexadecimal digits with colons between them, and
the name by which a host knows itself.  Other names would have to be asked
for.
-/

namespace Workloads.Startup.Host

/-! ## Numbers with dots -/

/-- A number as it stands in an address: hexadecimal behind `0x`, octal behind
another zero, else decimal. -/
def part? (text : String) : Option Nat :=
  match text.toList with
  | '0' :: 'x' :: digits | '0' :: 'X' :: digits =>
    Numeral.ofDigits? 16 digits
  | '0' :: digits => Numeral.ofDigits? 8 ('0' :: digits)
  | digits => Numeral.ofDigits? 10 digits

/-- The largest last number behind some others: it fills the octets that they
leave. -/
def largestLast : Nat → Nat
  | 0 => 0xFFFFFFFF
  | 1 => 0xFFFFFF
  | 2 => 0xFFFF
  | _ => 0xFF

/-- Whether numbers, of which the last may be large, make up an address. -/
def fillsAddress (numbers : List Nat) : Bool :=
  match numbers.reverse with
  | [] => false
  | last :: others =>
    others.length ≤ 3 && others.all (fun number => number ≤ 0xFF) &&
      last ≤ largestLast others.length

/-- Whether a text is an address of numbers. -/
def isNumbered (text : String) : Bool :=
  match (text.splitOn ".").mapM part? with
  | none => false
  | some numbers => fillsAddress numbers

/-- Whether a text is one of the four plain numbers of an address. -/
def isQuarter (text : String) : Bool :=
  match text.toList with
  | ['0'] => true
  | '0' :: _ => false
  | digits =>
    match Numeral.ofDigits? 10 digits with
    | none => false
    | some number => number ≤ 0xFF

/-- Whether a text is an address of four plain numbers. -/
def isQuartered (text : String) : Bool :=
  let parts := text.splitOn "."
  parts.length = 4 && parts.all isQuarter

/-! ## Groups with colons -/

/-- Whether a text is a group of one to four hexadecimal digits. -/
def isGroup (text : String) : Bool :=
  text.length ≤ 4 && (Numeral.ofDigits? 16 text.toList).isSome

/-- The number of groups that parts between colons are, if they are; the last
part may be four plain numbers, which count as two groups. -/
def countGroups? (mayEndInNumbers : Bool) : List String → Option Nat
  | [] => some 0
  | [last] =>
    if isGroup last then some 1
    else if mayEndInNumbers && isQuartered last then some 2
    else none
  | part :: rest =>
    if isGroup part then (countGroups? mayEndInNumbers rest).map (· + 1)
    else none

/-- The number of groups in a text, if it is made of groups. -/
def groupCount? (mayEndInNumbers : Bool) (text : String) : Option Nat :=
  if text.isEmpty then some 0
  else countGroups? mayEndInNumbers (text.splitOn ":")

/-- Whether a text is an address of eight groups, of which some zero ones may
be left out at one place. -/
def isGrouped (text : String) : Bool :=
  match text.splitOn "::" with
  | [whole] => groupCount? true whole = some 8
  | [front, back] =>
    match groupCount? false front, groupCount? true back with
    | some before, some after => before + after ≤ 7
    | _, _ => false
  | _ => false

/-- The most that the number of a zone can be. -/
def largestZone : Nat :=
  0xFFFFFFFF

/-- Whether a text is the number of a zone. -/
def isZone (text : String) : Bool :=
  match Numeral.ofDigits? 10 text.toList with
  | none => false
  | some number => number ≤ largestZone

/-- Whether a text is a grouped address, perhaps with the number of a zone
behind a percent sign. -/
def isZoned (text : String) : Bool :=
  match text.splitOn "%" with
  | [address] => isGrouped address
  | [address, zone] => isGrouped address && isZone zone
  | _ => false

/-- A host without the brackets that may stand around a grouped address. -/
def withoutBrackets (host : String) : String :=
  match host.toList, host.toList.reverse with
  | '[' :: rest, ']' :: _ => String.ofList rest.dropLast
  | _, _ => host

/-! ## Names -/

/-- The name by which a host knows itself. -/
def ownName : String :=
  "localhost"

/-- Whether the address of a host is known. -/
def isKnown (host : String) : Bool :=
  host.toLower = ownName || isNumbered host ||
    isZoned (withoutBrackets host)

/-- The most letters of a part of a name. -/
def longestLabel : Nat :=
  63

/-- The most letters of a name, a dot at its end apart. -/
def longestName : Nat :=
  253

/-- Whether a letter may stand in a name between its dots. -/
def isNameLetter (letter : Char) : Bool :=
  letter.isAlphanum || letter = '-' || letter = '_'

/-- Whether a text is a part of a name. -/
def isLabel (text : String) : Bool :=
  !text.isEmpty && text.length ≤ longestLabel && text.toList.all isNameLetter

/-- Whether somebody could know a host by a name: its parts are well formed,
and it does not start with a minus sign.  A dot alone names the root of all
names. -/
def isName (host : String) : Bool :=
  let bare := if host.endsWith "." then (host.dropEnd 1).toString else host
  host = "." ||
    !host.startsWith "-" && bare.length ≤ longestName &&
      (bare.splitOn ".").all isLabel

end Workloads.Startup.Host
