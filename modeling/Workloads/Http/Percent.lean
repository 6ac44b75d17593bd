import Workloads.Bytes

/-!
# Percent encoding

An octet of a path segment may be written as a percent sign and two
hexadecimal digits.  A percent sign that is not followed by two digits stands
for itself, and so does every other octet.
-/

namespace Workloads.Http.Percent

/-- The percent sign. -/
def sign : UInt8 := 37

/-- The octet written by two hexadecimal digits. -/
def pair? (high low : UInt8) : Option UInt8 :=
  match Bytes.hexValue? high, Bytes.hexValue? low with
  | some left, some right => some (left * 16 + right).toUInt8
  | _, _ => none

/-- The octets that a segment stands for. -/
def decode : Bytes → Bytes
  | [] => []
  | [octet] => [octet]
  | [first, second] => [first, second]
  | octet :: high :: low :: rest =>
    if octet = sign then
      match pair? high low with
      | some meant => meant :: decode rest
      | none => octet :: decode (high :: low :: rest)
    else
      octet :: decode (high :: low :: rest)

end Workloads.Http.Percent
