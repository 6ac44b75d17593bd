import Workloads.Text.Unprintable

/-!
# Quoted texts

A text in double quotes as messages show it: quotes, backslashes and the usual
controls are written with a backslash, and whatever has no visible form of its
own is spelled out by number.
-/

namespace Workloads.Text.Quoted

/-- A character spelled out by its number in lower-case hexadecimal. -/
def spelled (character : Char) : List Char :=
  ['\\', 'u', '\x7b'] ++ Nat.toDigits 16 character.toNat ++ ['\x7d']

/-- One character as it stands between the quotes. -/
def shown (character : Char) : List Char :=
  match character with
  | '\x00' => ['\\', '0']
  | '\t' => ['\\', 't']
  | '\r' => ['\\', 'r']
  | '\n' => ['\\', 'n']
  | '"' => ['\\', '"']
  | '\\' => ['\\', '\\']
  | other => if Unprintable.holds other then spelled other else [other]

/-- A text in double quotes. -/
def quote (text : String) : String :=
  String.ofList ('"' :: (text.toList.flatMap shown ++ ['"']))

end Workloads.Text.Quoted
