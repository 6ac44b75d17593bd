import Workloads.Bytes
import Workloads.Json.Fault

/-!
# Tokens of a JSON text

What is read octet by octet: white space, literal words and strings.  A string
is read by a small machine with one octet per step; the machine collects the
octets that the string stands for.  A second machine passes over a string that
nobody needs: it checks less, since neither pairs of surrogates nor the
encoding matter there.
-/

namespace Workloads.Json

/-! ## Punctuation -/

/-- The double quote. -/
def quote : UInt8 := 34
/-- The comma. -/
def comma : UInt8 := 44
/-- The colon. -/
def colon : UInt8 := 58
/-- The opening bracket. -/
def openList : UInt8 := 91
/-- The backslash. -/
def backslash : UInt8 := 92
/-- The closing bracket. -/
def closeList : UInt8 := 93
/-- The opening brace. -/
def openObject : UInt8 := 123
/-- The closing brace. -/
def closeObject : UInt8 := 125
/-- The minus sign. -/
def minus : UInt8 := 45

/-! ## White space -/

/-- Space, tab, line feed and carriage return. -/
def isBlank (octet : UInt8) : Bool :=
  octet = 32 || octet = 9 || octet = 10 || octet = 13

/-- What is left after white space. -/
def skipBlanks : Bytes → Bytes
  | [] => []
  | octet :: rest => if isBlank octet then skipBlanks rest else octet :: rest

theorem skipBlanks_length_le (text : Bytes) :
    (skipBlanks text).length ≤ text.length := by
  induction text with
  | nil => simp [skipBlanks]
  | cons octet rest hypothesis =>
    unfold skipBlanks
    split
    · simp only [List.length_cons]
      omega
    · simp

/-! ## Literal words -/

/-- Reads the rest of a literal word. -/
def readWord : (word text : Bytes) → Except Problem Bytes
  | [], text => .ok text
  | _ :: _, [] => .error .endInValue
  | letter :: word, octet :: text =>
    if octet = letter then readWord word text
    else .error .misspelledLiteral

theorem readWord_length_le
    {word text rest : Bytes} (reads : readWord word text = .ok rest) :
    rest.length ≤ text.length := by
  induction word generalizing text with
  | nil => cases reads; simp
  | cons letter word hypothesis =>
    cases text with
    | nil => simp [readWord] at reads
    | cons octet text =>
      simp only [readWord] at reads
      split at reads
      · have shorter := hypothesis reads
        simp only [List.length_cons]
        omega
      · simp at reads

/-- The letters of null after the first. -/
def restOfNull : Bytes := [117, 108, 108]
/-- The letters of true after the first. -/
def restOfTrue : Bytes := [114, 117, 101]
/-- The letters of false after the first. -/
def restOfFalse : Bytes := [97, 108, 115, 101]

/-! ## Strings -/

/-- The octet that a one-letter escape stands for. -/
def escapedOctet? (letter : UInt8) : Option UInt8 :=
  if letter = quote then some quote
  else if letter = backslash then some backslash
  else if letter = 47 then some 47
  else if letter = 98 then some 8
  else if letter = 102 then some 12
  else if letter = 110 then some 10
  else if letter = 114 then some 13
  else if letter = 116 then some 9
  else none

/-- The letter that announces four hexadecimal digits. -/
def unicodeLetter : UInt8 := 117

/-- The number written by hexadecimal digits. -/
def hexNumber? (digits : Bytes) : Option Nat :=
  digits.foldl
    (fun number digit => do
      return (← number) * 16 + (← Bytes.hexValue? digit)) (some 0)

/-- The first half of a surrogate pair. -/
def isLeading (unit : Nat) : Bool :=
  0xD800 ≤ unit && unit ≤ 0xDBFF

/-- The second half of a surrogate pair. -/
def isTrailing (unit : Nat) : Bool :=
  0xDC00 ≤ unit && unit ≤ 0xDFFF

/-- The octets of the character with this number. -/
def characterOctets (number : Nat) : Bytes :=
  String.utf8EncodeChar (Char.ofNat number)

/-- The number of the character that a surrogate pair stands for. -/
def pairNumber (leading trailing : Nat) : Nat :=
  0x10000 + (leading - 0xD800) * 0x400 + (trailing - 0xDC00)

/-- Where the machine stands inside a string. -/
inductive StringState where
  | plain
  | escape
  /-- Collecting four hexadecimal digits, perhaps after a leading surrogate. -/
  | digits (sofar : Bytes) (leading : Option Nat)
  /-- A leading surrogate wants a backslash. -/
  | wantsBackslash (leading : Nat)
  /-- A leading surrogate and a backslash want the letter of an escape. -/
  | wantsLetter (leading : Nat)
  deriving DecidableEq, Repr

/-- One step of the machine. -/
inductive StringStep where
  | proceed (state : StringState) (octets : Bytes)
  | close
  deriving DecidableEq, Repr

/-- What four hexadecimal digits make of a string. -/
def unitStep (digits : Bytes) (leading : Option Nat) :
    Except Problem StringStep :=
  match hexNumber? digits, leading with
  | none, _ => .error .invalidEscape
  | some unit, none =>
    if isTrailing unit then .error .loneSurrogate
    else if isLeading unit then .ok (.proceed (.wantsBackslash unit) [])
    else .ok (.proceed .plain (characterOctets unit))
  | some unit, some first =>
    if isTrailing unit then
      .ok (.proceed .plain (characterOctets (pairNumber first unit)))
    else
      .error .loneSurrogate

/-- The step that an octet makes in a string. -/
def stringStep (state : StringState) (octet : UInt8) :
    Except Problem StringStep :=
  match state with
  | .plain =>
    if octet = quote then .ok .close
    else if octet = backslash then .ok (.proceed .escape [])
    else if octet < 32 then .error .controlCharacter
    else .ok (.proceed .plain [octet])
  | .escape =>
    if octet = unicodeLetter then .ok (.proceed (.digits [] none) [])
    else
      match escapedOctet? octet with
      | some meant => .ok (.proceed .plain [meant])
      | none => .error .invalidEscape
  | .digits sofar leading =>
    if sofar.length < 3 then
      .ok (.proceed (.digits (sofar ++ [octet]) leading) [])
    else
      unitStep (sofar ++ [octet]) leading
  | .wantsBackslash leading =>
    if octet = backslash then .ok (.proceed (.wantsLetter leading) [])
    else .error .unfinishedSurrogate
  | .wantsLetter leading =>
    if octet = unicodeLetter then
      .ok (.proceed (.digits [] (some leading)) [])
    else
      .error .unfinishedSurrogate

/-- Reads a string from a state on, with the octets read so far in reverse. -/
def scanString (state : StringState) (reversed : Bytes) :
    Bytes → Except Problem (Bytes × Bytes)
  | [] => .error .endInString
  | octet :: rest =>
    match stringStep state octet with
    | .error problem => .error problem
    | .ok .close => .ok (reversed.reverse, rest)
    | .ok (.proceed next octets) =>
      scanString next (octets.reverse ++ reversed) rest

theorem scanString_length_lt
    {state : StringState} {reversed text octets rest : Bytes}
    (reads : scanString state reversed text = .ok (octets, rest)) :
    rest.length < text.length := by
  induction text generalizing state reversed with
  | nil => simp [scanString] at reads
  | cons octet text hypothesis =>
    unfold scanString at reads
    split at reads
    · simp at reads
    · cases reads
      simp
    · have shorter := hypothesis reads
      simp only [List.length_cons]
      omega

/-- Reads a string after its opening quote. -/
def readString (text : Bytes) : Except Problem (String × Bytes) :=
  match scanString .plain [] text with
  | .error problem => .error problem
  | .ok (octets, rest) =>
    match Bytes.text? octets with
    | some value => .ok (value, rest)
    | none => .error .notUnicode

theorem readString_length_lt
    {text rest : Bytes} {value : String}
    (reads : readString text = .ok (value, rest)) :
    rest.length < text.length := by
  unfold readString at reads
  split at reads
  · simp at reads
  next octets left scanned =>
    split at reads
    · cases reads
      exact scanString_length_lt scanned
    · simp at reads

/-! ## Strings nobody needs -/

/-- Where the second machine stands. -/
inductive PassState where
  | plain
  | escape
  | digits (sofar : Bytes)
  deriving DecidableEq, Repr

/-- Passes over a string; what is left begins after its closing quote. -/
def passString (state : PassState) : Bytes → Except Problem Bytes
  | [] => .error .endInString
  | octet :: rest =>
    match state with
    | .plain =>
      if octet = quote then .ok rest
      else if octet = backslash then passString .escape rest
      else if octet < 32 then .error .controlCharacter
      else passString .plain rest
    | .escape =>
      if octet = unicodeLetter then passString (.digits []) rest
      else if (escapedOctet? octet).isSome then passString .plain rest
      else .error .invalidEscape
    | .digits sofar =>
      if sofar.length < 3 then
        passString (.digits (sofar ++ [octet])) rest
      else if (hexNumber? (sofar ++ [octet])).isSome then
        passString .plain rest
      else
        .error .invalidEscape

theorem passString_length_lt
    {state : PassState} {text rest : Bytes}
    (passes : passString state text = .ok rest) :
    rest.length < text.length := by
  induction text generalizing state with
  | nil => simp [passString] at passes
  | cons octet text hypothesis =>
    simp only [List.length_cons]
    cases state with
    | plain =>
      simp only [passString] at passes
      split at passes
      · cases passes
        omega
      · split at passes
        · have shorter := hypothesis passes
          omega
        · split at passes
          · simp at passes
          · have shorter := hypothesis passes
            omega
    | escape =>
      simp only [passString] at passes
      split at passes
      · have shorter := hypothesis passes
        omega
      · split at passes
        · have shorter := hypothesis passes
          omega
        · simp at passes
    | digits sofar =>
      simp only [passString] at passes
      split at passes
      · have shorter := hypothesis passes
        omega
      · split at passes
        · have shorter := hypothesis passes
          omega
        · simp at passes

end Workloads.Json
