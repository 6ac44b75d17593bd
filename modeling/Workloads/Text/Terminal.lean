/-!
# Texts for terminals

Besides letters such a text holds control sequences, by which a terminal is
told how to show what follows.  Elsewhere only the letters and the white space
are of use.  White space may stand within a sequence that is not a string:
where a text is kept as a value, it ends the sequence; where a text is
written, the sequence goes on behind what is shown together with that white
space.
-/

namespace Workloads.Text.Terminal

/-! ## Sequences -/

/-- Where a letter stands. -/
inductive Place where
  | plain
  /-- After an escape. -/
  | escape
  /-- After an escape and a letter that wants another one. -/
  | designation
  /-- Within a control sequence, up to its final letter. -/
  | control
  /-- At the head of a string for a device. -/
  | deviceHead
  /-- Behind parameters of a string for a device. -/
  | deviceParameters
  /-- Behind what follows these parameters. -/
  | deviceSelection
  /-- Within a string for a device. -/
  | deviceData
  /-- Within a string for the system, which a bell ends. -/
  | command
  /-- Within a string for nobody in particular. -/
  | message
  deriving DecidableEq, Repr

/-- What is made of a letter: whether it is plain text, and where the next one
stands. -/
structure Step where
  shown : Bool := false
  next : Place
  deriving DecidableEq, Repr

/-- Whether a letter is a control character that is kept in plain text. -/
def isSpacing (letter : Char) : Bool :=
  ['\t', '\n', '\x0c', '\r'].contains letter

/-- Whether the code of a letter is between two others. -/
def isWithin (low high : Nat) (letter : Char) : Bool :=
  low ≤ letter.toNat && letter.toNat ≤ high

/-- A letter that is carried out at once wherever it stands: white space is
shown, all else is dropped. -/
def stepControl (place : Place) (letter : Char) : Step where
  shown := isSpacing letter
  next := place

/-- The letter behind an escape. -/
def stepEscape (letter : Char) : Step :=
  if isWithin 0x20 0x2F letter then { next := .designation }
  else if letter = '[' then { next := .control }
  else if letter = ']' then { next := .command }
  else if letter = 'P' then { next := .deviceHead }
  else if ['X', '^', '_'].contains letter then { next := .message }
  else if letter = '\x7f' then { next := .escape }
  else { next := .plain }

/-- A letter at the head of a string for a device. -/
def stepDevice (place : Place) (letter : Char) : Step :=
  if isWithin 0x40 0x7E letter then { next := .deviceData }
  else if isWithin 0x20 0x2F letter then { next := .deviceSelection }
  else if isWithin 0x30 0x3F letter then
    if place = .deviceHead ||
        place = .deviceParameters && isWithin 0x30 0x3B letter then
      { next := .deviceParameters }
    else
      { next := .deviceData }
  else { next := place }

/-- A printable letter, or the delete character. -/
def stepPrintable (place : Place) (letter : Char) : Step :=
  match place with
  | .plain => { shown := letter ≠ '\x7f', next := .plain }
  | .escape => stepEscape letter
  | .designation =>
    if isWithin 0x30 0x7E letter then { next := .plain }
    else { next := place }
  | .control =>
    if isWithin 0x40 0x7E letter then { next := .plain }
    else { next := place }
  | .deviceHead | .deviceParameters | .deviceSelection =>
    stepDevice place letter
  | .deviceData | .command | .message => { next := place }

/-- The octet that ends a string, also as part of a letter. -/
def stringEnd : UInt8 :=
  0x9C

/-- A letter beyond ASCII. -/
def stepWide (place : Place) (letter : Char) : Step :=
  match place with
  | .plain => { shown := true, next := .plain }
  | .deviceData | .message =>
    if (String.utf8EncodeChar letter).contains stringEnd then
      { next := .plain }
    else
      { next := place }
  | _ => { next := place }

/-- What is made of a letter at a place. -/
def step (place : Place) (letter : Char) : Step :=
  if letter = '\x1b' then { next := .escape }
  else if ['\x18', '\x1a'].contains letter then { next := .plain }
  else if 0x80 ≤ letter.toNat then stepWide place letter
  else if 0x20 ≤ letter.toNat then stepPrintable place letter
  else
    match place with
    | .plain | .escape | .designation | .control => stepControl place letter
    | .command =>
      { next := if letter = '\x07' then .plain else place }
    | _ => { next := place }

/-! ## Plain text -/

/-- The plain letters from a place on; a letter that is shown ends a
sequence. -/
def plainLetters (place : Place) : List Char → List Char
  | [] => []
  | letter :: rest =>
    let made := step place letter
    if made.shown then letter :: plainLetters .plain rest
    else plainLetters made.next rest

/-- The plain text of a text that is kept as a value. -/
def plain (text : String) : String :=
  String.ofList (plainLetters .plain text.toList)

/-! ## Written text -/

/-- Whether a letter is shown together with one that is shown in front of
it. -/
def isShownBehind (letter : Char) : Bool :=
  isSpacing letter || isWithin 0x20 0x7E letter || 0x80 ≤ letter.toNat

/-- The written letters from a place on, given whether the letter in front of
them is shown; one beyond ASCII ends a sequence. -/
def writtenLetters (place : Place) (shown : Bool) : List Char → List Char
  | [] => []
  | letter :: rest =>
    if shown && isShownBehind letter then
      let next := if 0x80 ≤ letter.toNat then .plain else place
      letter :: writtenLetters next true rest
    else
      let made := step place letter
      if made.shown then letter :: writtenLetters made.next true rest
      else writtenLetters made.next false rest

/-- What a text becomes where it is written. -/
def written (text : String) : String :=
  String.ofList (writtenLetters .plain false text.toList)

/-! ## Marks -/

/-- A text that a terminal shows in bold. -/
def bold (text : String) : String :=
  "\x1b[1m" ++ text ++ "\x1b[0m"

end Workloads.Text.Terminal
