import Workloads.Settings.Numeral
import Workloads.Text.Alphanumeric

/-!
# Patterns

Which texts are patterns.  A pattern is made of letters, classes of letters in
brackets, groups in parentheses, alternatives, repetitions, and escapes that
start with a backslash.  Nothing here matches a text with a pattern: patterns
are for the fields of spans, of which there are none.

Patterns are nested only so deep.  They know the letters of ASCII only, so the
classes of digits, of letters and of white space, and disregard of letter case,
need the flag that turns Unicode off, and so does the boundary of a word.  The
brace that would close a counted repetition never stands in a pattern, because
it ends the field that the pattern is for.
-/

namespace Workloads.Log.Pattern

/-- Why a text is no pattern that can be used. -/
inductive Fault where
  | form
  | wordBoundary
  deriving DecidableEq, Repr

/-- The wording of a fault. -/
def Fault.text : Fault → String
  | form => "error building NFA"
  | wordBoundary =>
    "unsupported regex feature for DFAs: cannot build DFAs for regexes " ++
      "with Unicode word boundaries; switch to ASCII word boundaries, or " ++
      "heuristically enable Unicode word boundaries or use a different " ++
      "regex engine"

/-- What holds at a place in a pattern: whether the case of letters matters,
whether a pattern is of characters or of octets, and whether blanks and
comments may stand in it. -/
structure Flags where
  caseless : Bool := false
  wide : Bool := true
  spaced : Bool := false
  deriving DecidableEq, Repr

/-! ## Blanks -/

/-- The white space that may stand in a pattern. -/
def isBlank (letter : Char) : Bool :=
  letter = ' ' || 9 ≤ letter.toNat && letter.toNat ≤ 13 ||
    [0x85, 0xA0, 0x1680, 0x2028, 0x2029, 0x202F, 0x205F, 0x3000].contains
      letter.toNat ||
    0x2000 ≤ letter.toNat && letter.toNat ≤ 0x200A

/-- Drops blanks and comments, of which the latter end with their line. -/
def dropBlanks (inComment : Bool) : List Char → List Char
  | [] => []
  | letter :: rest =>
    if inComment then dropBlanks (letter ≠ '\n') rest
    else if isBlank letter then dropBlanks false rest
    else if letter = '#' then dropBlanks true rest
    else letter :: rest

/-- What follows after the blanks that are allowed. -/
def Flags.skip (flags : Flags) (text : List Char) : List Char :=
  if flags.spaced then dropBlanks false text else text

/-! ## Escapes -/

/-- What a letter, an escape or a class stands for. -/
inductive Item where
  /-- A letter, perhaps written as an octet. -/
  | letter (letter : Char) (octet : Bool)
  /-- The digits, the letters or the white space, or what is none of them. -/
  | shorthand (negated : Bool)
  | wordBoundary
  | position
  deriving DecidableEq, Repr

/-- Reads a number of hexadecimal digits that follow those of a total. -/
def readHex (flags : Flags) (total : Nat) :
    Nat → List Char → Except Fault (Nat × List Char)
  | 0, text => .ok (total, text)
  | count + 1, text =>
    match flags.skip text with
    | [] => .error .form
    | digit :: rest =>
      match Numeral.digit? 16 digit with
      | none => .error .form
      | some value => readHex flags (total * 16 + value) count rest

/-- Reads the number of a letter. -/
def readNumbered (flags : Flags) (digits : Nat) (text : List Char) :
    Except Fault (Item × List Char) :=
  match readHex flags 0 digits text with
  | .error fault => .error fault
  | .ok (code, rest) =>
    if code.isValidChar then
      .ok (.letter (Char.ofNat code) (digits = 2), rest)
    else
      .error .form

/-- Whether a letter stands for itself behind a backslash. -/
def isEscapable (letter : Char) : Bool :=
  letter.toNat < 128 && !letter.isAlphanum && letter ≠ '<' && letter ≠ '>'

/-- Reads what follows a backslash. -/
def readEscape (flags : Flags) :
    List Char → Except Fault (Item × List Char)
  | [] => .error .form
  | letter :: rest =>
    match letter with
    | 'x' => readNumbered flags 2 rest
    | 'u' => readNumbered flags 4 rest
    | 'U' => readNumbered flags 8 rest
    | 'd' | 's' | 'w' => .ok (.shorthand false, rest)
    | 'D' | 'S' | 'W' => .ok (.shorthand true, rest)
    | 'a' | 'f' | 't' | 'n' | 'r' | 'v' => .ok (.letter '\t' false, rest)
    | 'A' | 'z' => .ok (.position, rest)
    | 'b' | 'B' | '<' | '>' => .ok (.wordBoundary, rest)
    | other =>
      if isEscapable other then .ok (.letter other false, rest)
      else .error .form

/-! ## Classes -/

/-- The names of the classes of ASCII letters. -/
def classNames : List String :=
  ["alnum", "alpha", "ascii", "blank", "cntrl", "digit", "graph", "lower",
    "print", "punct", "space", "upper", "word", "xdigit"]

/-- Reads the name of a class behind its opening bracket, if there is one. -/
def readNamed? (text : List Char) : Option (Bool × List Char) :=
  match text with
  | ':' :: rest =>
    let negated := rest.head? = some '^'
    let body := if negated then rest.drop 1 else rest
    let name := body.takeWhile (fun letter => letter ≠ ':')
    match body.dropWhile (fun letter => letter ≠ ':') with
    | ':' :: ']' :: left =>
      if classNames.contains (String.ofList name) then some (negated, left)
      else none
    | _ => none
  | _ => none

/-- Whether an item may stand in a class. -/
def Flags.allowsInClass (flags : Flags) : Item → Bool
  | .letter letter _ =>
    if flags.wide then !flags.caseless else letter.toNat < 128
  | .shorthand negated => !flags.wide && !negated
  | .wordBoundary | .position => false

/-- Reads an item of a class. -/
def readClassItem (flags : Flags) :
    List Char → Except Fault (Item × List Char)
  | [] => .error .form
  | '\\' :: rest => readEscape flags rest
  | letter :: rest => .ok (.letter letter false, rest)

/-- The letter after the blanks that are allowed.  Of a comment only the sign
that starts it is passed over. -/
def Flags.peek? (flags : Flags) (text : List Char) : Option Char :=
  if flags.spaced then
    match text.dropWhile isBlank with
    | '#' :: rest => (rest.dropWhile isBlank).head?
    | rest => rest.head?
  else
    text.head?

/-- Whether a minus sign before a text stands for a range. -/
def isRangeMark (flags : Flags) (text : List Char) : Bool :=
  match flags.peek? text with
  | some ']' | some '-' => false
  | _ => true

/-- Reads an item of a class or a range of letters. -/
def readClassRange (flags : Flags) (text : List Char) :
    Except Fault (List Char) :=
  match readClassItem flags text with
  | .error fault => .error fault
  | .ok (first, left) =>
    if !flags.allowsInClass first then .error .form
    else
      match flags.skip left with
      | [] => .error .form
      | '-' :: rest =>
        if isRangeMark flags rest then
          match readClassItem flags (flags.skip rest) with
          | .error fault => .error fault
          | .ok (last, left) =>
            match first, last with
            | .letter low _, .letter high _ =>
              if flags.allowsInClass last && low ≤ high then .ok left
              else .error .form
            | _, _ => .error .form
        else
          .ok ('-' :: rest)
      | left => .ok left

/-- What was read of a class: the number of its items and the depth of the
deepest of them since the last operator, and the depth of what stands in front
of that operator. -/
structure ClassLevel where
  count : Nat := 0
  deepest : Nat := 0
  operand : Option Nat := none
  deriving DecidableEq, Repr

namespace ClassLevel

/-- Adds an item of a depth. -/
def add (level : ClassLevel) (depth : Nat) : ClassLevel :=
  { level with
    count := level.count + 1, deepest := max level.deepest depth }

/-- The depth of the items since the last operator. -/
def lastDepth (level : ClassLevel) : Nat :=
  if level.count ≤ 1 then level.deepest else level.deepest + 1

/-- The depth of all that was read. -/
def depth (level : ClassLevel) : Nat :=
  match level.operand with
  | none => level.lastDepth
  | some operand => max operand level.lastDepth + 1

/-- Goes on behind an operator. -/
def operate (level : ClassLevel) : ClassLevel where
  operand := some level.depth

end ClassLevel

/-- Drops the minus signs at the start of a class, and counts them. -/
def dropMinus (flags : Flags) : Nat → List Char → Nat × List Char
  | fuel + 1, '-' :: rest =>
    let (count, left) := dropMinus flags fuel (flags.skip rest)
    (count + 1, left)
  | _, text => (0, text)

/-- Reads the start of a class behind its opening bracket: whether it is
negated, and a first bracket that closes nothing. -/
def readClassStart (flags : Flags) (text : List Char) :
    Except Fault (ClassLevel × List Char) :=
  let opened := flags.skip text
  let negated := opened.head? = some '^'
  let body := if negated then flags.skip (opened.drop 1) else opened
  let (count, rest) := dropMinus flags body.length body
  if negated && !flags.wide || rest.isEmpty then .error .form
  else if (count ≠ 0 || rest.head? = some ']') && flags.wide &&
      flags.caseless then
    .error .form
  else
    match rest with
    | ']' :: left =>
      if count = 0 then .ok ({ count := 1 }, flags.skip left)
      else .ok ({ count }, rest)
    | _ => .ok ({ count }, rest)

/-- Reads the rest of some nested classes, of which the innermost comes first;
gives the depth of the outermost one.  The fuel is more than what is read. -/
def readClasses (flags : Flags) : Nat → ClassLevel → List ClassLevel →
    List Char → Except Fault (Nat × List Char)
  | 0, _, _, _ => .error .form
  | fuel + 1, level, outer, text =>
    match flags.skip text with
    | [] => .error .form
    | '[' :: rest =>
      match readNamed? rest with
      | some (negated, left) =>
        if flags.wide && flags.caseless || !flags.wide && negated then
          .error .form
        else
          readClasses flags fuel (level.add 0) outer left
      | none =>
        match readClassStart flags rest with
        | .error fault => .error fault
        | .ok (inner, left) =>
          readClasses flags fuel inner (level :: outer) left
    | ']' :: rest =>
      match outer with
      | [] => .ok (level.depth + 1, rest)
      | around :: further =>
        readClasses flags fuel (around.add (level.depth + 1)) further rest
    | '&' :: '&' :: rest | '-' :: '-' :: rest | '~' :: '~' :: rest =>
      readClasses flags fuel level.operate outer rest
    | other =>
      match readClassRange flags other with
      | .error fault => .error fault
      | .ok left => readClasses flags fuel (level.add 0) outer left

/-- Reads a class behind its opening bracket; gives its depth. -/
def readClass (flags : Flags) (text : List Char) :
    Except Fault (Nat × List Char) :=
  match readClassStart flags text with
  | .error fault => .error fault
  | .ok (level, left) => readClasses flags (left.length + 1) level [] left

/-! ## Groups -/

/-- The letters that set or clear a flag. -/
def flagLetters : List Char :=
  ['i', 'm', 's', 'U', 'u', 'R', 'x']

/-- Sets or clears the flag of a letter. -/
def Flags.put (flags : Flags) (letter : Char) (value : Bool) : Flags :=
  match letter with
  | 'i' => { flags with caseless := value }
  | 'u' => { flags with wide := value }
  | 'x' => { flags with spaced := value }
  | _ => flags

/-- Reads flags up to the colon or the parenthesis behind them, given what was
read before and whether the flags are cleared; tells whether a group
follows. -/
def readFlags (flags : Flags) (seen : List Char) (clears : Bool) :
    List Char → Except Fault (Flags × Bool × List Char)
  | [] => .error .form
  | letter :: rest =>
    if letter = ':' || letter = ')' then
      if seen.head? = some '-' || letter = ')' && seen.isEmpty then
        .error .form
      else
        .ok (flags, letter = ':', rest)
    else if seen.contains letter then .error .form
    else if letter = '-' then readFlags flags (letter :: seen) true rest
    else if flagLetters.contains letter then
      readFlags (flags.put letter !clears) (letter :: seen) clears rest
    else .error .form

/-- Whether a letter may stand in the name of a group, or at its start. -/
def isNameLetter (atStart : Bool) (letter : Char) : Bool :=
  letter = '_' ||
    if atStart then Text.Alphanumeric.isLetter letter
    else
      ['.', '[', ']'].contains letter || Text.Alphanumeric.holds letter

/-- Reads the name of a group up to the bracket behind it. -/
def readGroupName (text : List Char) : Except Fault (String × List Char) :=
  let name := text.takeWhile (fun letter => letter ≠ '>')
  match name, text.dropWhile (fun letter => letter ≠ '>') with
  | first :: more, _ :: rest =>
    if isNameLetter true first && more.all (isNameLetter false) then
      .ok (String.ofList name, rest)
    else
      .error .form
  | _, _ => .error .form

/-! ## Patterns -/

/-- What a pattern is made of: a setting of flags, or what can be repeated. -/
inductive Piece where
  | flags
  | item (depth : Nat)
  deriving DecidableEq, Repr

/-- How deep a piece is nested: a letter is not, and whatever is made of
others is one deeper than they are. -/
def Piece.depth : Piece → Nat
  | flags => 0
  | item depth => depth

/-- The depth of pieces one after the other. -/
def sequenceDepth : List Piece → Nat
  | [] => 0
  | [piece] => piece.depth
  | pieces => (pieces.map Piece.depth).foldl max 0 + 1

/-- What was read of a group: the depth of the deepest alternative before the
last one, if there are any, and the pieces of the last one in reverse. -/
structure Level where
  alternatives : Option Nat := none
  pieces : List Piece := []

namespace Level

/-- Adds a piece. -/
def add (level : Level) (piece : Piece) : Level :=
  { level with pieces := piece :: level.pieces }

/-- Repeats the last piece, if it can be repeated. -/
def repeatLast? (level : Level) : Option Level :=
  match level.pieces with
  | .item depth :: rest =>
    some { level with pieces := .item (depth + 1) :: rest }
  | _ => none

/-- Goes on with another alternative. -/
def branch (level : Level) : Level where
  alternatives :=
    some (max (level.alternatives.getD 0) (sequenceDepth level.pieces))

/-- The depth of all that was read. -/
def depth (level : Level) : Nat :=
  match level.alternatives with
  | none => sequenceDepth level.pieces
  | some deepest => max deepest (sequenceDepth level.pieces) + 1

end Level

/-- The greatest depth of a pattern. -/
def greatestDepth : Nat :=
  250

/-- What is known at a place in a pattern: the flags there, what was read of
the innermost group, both around each open group, the names of groups, and
whether there is a boundary of words of Unicode. -/
structure State where
  flags : Flags := {}
  level : Level := {}
  outer : List (Flags × Level) := []
  names : List String := []
  bounded : Bool := false

namespace State

/-- Adds a piece. -/
def addPiece (state : State) (piece : Piece) : State :=
  { state with level := state.level.add piece }

/-- Opens a group with flags. -/
def openGroup (state : State) (flags : Flags) : State :=
  { state with
    flags, level := {}, outer := (state.flags, state.level) :: state.outer }

/-- Closes the innermost group, if one is open. -/
def closeGroup? (state : State) : Option State :=
  match state.outer with
  | [] => none
  | (flags, level) :: outer =>
    some { state with
      flags, outer, level := level.add (.item (state.level.depth + 1)) }

/-- Opens a group with a name that no other has. -/
def openNamed (state : State) (text : List Char) :
    Except Fault (State × List Char) :=
  match readGroupName text with
  | .error fault => .error fault
  | .ok (name, rest) =>
    if state.names.contains name then .error .form
    else
      .ok ({ state.openGroup state.flags with
        names := name :: state.names }, rest)

/-- Reads what follows an opening parenthesis. -/
def readOpening (state : State) (text : List Char) :
    Except Fault (State × List Char) :=
  match state.flags.skip text with
  | '?' :: '!' :: _ | '?' :: '=' :: _ | '?' :: '<' :: '!' :: _
  | '?' :: '<' :: '=' :: _ => .error .form
  | '?' :: 'P' :: '<' :: rest | '?' :: '<' :: rest => state.openNamed rest
  | '?' :: rest =>
    match readFlags state.flags [] false rest with
    | .error fault => .error fault
    | .ok (flags, true, left) => .ok (state.openGroup flags, left)
    | .ok (flags, false, left) =>
      .ok ({ state with flags }.addPiece .flags, left)
  | rest => .ok (state.openGroup state.flags, rest)

/-- Adds an item. -/
def add (state : State) : Item → Except Fault State
  | .letter letter octet =>
    if state.flags.wide && state.flags.caseless ||
        !state.flags.wide && octet && 128 ≤ letter.toNat then
      .error .form
    else
      .ok (state.addPiece (.item 0))
  | .shorthand negated =>
    if state.flags.wide || negated then .error .form
    else .ok (state.addPiece (.item 0))
  | .wordBoundary =>
    .ok { state.addPiece (.item 0) with
      bounded := state.bounded || state.flags.wide }
  | .position => .ok (state.addPiece (.item 0))

/-- Reads what stands next in a pattern. -/
def step (state : State) (letter : Char) (rest : List Char) :
    Except Fault (State × List Char) :=
  match letter with
  | '(' => state.readOpening rest
  | ')' =>
    match state.closeGroup? with
    | none => .error .form
    | some closed => .ok (closed, rest)
  | '|' => .ok ({ state with level := state.level.branch }, rest)
  | '[' =>
    (readClass state.flags rest).map
      (fun (depth, left) => (state.addPiece (.item depth), left))
  | '?' | '*' | '+' =>
    match state.level.repeatLast? with
    | none => .error .form
    | some level =>
      .ok ({ state with level },
        if rest.head? = some '?' then rest.drop 1 else rest)
  | '\x7b' => .error .form
  | '\\' =>
    match readEscape state.flags rest with
    | .error fault => .error fault
    | .ok (item, left) => (state.add item).map (fun added => (added, left))
  | '.' =>
    if state.flags.wide then .ok (state.addPiece (.item 0), rest)
    else .error .form
  | '^' | '$' => .ok (state.addPiece (.item 0), rest)
  | other =>
    (state.add (.letter other false)).map (fun added => (added, rest))

/-- Reads a pattern to its end; the fuel is more than what is read. -/
def readAll (state : State) : Nat → List Char → Except Fault State
  | 0, _ => .error .form
  | fuel + 1, text =>
    match state.flags.skip text with
    | [] => if state.outer.isEmpty then .ok state else .error .form
    | letter :: rest =>
      match state.step letter rest with
      | .error fault => .error fault
      | .ok (next, left) => next.readAll fuel left

end State

/-- Whether a text is a pattern. -/
def check (text : String) : Except Fault Unit :=
  match ({} : State).readAll (text.length + 1) text.toList with
  | .error fault => .error fault
  | .ok state =>
    if greatestDepth < state.level.depth then .error .form
    else if state.bounded then .error .wordBoundary
    else .ok ()

end Workloads.Log.Pattern
