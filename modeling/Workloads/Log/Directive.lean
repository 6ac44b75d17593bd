import Workloads.Bytes
import Workloads.Event
import Workloads.Log.Pattern
import Workloads.Settings.Numeral

/-!
# Directives

One part of a log filter: a least level, perhaps only for the events whose
origin starts with a text, within a span, or with a field.  It is written as a
level alone or as an origin, then a span and a field in brackets, then an
equals sign and a level, and all but one of these may be left out.  White
space around a directive is not skipped: it counts when the parts are cut out,
but not when their ends are looked for.  Both count octets.
-/

namespace Workloads.Log

/-- The least level that passes; without one nothing does. -/
abbrev Threshold := Option Level

/-- Whether a level reaches a threshold. -/
def Threshold.admits (threshold : Threshold) (level : Level) : Bool :=
  match threshold with
  | none => false
  | some least => least.weight ≤ level.weight

/-- Why a text is no directive. -/
inductive DirectiveFault where
  | form
  | level
  | field (fault : Pattern.Fault)
  deriving DecidableEq, Repr

/-- The wording of a directive fault. -/
def DirectiveFault.text : DirectiveFault → String
  | form => "invalid filter directive"
  | level =>
    "error parsing level filter: expected one of \"off\", \"error\", " ++
      "\"warn\", \"info\", \"debug\", \"trace\", or a number 0-5"
  | field fault => "invalid field filter: " ++ fault.text

/-! ## Levels -/

/-- The thresholds by their numbers. -/
def thresholdOfNumber? : Nat → Option Threshold
  | 0 => some none
  | 1 => some (some .error)
  | 2 => some (some .warn)
  | 3 => some (some .info)
  | 4 => some (some .debug)
  | 5 => some (some .trace)
  | _ => none

/-- The thresholds by their words, in any letter case. -/
def thresholdOfWord? (word : String) : Option Threshold :=
  match word.toLower with
  | "off" => some none
  | "error" => some (some .error)
  | "warn" => some (some .warn)
  | "info" => some (some .info)
  | "debug" => some (some .debug)
  | "trace" => some (some .trace)
  | _ => none

/-- The threshold that a number or a word names. -/
def threshold? (text : String) : Option Threshold :=
  match Numeral.readUnsigned 0xFFFFFFFFFFFFFFFF text with
  | .ok number => thresholdOfNumber? number
  | .error _ => thresholdOfWord? text

/-- The threshold behind an equals sign; without any text everything
passes. -/
def readThreshold (text : String) : Except DirectiveFault Threshold :=
  if text.isEmpty then .ok (some .trace)
  else
    match threshold? text with
    | some threshold => .ok threshold
    | none => .error .level

/-! ## Fields -/

/-- A field that events must have, and whether its value matters. -/
structure FieldFilter where
  name : String
  valued : Bool
  deriving DecidableEq, Repr

/-- Whether a text is a number as it is written with a point or an
exponent. -/
def isDecimal (text : String) : Bool :=
  let unsigned :=
    match text.toList with
    | '+' :: rest | '-' :: rest => rest
    | letters => letters
  let whole := unsigned.takeWhile Char.isDigit
  let afterWhole := unsigned.dropWhile Char.isDigit
  let fraction :=
    match afterWhole with
    | '.' :: rest => rest.takeWhile Char.isDigit
    | _ => []
  let afterFraction :=
    match afterWhole with
    | '.' :: rest => rest.dropWhile Char.isDigit
    | _ => afterWhole
  let exponent :=
    match afterFraction with
    | 'e' :: '+' :: rest | 'e' :: '-' :: rest | 'E' :: '+' :: rest
    | 'E' :: '-' :: rest | 'e' :: rest | 'E' :: rest => some rest
    | _ => none
  let ended :=
    match exponent with
    | none => afterFraction.isEmpty
    | some digits => !digits.isEmpty && digits.all Char.isDigit
  ["inf", "infinity", "nan"].contains (String.ofList unsigned).toLower ||
    !(whole ++ fraction).isEmpty && ended

/-- Whether a text is a value by itself, and needs no pattern. -/
def isPlainValue (text : String) : Bool :=
  text = "true" || text = "false" || isDecimal text

/-- Reads a field: its name, then perhaps an equals sign and a value, which
another equals sign ends. -/
def FieldFilter.read (text : String) :
    Except DirectiveFault FieldFilter :=
  match text.splitOn "=" with
  | name :: value :: _ =>
    if isPlainValue value then .ok { name, valued := true }
    else
      match Pattern.check value with
      | .ok _ => .ok { name, valued := true }
      | .error fault => .error (.field fault)
  | _ => .ok { name := text, valued := false }

/-! ## Directives -/

/-- A least level for some events. -/
structure Directive where
  target : Option String := none
  span : Option String := none
  field : Option FieldFilter := none
  threshold : Threshold := some .trace
  deriving DecidableEq, Repr

namespace Directive

/-- What is being read, and from where on. -/
inductive Stage where
  | opening
  | word (start : Nat)
  | span (start : Nat)
  | field (start : Nat)
  | afterField
  | afterSpan
  | level (start : Nat)
  deriving DecidableEq, Repr

/-- Whether a directive may start with a letter. -/
def isOpening (letter : Char) : Bool :=
  ['-', ':', '_'].contains letter || Text.Alphanumeric.holds letter

/-- Reads the letter at a position; the parts that it ends are cut out by
their bounds. -/
def take (part : Nat → Nat → String) (directive : Directive)
    (stage : Stage) (position : Nat) (letter : Char) :
    Except DirectiveFault (Directive × Stage) :=
  match stage, letter with
  | .opening, '[' => .ok (directive, .span (position + 1))
  | .opening, letter =>
    if isOpening letter then .ok (directive, .word position)
    else .error .form
  | .word start, '=' =>
    .ok ({ directive with target := some (part start position) },
      .level (position + 1))
  | .word start, '[' =>
    .ok ({ directive with target := some (part start position) },
      .span (position + 1))
  | .span start, ']' =>
    .ok ({ directive with span := some (part start position) }, .afterSpan)
  | .span start, '\x7b' =>
    let name := part start position
    .ok ({ directive with
      span := if name.isEmpty then none else some name },
      .field (position + 1))
  | .field start, '\x7d' =>
    let text := part start position
    if text.isEmpty then .error .form
    else
      (FieldFilter.read text).map
        (fun field =>
          ({ directive with field := some field }, .afterField))
  | .afterField, ']' => .ok (directive, .afterSpan)
  | .afterSpan, '=' => .ok (directive, .level (position + 1))
  | .afterField, _ | .afterSpan, _ => .error .form
  | stage, _ => .ok (directive, stage)

/-- Reads letters from a position on; a letter is as wide as its octets. -/
def takeAll (part : Nat → Nat → String) (directive : Directive)
    (stage : Stage) (position : Nat) :
    List Char → Except DirectiveFault (Directive × Stage)
  | [] => .ok (directive, stage)
  | letter :: rest =>
    match take part directive stage position letter with
    | .error fault => .error fault
    | .ok (directive, stage) =>
      takeAll part directive stage (position + letter.utf8Size) rest

/-- The directive when the text ends. -/
def finish (partFrom : Nat → String) (directive : Directive) :
    Stage → Except DirectiveFault Directive
  | .word start =>
    let word := partFrom start
    match threshold? word with
    | some threshold => .ok { directive with threshold }
    | none => .ok { directive with target := some word }
  | .level start =>
    (readThreshold (partFrom start)).map
      (fun threshold => { directive with threshold })
  | .afterSpan => .ok directive
  | _ => .error .form

/-- Reads a directive.  The ends of its parts are found in the text without
the white space around it, and the parts are cut out of the whole text. -/
def read (text : String) : Except DirectiveFault Directive :=
  let letters := text.toList
  let trimmed :=
    ((letters.dropWhile Pattern.isBlank).reverse.dropWhile
      Pattern.isBlank).reverse
  let octets := Bytes.ofText text
  let partFrom := fun start => octets.drop start
  let part := fun start stop => (partFrom start).take (stop - start)
  match takeAll (fun start stop => Bytes.readable (part start stop)) {}
      .opening 0 trimmed with
  | .error fault => .error fault
  | .ok (directive, stage) =>
    finish (fun start => Bytes.readable (partFrom start)) directive stage

/-- Whether a directive can concern events outside spans. -/
def isGeneral (directive : Directive) : Bool :=
  directive.span.isNone &&
    (directive.field.all fun field => !field.valued)

/-- Whether a directive concerns the events of an origin with some fields. -/
def concerns (directive : Directive) (origin : String)
    (names : List String) : Bool :=
  directive.isGeneral &&
    (directive.target.all fun start =>
      start.toList.isPrefixOf origin.toList) &&
    (directive.field.all fun field => names.contains field.name)

/-- Whether the second of two directives that concern an event decides about
it: the one with the longer start of an origin does, of equals the one with a
field, of two with fields the one with the later name, and of equals the
second. -/
def yields (first second : Directive) : Bool :=
  let length (directive : Directive) : Nat :=
    match directive.target with
    | none => 0
    | some start => start.length + 1
  if length first = length second then
    match first.field, second.field with
    | none, _ => true
    | some _, none => false
    | some left, some right => left.name ≤ right.name
  else
    length first < length second

end Directive

end Workloads.Log
