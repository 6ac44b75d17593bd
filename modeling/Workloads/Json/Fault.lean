import Workloads.Decimal.Shortest
import Workloads.Text.Quoted

/-!
# What can be wrong with a JSON text

A text is read from left to right and the first problem counts.  A problem is
one of three kinds: the text ends too early, it is not JSON, or it is JSON of
the wrong shape.  A fault adds the place of the value that was being read.
-/

namespace Workloads.Json

/-- What a value turned out to be. -/
inductive Found where
  | null
  | boolean (value : Bool)
  | integer (value : Int)
  | floating (negative : Bool) (magnitude : Decimal.Binary64)
  | string (value : String)
  | sequence
  | map
  deriving DecidableEq, Repr

/-- What is wrong with a text. -/
inductive Problem where
  -- The text ends too early.
  | endInValue
  | endInString
  | endInList
  | endInObject
  -- The text is not JSON.
  | expectedValue
  | expectedColon
  | expectedListCommaOrEnd
  | expectedObjectCommaOrEnd
  | trailingComma
  | trailingCharacters
  | keyNotString
  | invalidNumber
  | numberOutOfRange
  | misspelledLiteral
  | invalidEscape
  | loneSurrogate
  | unfinishedSurrogate
  | notUnicode
  | controlCharacter
  -- The text is JSON of the wrong shape.
  | wrongType (found : Found) (wanted : String)
  | wrongNumber (value : Int) (wanted : String)
  | wrongLength (length : Nat) (wanted : String)
  | duplicateField (name : String)
  | missingField (name : String)
  | unknownVariant (name : String) (known : List String)
  deriving DecidableEq, Repr

/-- The three kinds of problems. -/
inductive Category where
  | truncated
  | malformed
  | mismatched
  deriving DecidableEq, Repr

namespace Problem

/-- The kind of a problem. -/
def category : Problem → Category
  | endInValue | endInString | endInList | endInObject => .truncated
  | wrongType _ _ | wrongNumber _ _ | wrongLength _ _
  | duplicateField _ | missingField _ | unknownVariant _ _ => .mismatched
  | _ => .malformed

/-- Numbers in messages have at least one decimal; from ten to the sixteenth
on and below ten to the minus fifth they have a signed exponent. -/
def numberLayout : Decimal.Layout where
  largestPositional := 15
  smallestPositional := -5
  emptyFraction := ".0"
  positiveMark := "e+"
  negativeMark := "e-"

/-- A word between the marks that set it off in a message. -/
def marked (word : String) : String :=
  "\x60" ++ word ++ "\x60"

/-- The wording for what a value turned out to be. -/
def foundText : Found → String
  | .null => "null"
  | .boolean value =>
    "boolean " ++ marked (if value then "true" else "false")
  | .integer value => "integer " ++ marked (toString value)
  | .floating negative magnitude =>
    "floating point " ++
      marked ((if negative then "-" else "") ++
        numberLayout.writeShortest magnitude)
  | .string value => "string " ++ Text.Quoted.quote value
  | .sequence => "sequence"
  | .map => "map"

/-- The wording of a problem.  The line and the column at which it was found are
left out. -/
def text : Problem → String
  | endInValue => "EOF while parsing a value"
  | endInString => "EOF while parsing a string"
  | endInList => "EOF while parsing a list"
  | endInObject => "EOF while parsing an object"
  | expectedValue => "expected value"
  | expectedColon => "expected " ++ marked ":"
  | expectedListCommaOrEnd =>
    "expected " ++ marked "," ++ " or " ++ marked "]"
  | expectedObjectCommaOrEnd =>
    "expected " ++ marked "," ++ " or " ++ marked "\x7d"
  | trailingComma => "trailing comma"
  | trailingCharacters => "trailing characters"
  | keyNotString => "key must be a string"
  | invalidNumber => "invalid number"
  | numberOutOfRange => "number out of range"
  | misspelledLiteral => "expected ident"
  | invalidEscape => "invalid escape"
  | loneSurrogate => "lone leading surrogate in hex escape"
  | unfinishedSurrogate => "unexpected end of hex escape"
  | notUnicode => "invalid unicode code point"
  | controlCharacter =>
    "control character (\\u0000-\\u001F) found while parsing a string"
  | wrongType found wanted =>
    "invalid type: " ++ foundText found ++ ", expected " ++ wanted
  | wrongNumber value wanted =>
    "invalid value: integer " ++ marked (toString value) ++
      ", expected " ++ wanted
  | wrongLength length wanted =>
    "invalid length " ++ toString length ++ ", expected " ++ wanted
  | duplicateField name => "duplicate field " ++ marked name
  | missingField name => "missing field " ++ marked name
  | unknownVariant name known =>
    "unknown variant " ++ marked name ++ ", expected one of " ++
      String.intercalate ", " (known.map marked)

end Problem

/-! ## Places -/

/-- One step from a value to a value inside it. -/
inductive PathStep where
  | index (position : Nat)
  | key (name : String)
  /-- A member whose key could not be read. -/
  | unreadable
  deriving DecidableEq, Repr

/-- A problem and the place of the value that was being read. -/
structure Fault where
  path : List PathStep := []
  problem : Problem
  deriving DecidableEq, Repr

namespace Fault

/-- The fault as seen from the value that encloses the faulty one. -/
def within (step : PathStep) (fault : Fault) : Fault :=
  { fault with path := step :: fault.path }

/-- The wording of a path: members are separated by dots, positions stand in
brackets. -/
def pathText : Bool → List PathStep → String
  | _, [] => ""
  | _, .index position :: rest =>
    "[" ++ toString position ++ "]" ++ pathText true rest
  | inner, .key name :: rest =>
    (if inner then "." else "") ++ name ++ pathText true rest
  | inner, .unreadable :: rest =>
    (if inner then "." else "") ++ "?" ++ pathText true rest

/-- The wording of a fault with its place in front, unless the place says
nothing. -/
def located (fault : Fault) : String :=
  if fault.path.all (fun step => step = .unreadable) then
    fault.problem.text
  else
    pathText false fault.path ++ ": " ++ fault.problem.text

end Fault

end Workloads.Json
