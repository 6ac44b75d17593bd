import Workloads.Bytes

/-!
# Media types

Whether a content type announces JSON: its type is `application`, and its
subtype is `json` or ends in `+json`.  Letter case does not matter; parameters
may follow, but they have to be well formed.
-/

namespace Workloads.Http.MediaType

/-- The octets that names and bare values are made of. -/
def isToken (octet : UInt8) : Bool :=
  (48 ≤ octet && octet ≤ 57) || (65 ≤ octet && octet ≤ 90) ||
    (97 ≤ octet && octet ≤ 122) ||
    [33, 35, 36, 37, 38, 39, 42, 43, 45, 46, 94, 95, 96, 124, 126].contains
      octet

/-- The octets that a header value may have to count as text. -/
def isVisible (octet : UInt8) : Bool :=
  (32 ≤ octet && octet < 127) || octet = 9

/-- Where the reading of parameters stands. -/
inductive ParameterState where
  | beforeName
  | name
  | beforeValue
  | bare
  | opened
  | quoted
  | afterQuoted
  deriving DecidableEq, Repr

/-- What an octet does to the reading of parameters, if it fits. -/
def parameterStep : ParameterState → UInt8 → Option ParameterState
  | .beforeName, octet =>
    if octet = 32 then some .beforeName
    else if isToken octet then some .name
    else none
  | .name, octet =>
    if octet = 61 then some .beforeValue
    else if isToken octet then some .name
    else none
  | .beforeValue, octet =>
    if octet = 34 then some .opened
    else if isToken octet then some .bare
    else none
  | .bare, octet =>
    if octet = 59 then some .beforeName
    else if isToken octet then some .bare
    else none
  | .opened, octet =>
    if 32 ≤ octet && octet ≠ 127 then some .quoted else none
  | .quoted, octet =>
    if octet = 34 then some .afterQuoted
    else if 32 ≤ octet && octet ≠ 127 then some .quoted
    else none
  | .afterQuoted, octet =>
    if octet = 59 then some .beforeName
    else if octet = 32 then some .afterQuoted
    else none

/-- Whether parameters may end here. -/
def mayEnd : ParameterState → Bool
  | .name | .opened | .quoted => false
  | _ => true

/-- Whether a text is a list of parameters. -/
def areParameters (text : Bytes) : Bool :=
  match text.foldlM parameterStep .beforeName with
  | some state => mayEnd state
  | none => false

/-- A media type without its parameters. -/
structure Essence where
  kind : Bytes
  subtype : Bytes
  deriving DecidableEq, Repr

/-- Reads a media type. -/
def essence? (text : Bytes) : Option Essence :=
  let kind := text.takeWhile isToken
  match text.dropWhile isToken with
  | 47 :: rest =>
    let subtype := rest.takeWhile isToken
    let essence : Essence :=
      { kind := kind.map Bytes.lower, subtype := subtype.map Bytes.lower }
    if kind.isEmpty then none
    else
      match rest.dropWhile isToken with
      | [] => some essence
      | 59 :: parameters =>
        if subtype.isEmpty then none
        else if areParameters parameters then some essence
        else none
      | _ => none
  | _ => none

/-- The parts of a subtype before and after its last plus sign; a plus sign
in front counts as a letter. -/
def suffixSplit (subtype : Bytes) : Bytes × Option Bytes :=
  let reversed := subtype.reverse
  let suffix := (reversed.takeWhile (· ≠ 43)).reverse
  match reversed.dropWhile (· ≠ 43) with
  | 43 :: next :: rest => ((next :: rest).reverse, some suffix)
  | _ => (subtype, none)

/-- Whether a media type is one of JSON. -/
def Essence.isJson (essence : Essence) : Bool :=
  let json := Bytes.ofText "json"
  let (base, suffix) := suffixSplit essence.subtype
  essence.kind = Bytes.ofText "application" &&
    (base = json || suffix = some json)

/-- Whether the value of a content type header announces JSON. -/
def announcesJson (header : String) : Bool :=
  let text := Bytes.ofText header
  text.all isVisible &&
    match essence? text with
    | some essence => essence.isJson
    | none => false

end Workloads.Http.MediaType
