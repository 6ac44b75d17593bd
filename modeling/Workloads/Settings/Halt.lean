import Workloads.Service
import Workloads.KeyMap
import Workloads.Settings.Basic
import Workloads.Text.Similarity
import Workloads.Text.Terminal

/-!
# Flags, and why reading the settings stops

Besides the flags of the settings there are two that ask for help and for the
version.  Reading stops at such a question and at the first mistake; either is
answered by a text, and a mistake by the exit code two.
-/

namespace Workloads

/-- A flag of the command line. -/
inductive Flag where
  | setting (setting : Setting)
  | help
  | version
  deriving DecidableEq, Repr

namespace Flag

/-- All flags, in the order in which they are listed. -/
def all : List Flag :=
  Setting.all.map setting ++ [help, version]

/-- The word of a flag. -/
def word : Flag → String
  | setting found => found.word
  | help => "help"
  | version => "version"

/-- The flag of a word. -/
def ofWord? (word : String) : Option Flag :=
  all.find? (fun flag => flag.word = word)

/-- The letter of a flag that can be written as a letter. -/
def ofLetter? : Char → Option Flag
  | 'h' => some help
  | 'V' => some version
  | _ => none

/-- What stands for the value of a flag in messages. -/
def valueLabel : Flag → String
  | setting found => " <" ++ found.placeholder ++ ">"
  | help | version => ""

/-- A flag as messages name it. -/
def label (flag : Flag) : String :=
  "--" ++ flag.word ++ flag.valueLabel

/-- A flag as the help names it. -/
def boldLabel (flag : Flag) : String :=
  Text.Terminal.bold ("--" ++ flag.word) ++ flag.valueLabel

/-- How alike a word and that of a flag must be for the flag to be meant. -/
def threshold : Float :=
  0.7

/-- The flag that a misspelled word is most like; of equals the later. -/
def similar? (misspelled : String) : Option Flag :=
  (all.foldl closer (none, threshold)).1
where
  closer (best : Option Flag × Float) (flag : Flag) :
      Option Flag × Float :=
    let measure := Text.Similarity.measure misspelled flag.word
    if threshold < measure ∧ best.2 ≤ measure then (some flag, measure)
    else best

end Flag

/-- Why reading the settings stops. -/
inductive Halt where
  | help
  | version
  | invalidValue (setting : Setting) (text : String) (fault : ValueFault)
  | missingValue (setting : Setting)
  | repeated (setting : Setting)
  /-- A value for a flag that has none, after settings or not. -/
  | surplusValue (flag : Flag) (text : String) (afterSettings : Bool)
  | unexpected (argument : String)
  /-- A word that is no flag, after these settings. -/
  | unknownFlag (word : String) (used : List Setting)
  deriving DecidableEq, Repr

/-! ## Help -/

namespace Help

/-- The width of the left side of all entries. -/
def width : Nat :=
  (Setting.all.map
    (fun setting => (Flag.setting setting).label.length)).foldl max 0 + 6

/-- An entry of a flag: its letter, its word, what stands for its value, and
behind the common width what it is for; further lines of that are moved as far
to the right. -/
def entry (letter : Option Char) (flag : Flag) (purpose : String) : String :=
  let indent := String.ofList (List.replicate (width + 2) ' ')
  let letterPart :=
    match letter with
    | none => "    "
    | some letter =>
      Text.Terminal.bold (String.ofList ['-', letter]) ++ ", "
  "  " ++ letterPart ++ flag.boldLabel ++
    String.ofList
      (List.replicate (width - 4 - flag.label.length) ' ') ++
    String.intercalate ("\n" ++ indent) (purpose.splitOn "\n")

/-- The entry of a setting, with its variable as it is now. -/
def settingEntry (environment : KeyMap String) (setting : Setting) :
    String :=
  let current := (environment.get? setting.variableName).getD ""
  entry none (.setting setting)
    (setting.purpose ++
      " [env: " ++ setting.variableName ++ "=" ++ current ++ "]" ++
      " [default: " ++ setting.write setting.byDefault ++ "]")

/-- The usage of the service. -/
def usage : String :=
  "Usage: " ++ Service.name ++ " [OPTIONS]"

/-- The answer to a question for help. -/
def lines (environment : KeyMap String) : List String :=
  [Service.purpose, "", usage, "", "Options:"] ++
    Setting.all.map (settingEntry environment) ++
    [entry (some 'h') .help "Print help",
      entry (some 'V') .version "Print version"]

end Help

/-! ## Messages -/

namespace Halt

/-- What is quoted in a headline. -/
def quoted (text : String) : String :=
  "'" ++ Text.Terminal.bold text ++ "'"

/-- What went wrong, in one line. -/
def headline : Halt → String
  | help | version => ""
  | invalidValue setting text fault =>
    "error: invalid value " ++ quoted text ++ " for " ++
      quoted (Flag.setting setting).label ++ ": " ++ fault.text
  | missingValue setting =>
    "error: a value is required for " ++
      quoted (Flag.setting setting).label ++ " but none was supplied"
  | repeated setting =>
    "error: the argument " ++ quoted (Flag.setting setting).label ++
      " cannot be used multiple times"
  | surplusValue flag text _ =>
    "error: unexpected value " ++ quoted text ++ " for " ++
      quoted flag.label ++ " found; no more were expected"
  | unexpected argument =>
    "error: unexpected argument " ++ quoted argument ++ " found"
  | unknownFlag word _ =>
    "error: unexpected argument " ++ quoted ("--" ++ word) ++ " found"

/-- The usage of the service with some parts. -/
def usageWith (parts : List String) : String :=
  if parts.isEmpty then Help.usage
  else
    "Usage: " ++ Service.name ++ " " ++ String.intercalate " " parts

/-- All settings as alternatives. -/
def alternatives : String :=
  "<" ++
    String.intercalate "|"
      (Setting.all.map (fun setting => (Flag.setting setting).label)) ++
    ">"

/-- The hint at a flag that was probably meant. -/
def tip : Option Flag → List String
  | none => []
  | some flag =>
    ["  tip: a similar argument exists: '--" ++ flag.word ++ "'", ""]

/-- What stands between the headline and the closing line. -/
def details : Halt → List String
  | help | version | invalidValue _ _ _ | missingValue _ => []
  | repeated _ | unexpected _ => [Help.usage, ""]
  | surplusValue flag _ afterSettings =>
    [usageWith
      (flag.label :: if afterSettings then [alternatives] else []), ""]
  | unknownFlag word used =>
    let meant := Flag.similar? word
    let flags := used.map Flag.setting
    let listed :=
      match meant with
      | none => flags
      | some flag => if flags.contains flag then flags else flags ++ [flag]
    tip meant ++ [usageWith (listed.map Flag.label), ""]

/-- The whole answer, as a terminal shows it. -/
def terminalText (environment : KeyMap String) (halt : Halt) : String :=
  let lines :=
    match halt with
    | help => Help.lines environment
    | version => [Service.name ++ " " ++ Service.version]
    | mistake =>
      [mistake.headline, ""] ++ mistake.details ++
        ["For more information, try '--help'."]
  String.intercalate "\n" lines ++ "\n"

/-- The whole answer as a value. -/
def text (environment : KeyMap String) (halt : Halt) : String :=
  Text.Terminal.plain (halt.terminalText environment)

/-- The whole answer as it is written. -/
def writtenText (environment : KeyMap String) (halt : Halt) : String :=
  Text.Terminal.written (halt.terminalText environment)

/-- The exit code after the answer. -/
def exitCode : Halt → Nat
  | help | version => 0
  | _ => 2

end Halt

end Workloads
