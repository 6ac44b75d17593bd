import Workloads.Settings.Halt

/-!
# Reading the settings

Arguments are read from the left.  The value of a setting stands behind an
equals sign or in the next argument; in the second case it is looked at only
when the next flag or the end is reached, and a mistake in the meantime wins.
What the command line leaves open is taken from the environment, whose other
variables are not looked at, and what both leave open takes its default.
-/

namespace Workloads

/-! ## The form of an argument -/

/-- An argument by its form. -/
inductive Argument where
  /-- The mark after which there are no flags. -/
  | separator
  | flag (word : String) (value : Option String)
  | letters (first : Char)
  | plain
  deriving DecidableEq, Repr

/-- The part of a text in front of the first equals sign, and the one behind
it if there is one. -/
def cutAtEquals : List Char → List Char × Option (List Char)
  | [] => ([], none)
  | letter :: rest =>
    if letter = '=' then ([], some rest)
    else
      let cut := cutAtEquals rest
      (letter :: cut.1, cut.2)

/-- The form of an argument. -/
def Argument.ofText (text : String) : Argument :=
  match text.toList with
  | ['-', '-'] => .separator
  | '-' :: '-' :: rest =>
    let cut := cutAtEquals rest
    .flag (String.ofList cut.1) (cut.2.map String.ofList)
  | '-' :: first :: _ => .letters first
  | _ => .plain

/-! ## Reading arguments -/

/-- Gives a setting the value of a text. -/
def Choice.give (choice : Choice) (setting : Setting) (text : String) :
    Except Halt Choice :=
  match setting.read text with
  | .error fault => .error (.invalidValue setting text fault)
  | .ok value => .ok (choice.put setting value)

/-- Gives a setting the value of a text, once. -/
def Choice.giveOnce (choice : Choice) (setting : Setting)
    (text : String) : Except Halt Choice :=
  if (choice.value? setting).isSome then .error (.repeated setting)
  else choice.give setting text

/-- A setting whose flag was read. -/
structure OpenSetting where
  setting : Setting
  text : Option String := none

/-- What has been read so far: the choice, its settings in the order in which
they were given, and the setting that is open. -/
structure Progress where
  choice : Choice := .nothing
  given : List Setting := []
  openSetting : Option OpenSetting := none
  separated : Bool := false

namespace Progress

/-- Gives a setting the value of a text; no setting is open then. -/
def give (progress : Progress) (setting : Setting) (text : String) :
    Except Halt Progress :=
  match progress.choice.giveOnce setting text with
  | .error halt => .error halt
  | .ok choice => .ok { choice, given := progress.given ++ [setting] }

/-- Looks at the open setting. -/
def settle (progress : Progress) : Except Halt Progress :=
  match progress.openSetting with
  | none => .ok progress
  | some { setting, text := none } => .error (.missingValue setting)
  | some { setting, text := some text } => progress.give setting text

/-- The settings that count as used when an unknown flag is met: the open one
does once it has a text, and one that is given again does no longer. -/
def used (progress : Progress) : List Setting :=
  match progress.openSetting with
  | some { setting, text := some _ } =>
    if progress.given.contains setting then progress.given.erase setting
    else progress.given ++ [setting]
  | _ => progress.given

/-- Stops at a question once the open setting has been looked at. -/
def ask (progress : Progress) (question : Halt) : Except Halt Progress :=
  match progress.settle with
  | .error halt => .error halt
  | .ok _ => .error question

/-- Reads the flag of a setting. -/
def takeSetting (progress : Progress) (setting : Setting)
    (value : Option String) : Except Halt Progress :=
  match progress.settle with
  | .error halt => .error halt
  | .ok settled =>
    match value with
    | none => .ok { settled with openSetting := some { setting } }
    | some text => settled.give setting text

/-- Reads a flag. -/
def takeFlag (progress : Progress) (flag : Flag) (value : Option String) :
    Except Halt Progress :=
  match flag, value with
  | .setting setting, value => progress.takeSetting setting value
  | flag, some text =>
    .error (.surplusValue flag text !progress.given.isEmpty)
  | .help, none => progress.ask .help
  | .version, none => progress.ask .version

/-- Reads an argument that is no flag. -/
def takePlain (progress : Progress) (argument : String) :
    Except Halt Progress :=
  match progress.openSetting with
  | some { setting, text := none } =>
    .ok { progress with
      openSetting := some { setting, text := some argument } }
  | _ => .error (.unexpected argument)

/-- Reads one argument. -/
def take (progress : Progress) (argument : String) :
    Except Halt Progress :=
  if progress.separated then .error (.unexpected argument)
  else
    match Argument.ofText argument with
    | .separator => .ok { progress with separated := true }
    | .plain => progress.takePlain argument
    | .letters first =>
      match Flag.ofLetter? first with
      | some flag => progress.takeFlag flag none
      | none => .error (.unexpected (String.ofList ['-', first]))
    | .flag word value =>
      match Flag.ofWord? word with
      | some flag => progress.takeFlag flag value
      | none => .error (.unknownFlag word progress.used)

/-- Reads arguments one after the other. -/
def takeAll (progress : Progress) : List String → Except Halt Progress
  | [] => .ok progress
  | argument :: rest =>
    match progress.take argument with
    | .error halt => .error halt
    | .ok progress => progress.takeAll rest

end Progress

/-! ## Reading the environment -/

/-- Gives a setting that is left open the value of its variable, if that is
set. -/
def Choice.fill (environment : KeyMap String) (choice : Choice)
    (setting : Setting) : Except Halt Choice :=
  match choice.value? setting, environment.get? setting.variableName with
  | none, some text => choice.give setting text
  | _, _ => .ok choice

/-- Gives settings that are left open the values of their variables. -/
def Choice.fillAll (environment : KeyMap String) (choice : Choice) :
    List Setting → Except Halt Choice
  | [] => .ok choice
  | setting :: rest =>
    match choice.fill environment setting with
    | .error halt => .error halt
    | .ok choice => choice.fillAll environment rest

/-! ## Reading settings -/

/-- The choice that arguments make. -/
def Choice.ofArguments (arguments : List String) : Except Halt Choice :=
  match ({} : Progress).takeAll arguments with
  | .error halt => .error halt
  | .ok progress =>
    match progress.settle with
    | .error halt => .error halt
    | .ok settled => .ok settled.choice

/-- The settings that arguments and environment make. -/
def Settings.read (arguments : List String)
    (environment : KeyMap String) : Except Halt Settings :=
  match Choice.ofArguments arguments with
  | .error halt => .error halt
  | .ok choice =>
    match choice.fillAll environment Setting.all with
    | .error halt => .error halt
    | .ok choice => .ok (.ofChoice choice)

end Workloads
