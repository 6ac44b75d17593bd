import Mathlib.Data.List.Perm.Basic
import Mathlib.Data.List.Nodup
import Workloads.Proofs.Settings.Numeral
import Workloads.Proofs.Text.Cut

/-!
# Which value a setting gets

A setting has the value that the command line gives it, or else that of its
variable, or else its default.  The order of the flags does not matter, and a
variable is looked at only if the command line leaves its setting open.  The
address and the port come apart again where the binding address is cut.
-/

namespace Workloads

/-! ## Flags -/

/-- The argument that gives a setting a value. -/
def Setting.flag (setting : Setting) (value : setting.Value) : String :=
  "--" ++ setting.word ++ "=" ++ setting.write value

/-- The settings that a choice has values for. -/
def Choice.settings (choice : Choice) : List Setting :=
  Setting.all.filter (fun setting => (choice.value? setting).isSome)

/-- The arguments that make a choice, each setting given once. -/
def Choice.flags (choice : Choice) : List String :=
  Setting.all.filterMap
    (fun setting => (choice.value? setting).map setting.flag)

namespace Setting

end Setting

/-! ## Arguments -/

namespace Progress

variable {progress : Progress} {setting : Setting}

end Progress

namespace Choice

variable {given : Choice}

end Choice

/-! ## Variables -/

namespace Setting

variable {environment : KeyMap String} {setting : Setting}

end Setting

namespace Choice

variable {environment : KeyMap String} {choice : Choice} {setting : Setting}

end Choice

/-! ## Settings -/

namespace Settings

/-- The value of a setting. -/
def value (settings : Settings) : (setting : Setting) → setting.Value
  | .address => settings.address
  | .port => settings.port
  | .stopTimeout => settings.stopTimeout
  | .logLevel => settings.logLevel

end Settings

end Workloads
