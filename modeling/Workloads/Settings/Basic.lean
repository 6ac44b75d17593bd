import Workloads.Settings.Numeral

/-!
# Settings

The four things that can be set: the address and the port of the service, the
seconds a container is given to stop, and the level of the log.  Each is set
by a flag on the command line or by a variable of the environment, has a type
of values, and has a default.
-/

namespace Workloads

/-- Something that can be set. -/
inductive Setting where
  | address
  | port
  | stopTimeout
  | logLevel
  deriving DecidableEq, Repr

/-- Why a text is no value of a setting. -/
inductive ValueFault where
  | numeral (fault : NumeralFault)
  | outside (value : Int) (limit : Nat)
  deriving DecidableEq, Repr

/-- The wording of a value fault. -/
def ValueFault.text : ValueFault → String
  | numeral fault => fault.text
  | outside value limit =>
    toString value ++ " is not in 0..=" ++ toString limit

namespace Setting

/-- All settings, in the order in which they are listed and checked. -/
def all : List Setting :=
  [address, port, stopTimeout, logLevel]

/-- The word of the flag that gives a setting. -/
def word : Setting → String
  | address => "address"
  | port => "port"
  | stopTimeout => "stop-timeout"
  | logLevel => "log-level"

/-- What stands for the value of a setting in messages. -/
def placeholder : Setting → String
  | address => "ADDRESS"
  | port => "PORT"
  | stopTimeout => "STOP_TIMEOUT"
  | logLevel => "LOG_LEVEL"

/-- The environment variable of a setting. -/
def variableName (setting : Setting) : String :=
  "SHIM_" ++ setting.placeholder

/-- What a setting is for. -/
def purpose : Setting → String
  | address => "Address the task API binds to"
  | port => "Port the task API listens on"
  | stopTimeout =>
    "Seconds to wait for a container to stop when a request gives no timeout"
  | logLevel => "Log level used when RUST_LOG is not set"

/-! ## Values -/

/-- The type of the values of a setting. -/
abbrev Value : Setting → Type
  | address | logLevel => String
  | port => UInt16
  | stopTimeout => Nat

/-- The value of a setting that is not set. -/
def byDefault : (setting : Setting) → setting.Value
  | address => "127.0.0.1"
  | port => (10998 : UInt16)
  | stopTimeout => (10 : Nat)
  | logLevel => "info"

/-- The written form of a value. -/
def write : (setting : Setting) → setting.Value → String
  | address, (text : String) | logLevel, (text : String) => text
  | port, (number : UInt16) => toString number.toNat
  | stopTimeout, (number : Nat) => toString number

/-- The largest port. -/
def largestPort : Nat :=
  65535

/-- The longest time that a container can be given to stop. -/
def longestTimeout : Nat :=
  0xFFFFFFFFFFFFFFFF

/-- The magnitude of the lowest signed word. -/
def lowestWord : Nat :=
  0x8000000000000000

/-- The highest signed word. -/
def highestWord : Nat :=
  0x7FFFFFFFFFFFFFFF

/-- Reads a port: a signed word of 64 bits first, which then has to be in the
range of ports. -/
def readPort (text : String) : Except ValueFault UInt16 :=
  match Numeral.readSigned lowestWord highestWord text with
  | .error fault => .error (.numeral fault)
  | .ok value =>
    if 0 ≤ value ∧ value ≤ largestPort then .ok value.toNat.toUInt16
    else .error (.outside value largestPort)

/-- Reads a number of seconds. -/
def readTimeout (text : String) : Except ValueFault Nat :=
  match Numeral.readUnsigned longestTimeout text with
  | .error fault => .error (.numeral fault)
  | .ok value => .ok value

/-- Reads a value; every text is an address and a level. -/
def read : (setting : Setting) → String → Except ValueFault setting.Value
  | address, text | logLevel, text => .ok text
  | port, text => readPort text
  | stopTimeout, text => readTimeout text

end Setting

/-! ## Choices -/

/-- Values for some of the settings. -/
@[ext]
structure Choice where
  value? : (setting : Setting) → Option setting.Value

namespace Choice

/-- The choice of nothing. -/
def nothing : Choice where
  value? _ := none

/-- The choice with a value for a setting. -/
def put (choice : Choice) (setting : Setting) (value : setting.Value) :
    Choice where
  value? other :=
    if same : setting = other then some (same ▸ value)
    else choice.value? other

end Choice

/-! ## Settings -/

/-- The settings that the service runs with. -/
structure Settings where
  address : String
  port : UInt16
  stopTimeout : Nat
  logLevel : String
  deriving DecidableEq, Repr

namespace Settings

/-- The settings of a choice, with defaults for what it leaves open. -/
def ofChoice (choice : Choice) : Settings where
  address := (choice.value? .address).getD (Setting.byDefault .address)
  port := (choice.value? .port).getD (Setting.byDefault .port)
  stopTimeout :=
    (choice.value? .stopTimeout).getD (Setting.byDefault .stopTimeout)
  logLevel := (choice.value? .logLevel).getD (Setting.byDefault .logLevel)

/-- The address and the port that the service binds to. -/
def bindAddress (settings : Settings) : String :=
  settings.address ++ ":" ++ toString settings.port.toNat

end Settings

end Workloads
