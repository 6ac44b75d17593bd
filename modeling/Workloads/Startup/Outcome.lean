import Workloads.Docker.Socket
import Workloads.Log.Filter
import Workloads.Log.Line
import Workloads.Settings.Arguments
import Workloads.Startup.Address

/-!
# Starting the service

From the command line and the environment to a service that listens, or to
the reason why it does not: the settings are read, the log is set up, the
daemon's socket is looked for, and the address is bound to.  The first of
these that fails ends the start.
-/

namespace Workloads.Startup

/-- What a start writes, and the exit code unless the service runs. -/
structure Outcome where
  exitCode : Option Nat
  output : List String := []
  errors : List String := []
  deriving DecidableEq, Repr

/-- Where an event of a start comes from. -/
def origin : Event → String
  | .starting _ => "task_shim"
  | _ => "task_shim::worker::api"

/-- The variable that holds a log filter. -/
def filterVariable : String :=
  "RUST_LOG"

/-- The variable that holds the address of the daemon. -/
def daemonVariable : String :=
  "DOCKER_HOST"

/-- The variables that a start looks at. -/
def variableNames : List String :=
  Setting.all.map Setting.variableName ++ [filterVariable, daemonVariable]

/-- The log filter and the complaints about it: that of the environment if it
is well formed, else that of the settings. -/
def logFilter (settings : Settings) (environment : KeyMap String) :
    Log.Filter × List String :=
  match (environment.get? filterVariable).bind Log.Filter.ofText? with
  | some filter => (filter, [])
  | none =>
    (Log.Filter.ofText settings.logLevel,
      Log.Filter.complaints settings.logLevel)

/-- The report of a failed start: what failed, and why. -/
def failureReport (failed cause : String) : List String :=
  ["Error: " ++ failed, "", "Caused by:"] ++
    (cause.splitOn "\n").map (fun line => "    " ++ line)

/-- A line without the carriage return that may stand before its line
break. -/
def withoutReturn (line : String) : String :=
  if line.endsWith "\r" then (line.dropEnd 1).toString else line

/-- The lines of a text that ends with a line break. -/
def linesOf (text : String) : List String :=
  (text.splitOn "\n").dropLast.map withoutReturn

/-- The lines of texts, each of which is written with a line break behind
it. -/
def written (texts : List String) : List String :=
  texts.flatMap (fun text => linesOf (text ++ "\n"))

/-- The lines of the events that pass a filter. -/
def logLines (filter : Log.Filter) (events : List Event) : List String :=
  written
    ((events.filter (fun event => filter.admits (origin event) event)).map
      Log.line)

/-- Why the settings were not read, as an outcome. -/
def halted (environment : KeyMap String) (halt : Halt) : Outcome :=
  let lines := linesOf (halt.writtenText environment)
  if halt.exitCode = 0 then { exitCode := some 0, output := lines }
  else { exitCode := some halt.exitCode, errors := lines }

/-- Starts with settings, given which paths exist. -/
def startWith (present : String → Bool) (environment : KeyMap String)
    (settings : Settings) : Outcome :=
  let (filter, complaints) := logFilter settings environment
  match Docker.connect present (environment.get? daemonVariable) with
  | .error failure =>
    { exitCode := some 1
      errors :=
        written
          (complaints ++
            failureReport "docker is not reachable" failure.text) }
  | .ok _ =>
    let starting := [Event.starting Service.version]
    match bind settings.bindAddress with
    | .error fault =>
      { exitCode := some 1
        output := logLines filter starting
        errors :=
          written
            (complaints ++ failureReport "task server failed" fault.text) }
    | .ok _ =>
      { exitCode := none
        output :=
          logLines filter (starting ++ [.listening settings.bindAddress])
        errors := written complaints }

/-- Starts the service, given which paths exist. -/
def start (present : String → Bool) (arguments : List String)
    (environment : KeyMap String) : Outcome :=
  match Settings.read arguments environment with
  | .error halt => halted environment halt
  | .ok settings => startWith present environment settings

end Workloads.Startup
