import Workloads.Event
import Workloads.Text.Quoted

/-!
# Log lines

An event as one line: its level, its wording, and its fields by name.  The
time in front of a line is left to whoever writes it.
-/

namespace Workloads.Log

/-- The value of a field as a line shows it. -/
def writeField : FieldValue → String
  | .text value => value
  | .quoted value => Text.Quoted.quote value
  | .number value => toString value

/-- The line of an event. -/
def line (event : Event) : String :=
  String.intercalate " "
    ([event.level.word, event.wording] ++
      event.fields.map
        (fun field => field.1 ++ "=" ++ writeField field.2))

end Workloads.Log
