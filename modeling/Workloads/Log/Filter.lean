import Workloads.Log.Directive

/-!
# Log filters

Which events are worth a line.  A filter is a list of directives; of those
that concern an event the most specific decides.  Without any directive only
errors pass.
-/

namespace Workloads.Log

/-- A filter by its directives. -/
structure Filter where
  directives : List Directive := []
  deriving DecidableEq, Repr

namespace Filter

/-- The texts of the directives in a text. -/
def parts (text : String) : List String :=
  (text.splitOn ",").filter (fun part => !part.isEmpty)

/-- Reads a filter whose directives are all well formed. -/
def ofText? (text : String) : Option Filter :=
  ((parts text).mapM (fun part => (Directive.read part).toOption)).map
    (fun directives => { directives })

/-- A filter of what is well formed in a text. -/
def ofText (text : String) : Filter where
  directives :=
    (parts text).filterMap (fun part => (Directive.read part).toOption)

/-- The complaints about what is not well formed in a text. -/
def complaints (text : String) : List String :=
  (parts text).filterMap fun part =>
    match Directive.read part with
    | .ok _ => none
    | .error fault =>
      some ("ignoring \x60" ++ part ++ "\x60: " ++ fault.text)

/-- Of two directives the one that decides. -/
def decisive (first second : Directive) : Directive :=
  if first.yields second then second else first

/-- The threshold for the events of an origin with some fields. -/
def threshold (filter : Filter) (origin : String) (names : List String) :
    Threshold :=
  if filter.directives.isEmpty then some .error
  else
    match filter.directives.filter
        (fun entry => entry.concerns origin names) with
    | [] => none
    | first :: rest => (rest.foldl decisive first).threshold

/-- The field that holds the wording of an event. -/
def wordingField : String :=
  "message"

/-- Whether an event of an origin is worth a line. -/
def admits (filter : Filter) (origin : String) (event : Event) : Bool :=
  let names := wordingField :: event.fields.map (fun field => field.1)
  (filter.threshold origin names).admits event.level

end Filter

end Workloads.Log
