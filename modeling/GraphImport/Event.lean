/-!
# Events

What a compilation or delivery reports while it runs.

* `Level`, `Event` — a level and named fields; the field `message` comes first.
-/

namespace GraphImport

/-- How important an event is. -/
inductive Level where
  /-- For those who look for an error. -/
  | debug
  /-- For everybody. -/
  | info
  /-- Something is not as it should be. -/
  | warn
deriving DecidableEq

/-- The name of a level. -/
def Level.name : Level → String
  | debug => "DEBUG"
  | info => "INFO"
  | warn => "WARN"

/-- Something that was reported. -/
structure Event where
  /-- How important it is. -/
  level : Level
  /-- Names and texts, in order. -/
  fields : List (String × String)
deriving DecidableEq

/-- An event with a message and further fields. -/
def Event.of (level : Level) (message : String) (fields : List (String × String)) : Event :=
  ⟨level, ("message", message) :: fields⟩

end GraphImport
