/-!
# Log entries

What the service writes into its log: a level, the part of the service that it comes from, and a
text.
-/

namespace Cutout

/-- How important a log entry is. -/
inductive Level where
  | error
  | warn
  | info
  | debug
  | trace
  deriving DecidableEq, Repr

namespace Level

/-- The rank of a level: the more important, the lower. -/
def rank : Level → Nat
  | error => 1
  | warn => 2
  | info => 3
  | debug => 4
  | trace => 5

/-- The name of a level. -/
def label : Level → String
  | error => "ERROR"
  | warn => "WARN"
  | info => "INFO"
  | debug => "DEBUG"
  | trace => "TRACE"

end Level

/-- A log entry. -/
structure LogEntry where
  level : Level
  /-- The part of the service that it comes from. -/
  target : String
  message : String
  deriving DecidableEq, Repr

end Cutout
