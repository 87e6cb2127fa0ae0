import Cutout.Log
import Cutout.Text.Lower
import Cutout.Text.Number

/-!
# Thresholds

A threshold lets through the log entries that are important enough, or none at all. It is named by a
level or a number.
-/

namespace Cutout

/-- The least important level that is let through, if any is. -/
structure Threshold where
  least : Option Level
  deriving DecidableEq, Repr

namespace Threshold

/-- Lets nothing through. -/
def off : Threshold := ⟨none⟩

/-- Lets through what is at least as important as a level. -/
def upTo (l : Level) : Threshold := ⟨some l⟩

/-- The threshold lets entries of a level through. -/
def allows (t : Threshold) (l : Level) : Bool :=
  match t.least with
  | none => false
  | some least => l.rank ≤ least.rank

/-- The thresholds by their number. -/
def ofNumber? : Nat → Option Threshold
  | 0 => some off
  | 1 => some (upTo .error)
  | 2 => some (upTo .warn)
  | 3 => some (upTo .info)
  | 4 => some (upTo .debug)
  | 5 => some (upTo .trace)
  | _ => none

/-- The thresholds by their name, in lowercase. No name is the same as errors only. -/
def ofName? : String → Option Threshold
  | "" | "error" => some (upTo .error)
  | "warn" => some (upTo .warn)
  | "info" => some (upTo .info)
  | "debug" => some (upTo .debug)
  | "trace" => some (upTo .trace)
  | "off" => some off
  | _ => none

/-- The threshold that a text names, in any letter case, or whose number it is. -/
def parse? (s : String) : Option Threshold :=
  match (Text.natural? 64 s.toList).bind ofNumber? with
  | some t => some t
  | none => ofName? (Text.asciiLower s)

end Threshold

end Cutout
