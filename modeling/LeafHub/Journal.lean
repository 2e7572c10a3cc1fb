import LeafHub.Cell
import LeafHub.Device

namespace LeafHub

/-- The levels of the log, from the most severe on. -/
inductive Level where
  | error
  | warn
  | info
  | debug
  deriving DecidableEq, Repr, Inhabited

def Level.rank : Level → Nat
  | .error => 1
  | .warn => 2
  | .info => 3
  | .debug => 4

/-- A bus transaction and how it ended. -/
inductive Transfer where
  | write (bytes : Bytes)
  | failedWrite (bytes : Bytes)
  | read (b : UInt8)
  | failedRead
  deriving DecidableEq

/-- What happened in a hub. Most happenings leave a line in the log; those at a pin or a bus leave one in the device
trace. -/
inductive Happening where
  | log (level : Level) (line : String)
  /-- A value was stored into a cell. -/
  | stored (cell : CellId) (name : String) (value : Value)
  /-- A counter was moved to a new total. -/
  | counted (cell : CellId) (name : String) (total : Int64)
  /-- Bits were posted to an event cell. -/
  | posted (cell : CellId) (name : String) (bits : UInt32)
  /-- The run of a work item began. -/
  | began (item : ItemId) (label : String)
  /-- A pin was asked for a level. -/
  | pin (name : String) (high accepted : Bool)
  | bus (name : String) (address : UInt8) (transfer : Transfer)
  deriving DecidableEq

instance : Inhabited Happening := ⟨.log .debug ""⟩

namespace Happening

/-- The line in the log. -/
def logLine? : Happening → Option (Level × String)
  | .log level line => some (level, line)
  | .stored _ name value => some (.info, s!"SET {name} <= {value.text}")
  | .counted _ name total => some (.debug, s!"SET {name} <= {(Value.int64 total).text}")
  | .posted _ name bits => some (.debug, s!"POST {name} <= {bitsText bits}")
  | .began _ label => some (.debug, s!"work '{label}' running")
  | .pin .. | .bus .. => none

def transferText : Transfer → String
  | .write bytes => "write " ++ Text.hex bytes
  | .failedWrite bytes => "write " ++ Text.hex bytes ++ " FAIL"
  | .read b => "read " ++ Text.hex [b]
  | .failedRead => "read FAIL"

/-- The line in the device trace. -/
def deviceLine? : Happening → Option String
  | .pin name high accepted =>
    some ("pin " ++ name ++ (if high then " high" else " low") ++ (if accepted then "" else " FAIL"))
  | .bus name address transfer =>
    some ("bus " ++ name ++ " " ++ Text.hex [address] ++ " " ++ transferText transfer)
  | _ => none

end Happening

end LeafHub
