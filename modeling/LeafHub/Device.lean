import LeafHub.Text.Digits

namespace LeafHub

/-- An output pin, with the faults to come, one entry a request. -/
structure Pin where
  /-- Whether each of the next requests fails; later ones do not. -/
  faults : List Bool
  high : Bool
  deriving Inhabited

namespace Pin

def fresh : Pin where
  faults := []
  high := false

/-- Drives the pin to a level. A request that fails leaves the level as it is. -/
def drive (pin : Pin) (high : Bool) : Bool × Pin :=
  match pin.faults with
  | true :: rest => (false, { pin with faults := rest })
  | false :: rest => (true, ⟨rest, high⟩)
  | [] => (true, ⟨[], high⟩)

end Pin

/-- Why a bus transaction failed. -/
inductive BusFault where
  | other
  | bus
  | noAcknowledge
  | arbitrationLoss
  | overrun
  deriving DecidableEq, Repr, Inhabited

def BusFault.message : BusFault → String
  | .other => "Other"
  | .bus => "Bus"
  | .noAcknowledge => "NoAcknowledge(Address)"
  | .arbitrationLoss => "ArbitrationLoss"
  | .overrun => "Overrun"

/-- A two-wire bus, with the faults to come, one entry a request. -/
structure Bus where
  /-- The bytes that the next reads return; later ones return `0xFF`. -/
  reads : Bytes
  /-- The fault of each of the next transactions; later ones do not fail. -/
  faults : List (Option BusFault)
  deriving Inhabited

namespace Bus

def fresh : Bus where
  reads := []
  faults := []

/-- The fault of the next transaction. -/
def nextFault (bus : Bus) : Option BusFault × Bus :=
  match bus.faults with
  | fault :: rest => (fault, { bus with faults := rest })
  | [] => (none, bus)

/-- Reads a byte. A transaction that fails consumes none. -/
def readByte (bus : Bus) : Except BusFault UInt8 × Bus :=
  match bus.nextFault with
  | (some fault, after) => (.error fault, after)
  | (none, after) => match after.reads with
    | b :: rest => (.ok b, { after with reads := rest })
    | [] => (.ok 0xFF, after)

/-- Writes bytes. -/
def write (bus : Bus) : Except BusFault Unit × Bus :=
  match bus.nextFault with
  | (some fault, after) => (.error fault, after)
  | (none, after) => (.ok (), after)

end Bus

end LeafHub
