namespace LeafHub

/-- Why a storage request failed. -/
inductive StorageFault where
  | notFound
  | full
  | ioError
  /-- The key or the namespace is empty or longer than the store allows. -/
  | keyTooLong
  deriving DecidableEq, Repr, Inhabited

def StorageFault.message : StorageFault → String
  | .notFound => "key not found"
  | .full => "storage full"
  | .ioError => "I/O error"
  | .keyTooLong => "key too long"

/-- Why an operation failed. -/
inductive Fault where
  /-- No item has that name. -/
  | notFound
  /-- The value is of another kind than the cell. -/
  | typeMismatch
  | bufferTooSmall
  /-- There is no room left. -/
  | allocationFailure
  /-- The leaf was started before its init succeeded. -/
  | notReady
  /-- The cell has a subscriber already. -/
  | alreadyExists
  /-- The device behind a leaf is absent or does not answer. -/
  | deviceUnavailable
  /-- The raw bytes are not as many as the kind needs. -/
  | invalidLength (expected actual : Nat)
  /-- The text or the bytes are no value of the kind. -/
  | invalidValue
  | lockTimeout
  | storage (fault : StorageFault)
  /-- A bus or pin transaction failed. -/
  | io
  deriving DecidableEq, Repr, Inhabited

namespace Fault

def message : Fault → String
  | .notFound => "not found"
  | .typeMismatch => "type mismatch"
  | .bufferTooSmall => "buffer too small"
  | .allocationFailure => "allocation failed"
  | .notReady => "not ready"
  | .alreadyExists => "already exists"
  | .deviceUnavailable => "device unavailable"
  | .invalidLength expected actual => s!"invalid length {actual} (expected {expected})"
  | .invalidValue => "invalid value"
  | .lockTimeout => "lock timeout"
  | .storage fault => s!"storage: {fault.message}"
  | .io => "bus I/O failed"

/-- The negative code that commands report. -/
def errno : Fault → Int
  | .notFound => -2
  | .notReady => -3
  | .io | .storage _ => -5
  | .bufferTooSmall => -7
  | .lockTimeout => -11
  | .allocationFailure => -12
  | .alreadyExists => -17
  | .deviceUnavailable => -19
  | .typeMismatch | .invalidLength .. | .invalidValue => -22

theorem errno_neg (fault : Fault) : fault.errno < 0 := by
  cases fault <;> simp [errno]

end Fault

/-- Why a characteristic access was refused. -/
inductive AttFault where
  /-- The offset or the length lies outside the value. -/
  | invalidOffset
  /-- The payload is no value of the cell's kind. -/
  | valueNotAllowed
  deriving DecidableEq, Repr, Inhabited

namespace AttFault

/-- The code on the wire. -/
def code : AttFault → Nat
  | .invalidOffset => 0x07
  | .valueNotAllowed => 0x13

def message : AttFault → String
  | .invalidOffset => "invalid offset"
  | .valueNotAllowed => "value not allowed"

end AttFault

end LeafHub
