import LeafHub.Hub.Cells

namespace LeafHub.Hub

/-- Answers the read of at most `limit` bytes. A read starts at the first byte. -/
def readCharacteristic (id : CellId) (offset limit : Nat) : ExceptT AttFault Act Bytes := do
  let hub ← get
  let name := (hub.cell id).name
  log .info s!"read_variable {hub.describe id} len={limit} offset={offset}"
  if offset ≠ 0 then
    log .warn s!"read_variable {name}: offset reads are not supported"
    throw .invalidOffset
  let raw := (hub.value id).raw
  if limit < raw.length then log .warn s!"read_variable {name}: value clipped to {limit} bytes"
  return raw.take limit

/-- The value that a cell has after data was written at an offset: over part of the raw value of a scalar, or in place
of the end of a string, of at most `limit` bytes. Offsets and ends are 64-bit numbers. -/
def spliced (kind : Kind) (raw data : Bytes) (offset limit : Nat) : Except AttFault Value :=
  let ending := offset + data.length
  if UInt64.size ≤ ending then .error .invalidOffset
  else match kind with
    | .string =>
      if limit < ending ∨ raw.length < offset then .error .invalidOffset
      else match Text.utf8? (raw.take offset ++ data) with
        | some text => .ok (.string text)
        | none => .error .valueNotAllowed
    | .event => .error .invalidOffset
    | _ =>
      if kind.width.getD 0 < ending then .error .invalidOffset
      else match kind.ofRaw (raw.take offset ++ data ++ raw.drop ending) with
        | .ok value => .ok value
        | .error _ => .error .valueNotAllowed

/-- Carries out a write and returns how many bytes it took. -/
def writeCharacteristic (id : CellId) (data : Bytes) (offset limit : Nat) : ExceptT AttFault Act Nat := do
  let hub ← get
  let cell := hub.cell id
  match spliced cell.kind (hub.value id).raw data offset limit with
  | .error fault =>
    if cell.kind = .event ∧ offset + data.length < UInt64.size then log .warn "Unhandled variable kind event"
    throw fault
  | .ok value =>
    match value with
    | .string text => log .info s!"write_string {cell.name} <= [{text}]"
    | _ => pure ()
    match ← (store id value).run with
    | .ok () => return data.length
    | .error fault =>
      log .warn s!"write_variable {cell.name} failed: {fault.message}"
      throw .valueNotAllowed

end LeafHub.Hub
