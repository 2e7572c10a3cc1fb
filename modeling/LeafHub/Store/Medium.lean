import LeafHub.Store.Basic

namespace LeafHub

/-- Which requests fail, and what listings show beside the stored entries. -/
structure FaultPlan where
  /-- The fault of the write with that number, counted from zero, to that key. -/
  write : Nat → String → Option StorageFault
  read : Option StorageFault
  entries : Option StorageFault
  /-- Entries at the end of every listing. -/
  extra : List Entry

namespace FaultPlan

/-- Nothing fails. -/
def none : FaultPlan where
  write := fun _ _ => .none
  read := .none
  entries := .none
  extra := []

instance : Inhabited FaultPlan := ⟨none⟩

end FaultPlan

/-- A store on a medium that may fail. A failing request leaves the store as it is. -/
structure Medium where
  store : Store
  plan : FaultPlan
  /-- The writes that were asked for so far. -/
  writes : Nat
  deriving Inhabited

namespace Medium

/-- An empty store that never fails. -/
def empty : Medium where
  store := .empty
  plan := .none
  writes := 0

def read (medium : Medium) (ns key : String) (limit : Nat) : Except StorageFault Bytes :=
  match medium.plan.read with
  | some fault => .error fault
  | none => medium.store.read ns key limit

/-- The answer to a write, and the medium afterwards. -/
def write (medium : Medium) (ns key : String) (value : Bytes) : Except StorageFault Unit × Medium :=
  let counted := { medium with writes := medium.writes + 1 }
  match medium.plan.write medium.writes key with
  | some fault => (.error fault, counted)
  | none => match medium.store.write ns key value with
    | .ok store => (.ok (), { counted with store })
    | .error fault => (.error fault, counted)

def entries (medium : Medium) (ns : String) : Except StorageFault (List Entry) :=
  match medium.plan.entries with
  | some fault => .error fault
  | none => match medium.store.entries ns with
    | .ok entries => .ok (entries ++ medium.plan.extra)
    | .error fault => .error fault

def delete (medium : Medium) (ns key : String) : Except StorageFault Unit × Medium :=
  match medium.store.delete ns key with
  | .ok store => (.ok (), { medium with store })
  | .error fault => (.error fault, medium)

def erase (medium : Medium) (ns : String) : Except StorageFault Unit × Medium :=
  match medium.store.erase ns with
  | .ok store => (.ok (), { medium with store })
  | .error fault => (.error fault, medium)

theorem write_of_error {medium after : Medium} {ns key : String} {value : Bytes} {fault : StorageFault}
    (failed : medium.write ns key value = (.error fault, after)) : after.store = medium.store := by
  unfold write at failed
  split at failed
  · cases failed; rfl
  · split at failed
    · cases failed
    · cases failed; rfl

theorem write_of_ok {medium : Medium} {ns key : String} {value : Bytes}
    (granted : (medium.write ns key value).1 = .ok ()) :
    medium.store.write ns key value = .ok (medium.write ns key value).2.store := by
  unfold write at granted ⊢
  split at granted
  · cases granted
  · split at granted
    · assumption
    · cases granted

theorem plan_write (medium : Medium) (ns key : String) (value : Bytes) :
    (medium.write ns key value).2.plan = medium.plan := by
  unfold write
  split
  · rfl
  · split <;> rfl

end Medium

end LeafHub
