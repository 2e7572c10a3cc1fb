import LeafHub.Hub.Characteristic
import LeafHub.Proofs.Hub.LeafFrame

namespace LeafHub

variable {ε α : Type}

/-- Typed setters store a value of their kind. -/
inductive Mutation where
  | store (id : CellId) (value : Value)
  | storeRaw (id : CellId) (raw : Bytes)
  | storeText (id : CellId) (text : String)
  | count (id : CellId) (delta : Int64)
  | post (id : CellId) (bits : UInt32)
  | writeCharacteristic (id : CellId) (data : Bytes) (offset limit : Nat)
  | handleSet (key : String) (raw : Bytes)

namespace Mutation

/-- Whether an attempt comes to its end. -/
def granted (attempt : ExceptT ε Act α) : Act Bool :=
  Except.isOk <$> attempt.run

/-- Carries out a mutation and says whether it was granted. -/
def run : Mutation → Act Bool
  | .store id value => granted (Hub.store id value)
  | .storeRaw id raw => granted (Hub.storeRaw id raw)
  | .storeText id text => granted (Hub.storeText id text)
  | .count id delta => granted (Hub.count id delta)
  | .post id bits => granted (Hub.post id bits)
  | .writeCharacteristic id data offset limit => granted (Hub.writeCharacteristic id data offset limit)
  | .handleSet key raw => granted (Hub.handleSet key raw)

/-- The cell that a mutation is about. -/
def cell? (hub : Hub) : Mutation → Option CellId
  | .store id _ | .storeRaw id _ | .storeText id _ | .count id _ | .post id _ | .writeCharacteristic id .. => some id
  | .handleSet key _ => hub.findSetting key

/-- The value that a mutation of a cell asks for, if it may ask for it. -/
def value? (hub : Hub) (id : CellId) : Mutation → Option Value
  | .store _ value => if value.kind = (hub.cell id).kind then some value else none
  | .storeRaw _ raw => ((hub.cell id).kind.ofRaw raw).toOption
  | .storeText _ text => ((hub.cell id).kind.ofText text).toOption
  | .count _ delta =>
    match hub.value id with
    | .int64 n => some (.int64 (n + delta))
    | _ => none
  | .post _ bits =>
    match hub.value id with
    | .event now => some (.event (EventFlags.post now bits))
    | _ => none
  | .writeCharacteristic _ data offset limit =>
    (Hub.spliced (hub.cell id).kind (hub.value id).raw data offset limit).toOption
  | .handleSet _ raw => if (hub.cell id).kind = .event then none else ((hub.cell id).kind.ofRaw raw).toOption

/-- The key of an offered entry belongs to somebody else. -/
def PassesOver (hub : Hub) : Mutation → Prop
  | .handleSet key _ => '/' ∈ key.toList ∧ hub.findSetting key = none
  | _ => False

end Mutation

namespace Conduct

open Passage

variable {R : Hub → Hub → Prop} (conduct : Conduct R)

include conduct

/-- The end of a write, once its value is known. -/
theorem writeSpliced (id : CellId) (value : Value) (name : String) (taken : Nat) : Attempt.Keeps R ((do
    match ← (Hub.store id value).run with
    | .ok () => return taken
    | .error fault =>
      Hub.log .warn s!"write_variable {name} failed: {fault.message}"
      throw .valueNotAllowed) : ExceptT AttFault Act Nat) := by
  refine conduct.tryBind (tryLift (conduct.store id value)) fun answer => ?_
  split
  · exact conduct.tryPure _
  · exact conduct.tryBind (tryLift (conduct.log _ _)) fun _ => conduct.tryThrow _

theorem writeCharacteristic (id : CellId) (data : Bytes) (offset limit : Nat) :
    Attempt.Keeps R (Hub.writeCharacteristic id data offset limit) := by
  unfold Hub.writeCharacteristic
  refine conduct.tryBind conduct.tryGet fun hub => ?_
  dsimp only
  split
  · split
    · exact conduct.tryBind (tryLift (conduct.log _ _)) fun _ => conduct.tryThrow _
    · exact conduct.tryThrow _
  · split
    · exact conduct.tryBind (tryLift (conduct.log _ _)) fun _ => conduct.writeSpliced _ _ _ _
    · exact conduct.writeSpliced _ _ _ _

end Conduct

/-- What changes the values of cells is allowed. -/
structure AllowsMutations (allowed : ∀ {β : Type}, Act β → Prop) : Prop where
  store : ∀ id value, allowed (Hub.store id value).run
  storeRaw : ∀ id raw, allowed (Hub.storeRaw id raw).run
  storeText : ∀ id text, allowed (Hub.storeText id text).run
  count : ∀ id delta, allowed (Hub.count id delta).run
  post : ∀ id bits, allowed (Hub.post id bits).run
  writeCharacteristic : ∀ id data offset limit, allowed (Hub.writeCharacteristic id data offset limit).run
  handleSet : ∀ key raw, allowed (Hub.handleSet key raw).run
  loadSettings : ∀ store, allowed (Hub.loadSettings store).run

theorem Conduct.allowsMutations {R : Hub → Hub → Prop} (conduct : Conduct R) : AllowsMutations (Act.Keeps R) where
  store := conduct.store
  storeRaw := conduct.storeRaw
  storeText := conduct.storeText
  count := conduct.count
  post := conduct.post
  writeCharacteristic := conduct.writeCharacteristic
  handleSet := conduct.handleSet
  loadSettings := conduct.loadSettings

end LeafHub
