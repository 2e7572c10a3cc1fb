import LeafHub.Fault
import LeafHub.Store.Slot

namespace LeafHub

/-- A key and its value, as a store lists them. -/
structure Entry where
  key : String
  value : Bytes
  deriving DecidableEq, Inhabited

/-- One slot of a store. -/
structure Slot where
  ns : String
  name : String
  blob : Bytes
  deriving DecidableEq, Inhabited

namespace Slot

/-- Whether the slot is the one of that namespace and name. -/
def isAt (slot : Slot) (ns name : String) : Bool :=
  slot.ns = ns && slot.name = name

/-- Whether the slot stands before the place of that namespace and name. -/
def isBefore (slot : Slot) (ns name : String) : Bool :=
  slot.ns < ns || (slot.ns = ns && slot.name < name)

/-- Puts a blob at its place, over the blob that was there. -/
def insert (ns name : String) (blob : Bytes) : List Slot → List Slot
  | [] => [⟨ns, name, blob⟩]
  | slot :: rest =>
    if slot.isAt ns name then ⟨ns, name, blob⟩ :: rest
    else if slot.isBefore ns name then slot :: insert ns name blob rest
    else ⟨ns, name, blob⟩ :: slot :: rest

end Slot

/-- The slots in use, in the order of their namespaces and names, which is the order in which entries are listed. -/
structure Store where
  slots : List Slot
  deriving Inhabited

namespace Store

def empty : Store := ⟨[]⟩

/-- The blob of a slot. -/
def blob? (store : Store) (ns name : String) : Option Bytes :=
  (store.slots.find? fun slot => slot.isAt ns name).map Slot.blob

/-- The value of a key, if the store holds one. -/
def get? (store : Store) (ns key : String) : Option Bytes :=
  match store.blob? ns (Slot.nameOf key) with
  | some blob => Slot.valueOf? key blob
  | none => none

/-- Whether the slot of the key belongs to another key. -/
def isTaken (store : Store) (ns key : String) : Bool :=
  match store.blob? ns (Slot.nameOf key) with
  | some blob => (Slot.valueOf? key blob).isNone
  | none => false

def validAddress (ns key : String) : Bool :=
  Slot.validNamespace ns && Slot.validKey key

/-- The first bytes of a value, at most `limit` of them. -/
def read (store : Store) (ns key : String) (limit : Nat) : Except StorageFault Bytes :=
  if validAddress ns key then
    match store.get? ns key with
    | some value => .ok (value.take limit)
    | none => .error .notFound
  else .error .keyTooLong

/-- Binds a key to a value. A slot that belongs to another key is left alone, and the store counts as full. -/
def write (store : Store) (ns key : String) (value : Bytes) : Except StorageFault Store :=
  if validAddress ns key then
    if store.isTaken ns key then .error .full
    else .ok ⟨Slot.insert ns (Slot.nameOf key) (Slot.pack key value) store.slots⟩
  else .error .keyTooLong

/-- Unbinds a key. There is nothing to do if it is not bound. -/
def delete (store : Store) (ns key : String) : Except StorageFault Store :=
  if validAddress ns key then
    if (store.get? ns key).isSome then
      .ok ⟨store.slots.filter fun slot => !slot.isAt ns (Slot.nameOf key)⟩
    else .ok store
  else .error .keyTooLong

def contains (store : Store) (ns key : String) : Bool :=
  validAddress ns key && (store.get? ns key).isSome

/-- The entry of a slot; none if a hashed slot does not hold a key of that hash. -/
def entryOf? (slot : Slot) : Option Entry :=
  if slot.name.toList.head? = some Slot.mark then
    match Slot.unpack? slot.blob with
    | some (key, value) => if Slot.nameOf key = slot.name then some ⟨key, value⟩ else none
    | none => none
  else some ⟨slot.name, slot.blob⟩

/-- Every key of a namespace with its value, in the order of the slots. -/
def entries (store : Store) (ns : String) : Except StorageFault (List Entry) :=
  if Slot.validNamespace ns then
    .ok ((store.slots.filter fun slot => slot.ns = ns).filterMap entryOf?)
  else .error .keyTooLong

/-- Unbinds every key of a namespace. -/
def erase (store : Store) (ns : String) : Except StorageFault Store :=
  if Slot.validNamespace ns then .ok ⟨store.slots.filter fun slot => slot.ns ≠ ns⟩
  else .error .keyTooLong

end Store

end LeafHub
