import LeafHub.Config.Basic
import LeafHub.Text.Json

namespace LeafHub.Config

/-- The members of the object form, in the order of the fields, with their values written out. -/
def members (config : Config) : List (String × List Char) :=
  let number (n : Nat) := Nat.toDigits 10 n
  [("registry_lock_ms", number config.registryLockMs.toNat),
    ("value_lock_ms", number config.valueLockMs.toNat),
    ("name_base", Json.writeString config.nameBase.text),
    ("settings_namespace", Json.writeString config.settingsNamespace.text),
    ("string_write_max", number config.stringWriteMax.toNat),
    ("worker_stack_kb", number config.workerStackKb.toNat),
    ("worker_priority", number config.workerPriority.toNat)]

/-- The compact document. -/
def document (config : Config) : String :=
  String.ofList (Json.writeObject config.members)

/-- A natural number below `limit`. -/
def number? (limit : Nat) : Json → Option Nat
  | .natural n => if n < limit then some n else none
  | _ => none

/-- A text that fits. -/
def text? (limit : Nat) : Json → Option (Bounded limit)
  | .string (some text) => Bounded.of? text
  | _ => none

/-- The configuration of seven values in the order of the fields. -/
def ofValues? : List Json → Option Config
  | [registryLock, valueLock, nameBase, settingsNamespace, stringWriteMax, workerStack, workerPriority] => do
    let registryLock ← number? UInt32.size registryLock
    let valueLock ← number? UInt32.size valueLock
    let nameBase ← text? 12 nameBase
    let settingsNamespace ← text? 15 settingsNamespace
    let stringWriteMax ← number? UInt16.size stringWriteMax
    let workerStack ← number? UInt16.size workerStack
    let workerPriority ← number? UInt8.size workerPriority
    some {
      registryLockMs := UInt32.ofNat registryLock
      valueLockMs := UInt32.ofNat valueLock
      nameBase
      settingsNamespace
      stringWriteMax := UInt16.ofNat stringWriteMax
      workerStackKb := UInt16.ofNat workerStack
      workerPriority := UInt8.ofNat workerPriority }
  | _ => none

/-- The names of the members, in the order of the fields. -/
def memberNames : List String :=
  ["registry_lock_ms", "value_lock_ms", "name_base", "settings_namespace", "string_write_max",
    "worker_stack_kb", "worker_priority"]

/-- The value of the only member of that name. -/
def member? (members : List (Option String × Json)) (name : String) : Option Json :=
  match members.filter fun member => member.1 = some name with
  | [member] => some member.2
  | _ => none

/-- The configuration that a JSON document describes: an object with one member a field in any order, where members
of other names are ignored, or the array of the seven values. -/
def ofJson? : Json → Option Config
  | .array items => ofValues? items
  | .object members =>
    if members.all fun member => member.1.isSome then
      match memberNames.mapM (member? members) with
      | some values => ofValues? values
      | none => none
    else none
  | _ => none

/-- Reads a document. -/
def ofDocument? (text : String) : Option Config :=
  match Json.read? text with
  | some json => ofJson? json
  | none => none

end LeafHub.Config
