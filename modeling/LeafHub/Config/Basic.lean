import LeafHub.Text.Bounded

namespace LeafHub

/-- The tunables of a hub: lock deadlines, naming, the settings namespace, the wire limit for strings and the worker
thread. -/
structure Config where
  /-- How long an access to the class and leaf lists waits, in milliseconds. -/
  registryLockMs : UInt32
  /-- How long an access to the variable and setting lists waits, in milliseconds. -/
  valueLockMs : UInt32
  /-- The advertised name starts with it. -/
  nameBase : Bounded 12
  /-- The storage namespace of the settings. -/
  settingsNamespace : Bounded 15
  /-- The longest string that a wire write may leave, in bytes. -/
  stringWriteMax : UInt16
  workerStackKb : UInt16
  workerPriority : UInt8
  deriving DecidableEq

namespace Config

def standard : Config where
  registryLockMs := 100
  valueLockMs := 500
  nameBase := ⟨"leaf", by decide⟩
  settingsNamespace := ⟨"app", by decide⟩
  stringWriteMax := 100
  workerStackKb := 8
  workerPriority := 5

instance : Inhabited Config := ⟨standard⟩

/-- What can be wrong with a configuration. -/
inductive Problem where
  | registryLock
  | valueLock
  | settingsNamespace
  | stringWriteMax
  | workerStack
  deriving DecidableEq, Repr

def Problem.message : Problem → String
  | .registryLock => "registry_lock_ms must be 10–5000"
  | .valueLock => "value_lock_ms must be 10–5000"
  | .settingsNamespace => "settings_namespace must be a single non-empty path segment"
  | .stringWriteMax => "string_write_max must be non-zero"
  | .workerStack => "worker_stack_kb must be at least 2"

/-- The first problem, in the order of the fields. -/
def validate (config : Config) : Option Problem :=
  if config.registryLockMs < 10 ∨ 5000 < config.registryLockMs then some .registryLock
  else if config.valueLockMs < 10 ∨ 5000 < config.valueLockMs then some .valueLock
  else if config.settingsNamespace.text = "" ∨ '/' ∈ config.settingsNamespace.text.toList then
    some .settingsNamespace
  else if config.stringWriteMax = 0 then some .stringWriteMax
  else if config.workerStackKb < 2 then some .workerStack
  else none

theorem validate_standard : standard.validate = none := by
  decide +kernel

end Config

end LeafHub
