import LeafHub.Fault
import LeafHub.Leaf

namespace LeafHub

/-- What a command does. The leaf of a command may be gone when it is called. -/
inductive CommandHandler where
  | inert
  | led (leaf : LeafId)
  | keypad (leaf : LeafId)
  | settings (leaf : LeafId)
  | custom (behaviour : BehaviourId)
  deriving DecidableEq, Inhabited

structure Command where
  name : String
  help : String
  handler : CommandHandler
  deriving DecidableEq, Inhabited

/-- What a command answered: zero or a negative code, and what it printed. -/
structure CommandResult where
  code : Int
  output : String
  deriving DecidableEq, Inhabited

namespace CommandResult

/-- A success with this text. -/
def ofText (output : String) : CommandResult := ⟨0, output⟩

/-- A failure that prints nothing. -/
def ofFault (fault : Fault) : CommandResult := ⟨fault.errno, ""⟩

/-- A success that prints, or a failure that does not. -/
def ofExcept : Except Fault String → CommandResult
  | .ok output => ofText output
  | .error fault => ofFault fault

end CommandResult

/-- The commands in the order of their names. -/
structure CommandTable where
  entries : List Command
  deriving Inhabited

namespace CommandTable

def empty : CommandTable := ⟨[]⟩

def capacity : Nat := 20

/-- Puts a command in the place of the one of its name. -/
def replace (command : Command) : List Command → List Command
  | [] => []
  | entry :: rest => if entry.name = command.name then command :: rest else entry :: replace command rest

/-- Puts a command in front of the first one with a later name. -/
def insertSorted (command : Command) : List Command → List Command
  | [] => [command]
  | entry :: rest =>
    if command.name < entry.name then command :: entry :: rest else entry :: insertSorted command rest

def find? (table : CommandTable) (name : String) : Option Command :=
  table.entries.find? fun entry => entry.name = name

/-- Adds a command. One of the same name is replaced, also in a full table. -/
def insert (table : CommandTable) (command : Command) : Except Fault CommandTable :=
  if (table.find? command.name).isSome then .ok ⟨replace command table.entries⟩
  else if table.entries.length < capacity then .ok ⟨insertSorted command table.entries⟩
  else .error .allocationFailure

def names (table : CommandTable) : List String :=
  table.entries.map Command.name

theorem length_replace (command : Command) (entries : List Command) :
    (replace command entries).length = entries.length := by
  induction entries with
  | nil => rfl
  | cons entry rest ih => unfold replace; split <;> simp [ih]

theorem length_insertSorted (command : Command) (entries : List Command) :
    (insertSorted command entries).length = entries.length + 1 := by
  induction entries with
  | nil => rfl
  | cons entry rest ih => unfold insertSorted; split <;> simp [ih]

theorem length_insert {before after : CommandTable} {command : Command}
    (room : before.entries.length ≤ capacity) (added : before.insert command = .ok after) :
    after.entries.length ≤ capacity := by
  unfold insert at added
  split at added
  · cases added
    simpa [length_replace] using room
  · split at added
    · cases added
      simp only [length_insertSorted]
      omega
    · cases added

end CommandTable

end LeafHub
