import LeafHub.Lifecycle
import LeafHub.Text.Blank
import LeafHub.Text.Quoted

namespace LeafHub

namespace Shell

def usage : String :=
  "usage: <status|boot|init|start|stop|value|setting|leaf> ...\n"

/-- What the shell can do with one leaf. -/
inductive LeafAction where
  | init
  | start
  | stop
  deriving DecidableEq, Repr

namespace LeafAction

def name : LeafAction → String
  | .init => "init"
  | .start => "start"
  | .stop => "stop"

/-- What is printed when the action is done. -/
def finished : LeafAction → String
  | .init => "initialised\n"
  | .start => "started\n"
  | .stop => "stopped\n"

end LeafAction

/-- The answer to a leaf action. -/
def leafAnswer (action : LeafAction) (name : String) : Except Fault Unit → CommandResult
  | .ok () => .ofText action.finished
  | .error .notFound => ⟨Fault.notFound.errno, s!"No leaf named '{name}'\n"⟩
  | .error fault => ⟨fault.errno, "failed\n"⟩

/-- The `status` command. -/
def status (hub : Hub) : CommandResult :=
  if hub.initialised then
    .ofText ("registry is initialised\n" ++
      String.join (hub.leafList.map fun id => (hub.leaf id).statusLine ++ "\n"))
  else .ofText "registry is not initialised\n"

/-- The `boot` command. -/
def boot : Act CommandResult := do
  match ← Hub.initialise.run with
  | .ok () => return .ofText "booted\n"
  | .error fault => return ⟨fault.errno, "failed\n"⟩

/-- The answer to a name that no variable has. -/
def noValue (name : String) : CommandResult :=
  ⟨Fault.notFound.errno, s!"No value named '{name}'\n"⟩

/-- Stores what an operator typed for a variable. -/
def setValue (name : String) (words : List String) : Act CommandResult := do
  match (← get).findVariable name with
  | none => return noValue name
  | some id =>
    match ← (Hub.storeText id (" ".intercalate words)).run with
    | .ok () => return .ofText ((← get).describe id ++ "\n")
    | .error _ => return ⟨Fault.invalidValue.errno, s!"Value update failed for '{name}'\n"⟩

/-- The `value` command. -/
def value (args : List String) : Act CommandResult := do
  let hub ← get
  match args with
  | [] | ["list"] | ["show"] => return .ofText (hub.descriptions hub.variableList)
  | ["get", name] =>
    match hub.findVariable name with
    | some id => return .ofText (hub.describe id ++ "\n")
    | none => return noValue name
  | "set" :: name :: word :: words => setValue name (word :: words)
  | _ => return .ofText "value <list|get|set>\n"

end Shell

namespace Routine

variable {σ : Type}

/-- Runs a registered command. -/
def runCommand (command : Command) (args : List String) : Routine σ CommandResult :=
  match command.handler with
  | .inert => return .ofText ""
  | .led id => Hub.ledCommand id args
  | .keypad id => Hub.keypadCommand id args
  | .settings id => Hub.settingsLeafCommand id args
  | .custom behaviour => ofCall (.command behaviour args)

/-- Drives one leaf. -/
def driveLeaf (action : Shell.LeafAction) (name : String) : Routine σ (Except Fault Unit) :=
  match action with
  | .init => do
    match (← get).findLeaf name with
    | some id => initLeaf id
    | none => return .error .notFound
  | .start => start name
  | .stop => stop name

/-- The `init`, `start` and `stop` commands. -/
def shellLeafAction (action : Shell.LeafAction) (args : List String) : Routine σ CommandResult := do
  match args with
  | [name] => return Shell.leafAnswer action name (← driveLeaf action name)
  | _ => return ⟨Fault.invalidValue.errno, s!"{action.name} <leaf>\n"⟩

/-- The `leaf` command. -/
def shellLeaf (args : List String) : Routine σ CommandResult := do
  let hub ← get
  match args with
  | [] => return .ofText (String.join (hub.commands.names.map fun name => name ++ "\n"))
  | name :: rest =>
    match hub.findCommand name with
    | some command => runCommand command rest
    | none => return ⟨Fault.notFound.errno, s!"No leaf command named '{name}'\n"⟩

/-- Runs a command of which the words are given. One that is not the shell's own is looked up among the commands that
leaves registered. -/
def execute (args : List String) : Routine σ CommandResult := do
  Hub.log .debug s!"shell {Text.quotedList args}"
  match args with
  | [] => return .ofText Shell.usage
  | "status" :: _ => return Shell.status (← get)
  | "boot" :: _ => Shell.boot
  | "init" :: rest => shellLeafAction .init rest
  | "start" :: rest => shellLeafAction .start rest
  | "stop" :: rest => shellLeafAction .stop rest
  | "value" :: rest => Shell.value rest
  | "leaf" :: rest => shellLeaf rest
  | name :: rest =>
    match (← get).findCommand name with
    | some command => runCommand command rest
    | none => return ⟨Fault.notFound.errno, Shell.usage⟩

/-- Runs a command line. -/
def executeLine (line : String) : Routine σ CommandResult :=
  execute (Text.words line)

end Routine

end LeafHub
