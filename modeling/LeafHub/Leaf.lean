import LeafHub.Cell
import LeafHub.Text.Quoted

namespace LeafHub

/-- The number of a leaf. -/
abbrev LeafId := Nat

/-- The phases of a leaf's life in which its class is called. -/
inductive Phase where
  | init
  | start
  | stop
  | preSleep
  | postSleep
  deriving DecidableEq, Repr, Inhabited

def Phase.name : Phase → String
  | .init => "init"
  | .start => "start"
  | .stop => "stop"
  | .preSleep => "pre_sleep"
  | .postSleep => "post_sleep"

/-- The number of a behaviour that the application brings along. -/
abbrev BehaviourId := Nat

/-- What a class does when it is called. -/
inductive Callbacks where
  /-- Nothing, with success. -/
  | inert
  | led
  | keypad
  | settings
  | custom (behaviour : BehaviourId)
  deriving DecidableEq, Inhabited

/-- A kind of driver. -/
structure LeafClass where
  name : String
  /-- The name of the class above it, for display. -/
  parent : Option String
  callbacks : Callbacks
  deriving DecidableEq, Inhabited

/-- The cells of an LED leaf. -/
structure LedCells where
  ok : CellId
  on : CellId
  blinks : CellId
  duty : CellId
  deriving DecidableEq

/-- The state of an LED leaf. -/
structure LedState where
  /-- The name of its pin. -/
  pin : String
  /-- Its cells, from the first init on. -/
  cells : Option LedCells
  lit : Bool
  deriving DecidableEq

/-- The cells and the work item of a keypad leaf. -/
structure KeypadCells where
  ok : CellId
  pins : CellId
  event : CellId
  addr : CellId
  interval : CellId
  scan : ItemId
  deriving DecidableEq

/-- The state of a keypad leaf. -/
structure KeypadState where
  /-- The name of its bus. -/
  bus : String
  /-- Its cells, from the first init on. -/
  cells : Option KeypadCells
  scanning : Bool
  deriving DecidableEq

/-- What a leaf carries for its driver. -/
inductive Context where
  | led (state : LedState)
  | keypad (state : KeypadState)
  /-- The name of a store. -/
  | settings (store : String)
  | number (n : UInt8)
  | text (s : String)
  deriving DecidableEq

namespace Context

/-- An LED on a pin, before its first init. -/
def ledOn (pin : String) : Context :=
  .led ⟨pin, none, false⟩

/-- A keypad on a bus, before its first init. -/
def keypadOn (bus : String) : Context :=
  .keypad ⟨bus, none, false⟩

end Context

/-- An instance of a class, with two flags and a context of its own. -/
structure Leaf where
  name : String
  leafClass : LeafClass
  ready : Bool
  running : Bool
  context : Option Context
  /-- How many hold on to the leaf beside the list of leaves. -/
  owners : Nat
  deriving Inhabited

namespace Leaf

/-- A new leaf with one owner. -/
def fresh (leafClass : LeafClass) (name : String) (context : Option Context) : Leaf where
  name
  leafClass
  ready := false
  running := false
  context
  owners := 1

/-- The flags of a leaf in words. -/
def statusLine (leaf : Leaf) : String :=
  leaf.name ++ ": " ++ (if leaf.ready then "READY" else "FAILED") ++ " " ++
    (if leaf.running then "RUNNING" else "STOPPED")

end Leaf

end LeafHub
