import LeafHub.Fault
import LeafHub.Text.Digits
import LeafHub.Value.Basic

namespace LeafHub.Scenario

inductive Answer where
  /-- Done, and there is nothing to say. -/
  | ok
  /-- There is no such thing. -/
  | nothing
  | bool (b : Bool)
  | number (n : Int)
  | text (s : String)
  | bytes (b : Bytes)
  /-- A value together with its kind. -/
  | value (v : Value)
  /-- A value without its kind. -/
  | payload (v : Value)
  | fault (fault : Fault)
  /-- A fault without its details. -/
  | faultName (fault : Fault)
  | storageFault (fault : StorageFault)
  | attFault (fault : AttFault)
  /-- The step names an object of this sort that nobody made. -/
  | missing (sort : String)
  | list (items : List Answer)
  | record (members : List (String × Answer))
  deriving Inhabited

namespace Answer

variable {α : Type}

def ofOption (render : α → Answer) : Option α → Answer
  | some a => render a
  | none => .nothing

def ofExcept (render : α → Answer) : Except Fault α → Answer
  | .ok a => render a
  | .error e => .fault e

def ofUnit : Except Fault Unit → Answer :=
  ofExcept fun _ => .ok

def ofStorage (render : α → Answer) : Except StorageFault α → Answer
  | .ok a => render a
  | .error e => .storageFault e

def ofAtt (render : α → Answer) : Except AttFault α → Answer
  | .ok a => render a
  | .error e => .attFault e

def ofNat (n : Nat) : Answer := .number n

def ofBits (bits : UInt32) : Answer := .number bits.toNat

def texts (ss : List String) : Answer := .list (ss.map .text)

end Answer

end LeafHub.Scenario
