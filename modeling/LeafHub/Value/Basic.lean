namespace LeafHub

/-- The kinds of payload that a cell can carry. -/
inductive Kind where
  | string
  | bool
  | byte
  | uint16
  | int16
  | int32
  | int64
  /-- A set of 32 event bits. -/
  | event
  deriving DecidableEq, Repr, Inhabited

namespace Kind

def name : Kind → String
  | .string => "string"
  | .bool => "bool"
  | .byte => "byte"
  | .uint16 => "uint16"
  | .int16 => "int16"
  | .int32 => "int32"
  | .int64 => "int64"
  | .event => "event"

/-- The raw width in bytes; a string has none. -/
def width : Kind → Option Nat
  | .string => none
  | .bool | .byte => some 1
  | .uint16 | .int16 => some 2
  | .int32 | .event => some 4
  | .int64 => some 8

/-- Every kind, in the order of the definition. -/
def all : List Kind :=
  [.string, .bool, .byte, .uint16, .int16, .int32, .int64, .event]

end Kind

/-- A value together with its kind. -/
inductive Value where
  | string (text : String)
  | bool (b : Bool)
  | byte (n : UInt8)
  | uint16 (n : UInt16)
  | int16 (n : Int16)
  | int32 (n : Int32)
  | int64 (n : Int64)
  | event (bits : UInt32)
  deriving DecidableEq, Inhabited

namespace Value

def kind : Value → Kind
  | .string _ => .string
  | .bool _ => .bool
  | .byte _ => .byte
  | .uint16 _ => .uint16
  | .int16 _ => .int16
  | .int32 _ => .int32
  | .int64 _ => .int64
  | .event _ => .event

end Value

/-- One row of a definition table. -/
structure Definition where
  name : String
  initial : Value

namespace Definition

def kind (row : Definition) : Kind :=
  row.initial.kind

/-- The value that a cell of this row starts with. Event cells always start with no bits. -/
def start (row : Definition) : Value :=
  match row.initial with
  | .event _ => .event 0
  | value => value

theorem kind_start (row : Definition) : row.start.kind = row.kind := by
  unfold start kind
  split <;> simp_all [Value.kind]

end Definition

end LeafHub
