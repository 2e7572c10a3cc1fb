import LeafHub.Fault
import LeafHub.Text.Blank
import LeafHub.Text.Digits
import LeafHub.Text.Quoted
import LeafHub.Value.Basic

namespace LeafHub

/-- Event bits as `0x` and eight hexadecimal digits. -/
def bitsText (bits : UInt32) : String :=
  "0x" ++ Text.hexPadded 8 bits.toNat

namespace Value

/-- The text form of a value. -/
def text : Value → String
  | .string text => text
  | .bool b => if b then "true" else "false"
  | .byte n => toString n.toNat
  | .uint16 n => toString n.toNat
  | .int16 n => toString n.toInt
  | .int32 n => toString n.toInt
  | .int64 n => toString n.toInt
  | .event bits => bitsText bits

/-- The value with the name of its variant around it. -/
def inspect : Value → String
  | .string text => "Str(" ++ Text.quoted text ++ ")"
  | .bool b => "Bool(" ++ (Value.bool b).text ++ ")"
  | .byte n => "Byte(" ++ (Value.byte n).text ++ ")"
  | .uint16 n => "Uint16(" ++ (Value.uint16 n).text ++ ")"
  | .int16 n => "Int16(" ++ (Value.int16 n).text ++ ")"
  | .int32 n => "Int32(" ++ (Value.int32 n).text ++ ")"
  | .int64 n => "Int64(" ++ (Value.int64 n).text ++ ")"
  | .event bits => "Event(" ++ toString bits.toNat ++ ")"

end Value

namespace Kind

/-- The name of the kind as `Value.inspect` spells it; strings keep their full name here. -/
def inspect : Kind → String
  | .string => "String"
  | .bool => "Bool"
  | .byte => "Byte"
  | .uint16 => "Uint16"
  | .int16 => "Int16"
  | .int32 => "Int32"
  | .int64 => "Int64"
  | .event => "Event"

/-- A number below `limit`: decimal digits, perhaps after a plus sign. -/
def unsigned? (limit : Nat) (cs : List Char) : Option Nat :=
  let digits := match cs with
    | '+' :: rest => rest
    | _ => cs
  match Text.decimal? digits with
  | some n => if n < limit then some n else none
  | none => none

/-- A number from `-half` to `half - 1`: decimal digits, perhaps after a sign. -/
def signed? (half : Nat) (cs : List Char) : Option Int :=
  match cs with
  | '-' :: rest => match Text.decimal? rest with
    | some n => if n ≤ half then some (-(n : Int)) else none
    | none => none
  | _ => match unsigned? half cs with
    | some n => some (n : Int)
    | none => none

/-- Event bits: `0x` or `0X` and hexadecimal digits, perhaps with a plus sign between them, or a decimal
number. -/
def bits? (cs : List Char) : Option Nat :=
  let hexadecimal (rest : List Char) : Option Nat :=
    let digits := match rest with
      | '+' :: more => more
      | _ => rest
    match Text.hexadecimal? digits with
    | some n => if n < UInt32.size then some n else none
    | none => none
  match cs with
  | '0' :: 'x' :: rest => hexadecimal rest
  | '0' :: 'X' :: rest => hexadecimal rest
  | _ => unsigned? UInt32.size cs

/-- Reads what an operator typed. A string is kept as it is; a bool is true for `true`, `on` and `1` and false
for everything else; numbers are strict. -/
def ofText (kind : Kind) (text : String) : Except Fault Value :=
  let cs := Text.trim text.toList
  let number {α : Type} (read : Option α) (value : α → Value) : Except Fault Value :=
    match read with
    | some n => .ok (value n)
    | none => .error .invalidValue
  match kind with
  | .string => .ok (.string text)
  | .bool => .ok (.bool (cs = "true".toList ∨ cs = "on".toList ∨ cs = "1".toList))
  | .byte => number (unsigned? UInt8.size cs) fun n => .byte (UInt8.ofNat n)
  | .uint16 => number (unsigned? UInt16.size cs) fun n => .uint16 (UInt16.ofNat n)
  | .int16 => number (signed? (Int16.size / 2) cs) fun n => .int16 (Int16.ofInt n)
  | .int32 => number (signed? (Int32.size / 2) cs) fun n => .int32 (Int32.ofInt n)
  | .int64 => number (signed? (Int64.size / 2) cs) fun n => .int64 (Int64.ofInt n)
  | .event => number (bits? cs) fun n => .event (UInt32.ofNat n)

theorem kind_ofText {kind : Kind} {text : String} {value : Value} (read : kind.ofText text = .ok value) :
    value.kind = kind := by
  cases kind <;> simp only [ofText] at read <;> first | (cases read; rfl) | (split at read <;> cases read; rfl)

end Kind

end LeafHub
