namespace LeafHub

/-- A sequence of bytes. -/
abbrev Bytes := List UInt8

namespace Text

/-- The value of a decimal digit. -/
def decimalDigit? (c : Char) : Option Nat :=
  if '0' ≤ c ∧ c ≤ '9' then some (c.toNat - '0'.toNat) else none

/-- The value of a hexadecimal digit of either case. -/
def hexDigit? (c : Char) : Option Nat :=
  if '0' ≤ c ∧ c ≤ '9' then some (c.toNat - '0'.toNat)
  else if 'a' ≤ c ∧ c ≤ 'f' then some (c.toNat - 'a'.toNat + 10)
  else if 'A' ≤ c ∧ c ≤ 'F' then some (c.toNat - 'A'.toNat + 10)
  else none

/-- The value of a digit sequence, most significant digit first, continuing from `acc`. -/
def digitsFrom (base : Nat) (digit? : Char → Option Nat) : Nat → List Char → Option Nat
  | acc, [] => some acc
  | acc, c :: cs => match digit? c with
    | some d => digitsFrom base digit? (acc * base + d) cs
    | none => none

/-- One or more decimal digits. -/
def decimal? : List Char → Option Nat
  | [] => none
  | cs => digitsFrom 10 decimalDigit? 0 cs

/-- One or more hexadecimal digits. -/
def hexadecimal? : List Char → Option Nat
  | [] => none
  | cs => digitsFrom 16 hexDigit? 0 cs

/-- The number in base sixteen, small letters, at least `width` digits. -/
def hexPadded (width n : Nat) : String :=
  let digits := Nat.toDigits 16 n
  String.ofList (List.replicate (width - digits.length) '0' ++ digits)

/-- Two hexadecimal digits. -/
def hexByte (b : UInt8) : List Char :=
  [Nat.digitChar (b.toNat / 16), Nat.digitChar (b.toNat % 16)]

/-- Two hexadecimal digits a byte, without separators. -/
def hexChars (bytes : Bytes) : List Char :=
  bytes.flatMap hexByte

/-- As `hexChars`, as a text. -/
def hex (bytes : Bytes) : String :=
  String.ofList (hexChars bytes)

/-- The bytes that pairs of hexadecimal digits spell. -/
def bytesOfHex? : List Char → Option Bytes
  | [] => some []
  | [_] => none
  | a :: b :: rest =>
    match hexDigit? a, hexDigit? b, bytesOfHex? rest with
    | some high, some low, some bytes => some (UInt8.ofNat (high * 16 + low) :: bytes)
    | _, _, _ => none

theorem hexDigit?_digitChar {n : Nat} (bound : n < 16) : hexDigit? (Nat.digitChar n) = some n := by
  revert n
  decide

theorem bytesOfHex?_hexChars (bytes : Bytes) : bytesOfHex? (hexChars bytes) = some bytes := by
  induction bytes with
  | nil => rfl
  | cons b rest ih =>
    have bound := b.toNat_lt
    have high := hexDigit?_digitChar (n := b.toNat / 16) (by omega)
    have low := hexDigit?_digitChar (n := b.toNat % 16) (by omega)
    have whole : b.toNat / 16 * 16 + b.toNat % 16 = b.toNat := by omega
    have unfolded : hexChars (b :: rest) =
        Nat.digitChar (b.toNat / 16) :: Nat.digitChar (b.toNat % 16) :: hexChars rest := rfl
    rw [unfolded]
    simp only [bytesOfHex?, high, low, ih, whole, UInt8.ofNat_toNat]

end Text

end LeafHub
