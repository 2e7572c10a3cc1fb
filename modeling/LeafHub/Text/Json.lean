import LeafHub.Text.Digits

namespace LeafHub

/-- A JSON value. A string keeps apart whether its escapes spell a text: a lone surrogate is good syntax and no text.
Of a number only natural numbers written as plain digits keep their value. -/
inductive Json where
  | null
  | bool (b : Bool)
  /-- Digits without sign, fraction and exponent. -/
  | natural (n : Nat)
  /-- Any other number. -/
  | otherNumber
  /-- The text, or nothing if an escape is half a surrogate pair. -/
  | string (text : Option String)
  | array (items : List Json)
  | object (members : List (Option String × Json))

namespace Json

/-- A piece of a string between its quotes: a character, or the code of a `u` escape. -/
inductive Piece where
  | char (c : Char)
  | code (n : Nat)

/-- The character that stands for itself after a backslash, or for a control character. -/
def escape? : Char → Option Char
  | '"' => some '"'
  | '\\' => some '\\'
  | '/' => some '/'
  | 'b' => some '\x08'
  | 'f' => some '\x0c'
  | 'n' => some '\n'
  | 'r' => some '\r'
  | 't' => some '\t'
  | _ => none

/-- The pieces up to the closing quote, and what follows it. Control characters need an escape. -/
def pieces? : List Char → Option (List Piece × List Char)
  | [] => none
  | '"' :: rest => some ([], rest)
  | '\\' :: 'u' :: a :: b :: c :: d :: rest =>
    match Text.hexadecimal? [a, b, c, d], pieces? rest with
    | some n, some (ps, tail) => some (.code n :: ps, tail)
    | _, _ => none
  | '\\' :: e :: rest =>
    match escape? e, pieces? rest with
    | some c, some (ps, tail) => some (.char c :: ps, tail)
    | _, _ => none
  | c :: rest =>
    if c.toNat < 0x20 then none
    else match pieces? rest with
      | some (ps, tail) => some (.char c :: ps, tail)
      | none => none

/-- The text of the pieces. Two codes in a row that form a surrogate pair are one character; any other surrogate
is none. -/
def textOf? : List Piece → Option (List Char)
  | [] => some []
  | .char c :: rest => (textOf? rest).map (c :: ·)
  | .code n :: rest =>
    if 0xD800 ≤ n ∧ n < 0xDC00 then
      match rest with
      | .code m :: more =>
        if 0xDC00 ≤ m ∧ m < 0xE000 then
          (textOf? more).map (Char.ofNat (0x10000 + (n - 0xD800) * 0x400 + (m - 0xDC00)) :: ·)
        else none
      | _ => none
    else if 0xDC00 ≤ n ∧ n < 0xE000 then none
    else (textOf? rest).map (Char.ofNat n :: ·)

/-- The rest of a string after its opening quote. -/
def stringTail? (cs : List Char) : Option (Option String × List Char) :=
  (pieces? cs).map fun (ps, rest) => ((textOf? ps).map String.ofList, rest)

def isBlank (c : Char) : Bool :=
  c == ' ' || c == '\n' || c == '\t' || c == '\r'

def skipBlanks (cs : List Char) : List Char :=
  cs.dropWhile isBlank

/-- One or more digits, and what follows them. -/
def digits? (cs : List Char) : Option (List Char × List Char) :=
  match cs.takeWhile Char.isDigit with
  | [] => none
  | ds => some (ds, cs.dropWhile Char.isDigit)

/-- The digits before a fraction: no zero in front of another digit. -/
def wholePart? (cs : List Char) : Option (List Char × List Char) :=
  match digits? cs with
  | some ('0' :: _ :: _, _) => none
  | found => found

/-- An exponent, if there is one. -/
def exponent? (cs : List Char) : Option (Bool × List Char) :=
  match cs with
  | e :: rest =>
    if e = 'e' ∨ e = 'E' then
      let digits := match rest with
        | sign :: more => if sign = '+' ∨ sign = '-' then more else rest
        | [] => rest
      (digits? digits).map fun (_, tail) => (true, tail)
    else some (false, cs)
  | [] => some (false, cs)

/-- A fraction, if there is one. -/
def fraction? (cs : List Char) : Option (Bool × List Char) :=
  match cs with
  | '.' :: rest => (digits? rest).map fun (_, tail) => (true, tail)
  | _ => some (false, cs)

/-- A number. -/
def number? (cs : List Char) : Option (Json × List Char) := do
  let (negative, cs) := match cs with
    | '-' :: rest => (true, rest)
    | _ => (false, cs)
  let (ds, cs) ← wholePart? cs
  let (fractional, cs) ← fraction? cs
  let (scaled, cs) ← exponent? cs
  let n ← Text.decimal? ds
  some (if negative || fractional || scaled then .otherNumber else .natural n, cs)

mutual

/-- A value and what follows it; `fuel` bounds the nesting and the number of items. -/
def value? : Nat → List Char → Option (Json × List Char)
  | 0, _ => none
  | fuel + 1, cs =>
    match skipBlanks cs with
    | 'n' :: 'u' :: 'l' :: 'l' :: rest => some (.null, rest)
    | 't' :: 'r' :: 'u' :: 'e' :: rest => some (.bool true, rest)
    | 'f' :: 'a' :: 'l' :: 's' :: 'e' :: rest => some (.bool false, rest)
    | '"' :: rest => (stringTail? rest).map fun (text, tail) => (.string text, tail)
    | '[' :: rest => match skipBlanks rest with
      | ']' :: tail => some (.array [], tail)
      | _ => (items? fuel rest).map fun (items, tail) => (.array items, tail)
    | '\x7b' :: rest => match skipBlanks rest with
      | '\x7d' :: tail => some (.object [], tail)
      | _ => (members? fuel rest).map fun (members, tail) => (.object members, tail)
    | start => number? start

/-- One or more values with commas between them, up to the closing bracket. -/
def items? : Nat → List Char → Option (List Json × List Char)
  | 0, _ => none
  | fuel + 1, cs =>
    match value? fuel cs with
    | none => none
    | some (item, rest) => match skipBlanks rest with
      | ']' :: tail => some ([item], tail)
      | ',' :: more => (items? fuel more).map fun (items, tail) => (item :: items, tail)
      | _ => none

/-- One or more named values with commas between them, up to the closing brace. -/
def members? : Nat → List Char → Option (List (Option String × Json) × List Char)
  | 0, _ => none
  | fuel + 1, cs =>
    match skipBlanks cs with
    | '"' :: key => match stringTail? key with
      | none => none
      | some (name, rest) => match skipBlanks rest with
        | ':' :: more => match value? fuel more with
          | none => none
          | some (item, rest) => match skipBlanks rest with
            | '\x7d' :: tail => some ([(name, item)], tail)
            | ',' :: more => (members? fuel more).map fun (members, tail) => ((name, item) :: members, tail)
            | _ => none
        | _ => none
    | _ => none

end

/-- Reads a document. Each level and each item takes a character at least, so the length is fuel enough. -/
def read? (text : String) : Option Json :=
  let cs := text.toList
  match value? (2 * cs.length + 2) cs with
  | some (json, rest) => if skipBlanks rest = [] then some json else none
  | none => none

/-- How a character is written in a string. -/
def writeChar (c : Char) : List Char :=
  match c with
  | '"' => ['\\', '"']
  | '\\' => ['\\', '\\']
  | '\x08' => ['\\', 'b']
  | '\x0c' => ['\\', 'f']
  | '\n' => ['\\', 'n']
  | '\r' => ['\\', 'r']
  | '\t' => ['\\', 't']
  | _ => if c.toNat < 0x20 then ['\\', 'u', '0', '0'] ++ Text.hexByte (UInt8.ofNat c.toNat) else [c]

/-- A string in its quotes. -/
def writeString (text : String) : List Char :=
  '"' :: text.toList.flatMap writeChar ++ ['"']

/-- Texts with commas between them. -/
def commaSeparated : List (List Char) → List Char
  | [] => []
  | [item] => item
  | item :: rest => item ++ ',' :: commaSeparated rest

/-- A compact object of members whose values are written already. -/
def writeObject (members : List (String × List Char)) : List Char :=
  '\x7b' :: commaSeparated (members.map fun (name, value) => writeString name ++ ':' :: value) ++ ['\x7d']

/-- A compact array of items that are written already. -/
def writeArray (items : List (List Char)) : List Char :=
  '[' :: commaSeparated items ++ [']']

end Json

end LeafHub
