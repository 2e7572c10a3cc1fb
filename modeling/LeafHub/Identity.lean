import LeafHub.Text.Bounded
import LeafHub.Text.Digits

namespace LeafHub

/-- The hardware id in hexadecimal, the last four digits of that, and the advertised name: a base and the four digits. -/
structure Identity where
  hex : String
  short : String
  name : String
  deriving DecidableEq, Inhabited

namespace Identity

/-- The longest advertised name, in bytes. -/
def nameLimit : Nat := 20

/-- Before a hub is initialised it has no identity. -/
def blank : Identity where
  hex := ""
  short := ""
  name := ""

/-- The identity of a hardware id, of which at most sixteen bytes count. A name that is too long loses whole
characters at its end. -/
def ofId (id : Bytes) (base : String) : Identity :=
  let digits := Text.hexChars (id.take 16)
  let short := digits.drop (digits.length - 4)
  { hex := String.ofList digits
    short := String.ofList short
    name := String.ofList (Text.clip nameLimit (base.toList ++ '-' :: short)) }

/-- The hardware id of this machine. -/
def hardwareId : Bytes := [0xDE, 0xAD, 0xBE, 0xEF, 0xCA, 0xFE]

/-- The identity of this machine. -/
def ofThisMachine (base : String) : Identity :=
  ofId hardwareId base

end Identity

end LeafHub
