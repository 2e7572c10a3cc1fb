namespace LeafHub.Text

/-- The White_Space property: tab to carriage return, the space, next line, the no-break space, and the
typographic and ideographic spaces. -/
def isBlank (c : Char) : Bool :=
  let n := c.toNat
  (9 ≤ n && n ≤ 13) || n == 0x20 || n == 0x85 || n == 0xA0 || n == 0x1680 ||
    (0x2000 ≤ n && n ≤ 0x200A) || n == 0x2028 || n == 0x2029 || n == 0x202F || n == 0x205F || n == 0x3000

/-- Drops the blank characters at both ends. -/
def trim (cs : List Char) : List Char :=
  ((cs.dropWhile isBlank).reverse.dropWhile isBlank).reverse

/-- Puts a character in front of the first word, or makes it a word of its own. -/
def joinWord (c : Char) (alone : Bool) : List (List Char) → List (List Char)
  | [] => [[c]]
  | w :: ws => if alone then [c] :: w :: ws else (c :: w) :: ws

/-- The maximal runs of characters that are not blank, in order. -/
def wordsOf : List Char → List (List Char)
  | [] => []
  | c :: cs => if isBlank c then wordsOf cs else joinWord c (cs.head?.all isBlank) (wordsOf cs)

/-- The words of a command line. -/
def words (line : String) : List String :=
  (wordsOf line.toList).map String.ofList

end LeafHub.Text
