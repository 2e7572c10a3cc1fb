import Mathlib.Tactic.IntervalCases
import LeafHub.Proofs.Text.Numeral
import LeafHub.Text.Json

namespace LeafHub.Json

/-- The characters are one piece of a string, which stands for the character. -/
def Stands (written : List Char) (c : Char) : Prop :=
  ∃ piece, (∀ cs, pieces? (written ++ cs) = (pieces? cs).map fun found => (piece :: found.1, found.2)) ∧
    ∀ ps, textOf? (piece :: ps) = (textOf? ps).map (c :: ·)

theorem stands_escape {e c : Char} (named : escape? e = some c) : Stands ['\\', e] c := by
  have short : e ≠ 'u' := by
    rintro rfl
    cases named
  refine ⟨.char c, fun cs => ?_, fun _ => rfl⟩
  rw [List.cons_append, List.singleton_append, pieces?.eq_4 e cs fun _ _ _ _ _ coded => absurd coded short, named]
  cases pieces? cs <;> rfl

theorem stands_code {c : Char} (control : c.toNat < 0x20) :
    Stands (['\\', 'u', '0', '0'] ++ Text.hexByte (UInt8.ofNat c.toNat)) c := by
  have spelled : ∀ n < 0x20, Text.hexadecimal? (['0', '0'] ++ Text.hexByte (UInt8.ofNat n)) = some n := by decide
  have read := spelled c.toNat control
  refine ⟨.code c.toNat, fun cs => ?_, fun ps => ?_⟩
  · rw [Text.hexByte] at read ⊢
    simp only [List.cons_append, List.nil_append] at read ⊢
    rw [pieces?.eq_3, read]
    cases pieces? cs <;> rfl
  · have notHigh : ¬(0xD800 ≤ c.toNat ∧ c.toNat < 0xDC00) := by omega
    have notLow : ¬(0xDC00 ≤ c.toNat ∧ c.toNat < 0xE000) := by omega
    rw [textOf?.eq_def]
    simp only [if_neg notHigh, if_neg notLow, Char.ofNat_toNat]

theorem stands_self {c : Char} (quote : c ≠ '"') (backslash : c ≠ '\\') (shown : ¬c.toNat < 0x20) : Stands [c] c := by
  refine ⟨.char c, fun cs => ?_, fun _ => rfl⟩
  rw [List.singleton_append, pieces?.eq_5 c cs quote (fun _ _ _ _ _ here => absurd here backslash)
    (fun _ _ here => absurd here backslash), if_neg shown]
  cases pieces? cs <;> rfl

theorem stands_writeChar (c : Char) : Stands (writeChar c) c := by
  unfold writeChar
  split
  case h_8 quote backslash _ _ _ _ _ =>
    split
    · rename_i control
      exact stands_code control
    · rename_i shown
      exact stands_self quote backslash shown
  all_goals exact stands_escape rfl

/-- The characters between the quotes read back, up to the closing quote. -/
theorem stringTail?_flatMap (cs rest : List Char) :
    stringTail? (cs.flatMap writeChar ++ '"' :: rest) = some (some (String.ofList cs), rest) := by
  have read : ∃ ps, pieces? (cs.flatMap writeChar ++ '"' :: rest) = some (ps, rest) ∧ textOf? ps = some cs := by
    induction cs with
    | nil => exact ⟨[], by simp [pieces?], rfl⟩
    | cons c cs ih =>
      obtain ⟨ps, pieces, text⟩ := ih
      obtain ⟨piece, written, stands⟩ := stands_writeChar c
      refine ⟨piece :: ps, ?_, ?_⟩
      · rw [List.flatMap_cons, List.append_assoc, written, pieces, Option.map_some]
      · rw [stands, text, Option.map_some]
  obtain ⟨ps, pieces, text⟩ := read
  simp only [stringTail?, pieces, Option.map_some, text]

/-- The item of a list ends here, or the document. -/
inductive Closes : List Char → Prop
  | nothing : Closes []
  | comma (tail : List Char) : Closes (',' :: tail)
  | bracket (tail : List Char) : Closes (']' :: tail)
  | brace (tail : List Char) : Closes ('\x7d' :: tail)

/-- The text reads as the value, whatever closes it. -/
def Spells (cs : List Char) (json : Json) : Prop :=
  ∀ fuel rest, Closes rest → value? (fuel + 1) (cs ++ rest) = some (json, rest)

theorem spells_writeString (text : String) : Spells (writeString text) (.string (some text)) := by
  intro fuel rest _
  have opened : writeString text ++ rest = '"' :: (text.toList.flatMap writeChar ++ '"' :: rest) := by
    simp [writeString]
  have start : ∀ cs, skipBlanks ('"' :: cs) = '"' :: cs := fun cs => rfl
  rw [opened, value?, start]
  simp only [stringTail?_flatMap, Option.map_some, String.ofList_toList]

/-- A printed number has a first digit, which is zero for zero only. -/
theorem exists_firstDigit (n : Nat) :
    ∃ d ds, Nat.toDigits 10 n = Nat.digitChar d :: ds ∧ d < 10 ∧ (d = 0 → n = 0 ∧ ds = []) := by
  induction n using Nat.strongRecOn with
  | ind n ih =>
    rw [Nat.toDigits_eq_if (by decide)]
    split
    · rename_i small
      exact ⟨n, [], rfl, small, fun zero => ⟨zero, rfl⟩⟩
    · obtain ⟨d, ds, printed, small, zero⟩ := ih (n / 10) (by omega)
      refine ⟨d, ds ++ [Nat.digitChar (n % 10)], by rw [printed, List.cons_append], small, fun first => ?_⟩
      have none := (zero first).1
      omega

/-- A printed number is its own whole part: it has no zero in front of another digit, and what closes it is no digit. -/
theorem wholePart?_toDigits (n : Nat) {rest : List Char} (closes : Closes rest) :
    wholePart? (Nat.toDigits 10 n ++ rest) = some (Nat.toDigits 10 n, rest) := by
  have digits : ∀ c ∈ Nat.toDigits 10 n, c.isDigit := fun c member =>
    Nat.isDigit_of_mem_toDigits (by decide) (by decide) member
  have stops : rest.takeWhile Char.isDigit = [] ∧ rest.dropWhile Char.isDigit = rest := by
    cases closes <;> exact ⟨rfl, rfl⟩
  obtain ⟨d, ds, printed, small, zero⟩ := exists_firstDigit n
  have read : digits? (Nat.toDigits 10 n ++ rest) = some (Nat.toDigits 10 n, rest) := by
    rw [digits?, List.takeWhile_append_of_pos digits, List.dropWhile_append_of_pos digits, stops.1, stops.2,
      List.append_nil, printed]
  have nonzero : ∀ d < 10, Nat.digitChar d = '0' → d = 0 := by decide
  rw [wholePart?, read, printed]
  split
  · rename_i e more tail found
    have parts := Prod.mk.inj (Option.some.inj found)
    have cells := List.cons.inj parts.1
    have alone := (zero (nonzero d small cells.1)).2
    rw [alone] at cells
    exact absurd cells.2.symm (List.cons_ne_nil e more)
  · rfl

theorem number?_toDigits (n : Nat) {rest : List Char} (closes : Closes rest) :
    number? (Nat.toDigits 10 n ++ rest) = some (.natural n, rest) := by
  obtain ⟨d, ds, printed, small, -⟩ := exists_firstDigit n
  have whole := wholePart?_toDigits n closes
  have value : Text.decimal? (Nat.toDigits 10 n) = some n :=
    Text.decimal?_eq_some_iff.mpr (.toDigits (by decide) (fun d small => ⟨small, rfl⟩) n)
  have unsigned : ∀ d < 10, Nat.digitChar d ≠ '-' := by decide
  have noFraction : fraction? rest = some (false, rest) := by cases closes <;> rfl
  have noExponent : exponent? rest = some (false, rest) := by cases closes <;> rfl
  unfold number?
  split
  rename_i negative cs signed
  rw [printed, List.cons_append] at signed
  split at signed
  · rename_i sign
    exact absurd (List.cons.inj sign).1 (unsigned d small)
  · cases signed
    rw [← List.cons_append, ← printed]
    simp only [whole, noFraction, noExponent, value, Option.bind_eq_bind, Option.bind_some]
    rfl

theorem spells_toDigits (n : Nat) : Spells (Nat.toDigits 10 n) (.natural n) := by
  intro fuel rest closes
  obtain ⟨d, ds, printed, small, -⟩ := exists_firstDigit n
  have read := number?_toDigits n closes
  rw [printed, List.cons_append] at read ⊢
  rw [value?]
  interval_cases d <;> exact read

theorem length_commaSeparated (items : List (List Char)) : items.length ≤ (commaSeparated items).length + 1 := by
  induction items with
  | nil => exact Nat.zero_le _
  | cons item items ih =>
    cases items with
    | nil => simp [commaSeparated]
    | cons next items =>
      simp only [commaSeparated, List.length_append, List.length_cons] at ih ⊢
      omega

/-- The items of an array. A value takes one level, so there have to be more levels than items. -/
theorem items?_commaSeparated {written : List (List Char)} {items : List Json} (spelled : List.Forall₂ Spells written items)
    (more : written ≠ []) {fuel : Nat} (enough : written.length < fuel) (rest : List Char) :
    items? fuel (commaSeparated written ++ ']' :: rest) = some (items, rest) := by
  induction spelled generalizing fuel with
  | nil => exact absurd rfl more
  | @cons cs item written items first others ih =>
    rw [List.length_cons] at enough
    obtain ⟨fuel, rfl⟩ : ∃ below, fuel = below + 2 := ⟨fuel - 2, by omega⟩
    rcases written with _ | ⟨next, written⟩
    · cases others
      rw [commaSeparated, items?, first fuel (']' :: rest) (.bracket rest)]
      rfl
    · have following := @ih (List.cons_ne_nil next written) (fuel + 1) (by omega)
      rw [commaSeparated.eq_3 _ _ (List.cons_ne_nil next written), List.append_assoc, List.cons_append, items?,
        first fuel (',' :: _) (.comma _)]
      have comma : ∀ cs, skipBlanks (',' :: cs) = ',' :: cs := fun _ => rfl
      simp only [comma, following, Option.map_some]

/-- What reads as items does not close the array at once. -/
theorem value?_array {fuel : Nat} {cs tail : List Char} {items : List Json} (read : items? fuel cs = some (items, tail)) :
    value? (fuel + 1) ('[' :: cs) = some (.array items, tail) := by
  have bracket : skipBlanks ('[' :: cs) = '[' :: cs := rfl
  rw [value?]
  simp only [bracket]
  split
  · rename_i closed
    rcases fuel with _ | _ | fuel
    · cases read
    · cases read
    · rw [items?, value?, closed] at read
      cases read
  · rw [read]
    rfl

/-- A value that takes up the whole text is what the text reads as. -/
theorem read?_ofList {cs : List Char} {json : Json} (whole : value? (2 * cs.length + 2) cs = some (json, [])) :
    read? (String.ofList cs) = some json := by
  rw [read?, String.toList_ofList, whole]
  rfl

/-- An array of values reads as the list of them. -/
theorem read?_writeArray {written : List (List Char)} {items : List Json} (spelled : List.Forall₂ Spells written items) :
    read? (String.ofList (writeArray written)) = some (.array items) := by
  rcases written with _ | ⟨cs, written⟩
  · cases spelled
    rfl
  · have long := length_commaSeparated (cs :: written)
    have size : (writeArray (cs :: written)).length = (commaSeparated (cs :: written)).length + 2 := by simp [writeArray]
    exact read?_ofList (value?_array (items?_commaSeparated spelled (List.cons_ne_nil cs written) (by omega) []))

/-- The member is written under its name. -/
def SpellsMember (written : String × List Char) (member : Option String × Json) : Prop :=
  member.1 = some written.1 ∧ Spells written.2 member.2

/-- A member is read up to what closes it. -/
theorem members?_member {written : String × List Char} {member : Option String × Json} (spelled : SpellsMember written member)
    (fuel : Nat) (rest : List Char) :
    Closes rest → members? (fuel + 2) (writeString written.1 ++ ':' :: written.2 ++ rest) =
      match rest with
      | '\x7d' :: tail => some ([member], tail)
      | ',' :: more => (members? (fuel + 1) more).map fun (members, tail) => (member :: members, tail)
      | _ => none := by
  intro closes
  obtain ⟨named, value⟩ := spelled
  have opened : writeString written.1 ++ ':' :: written.2 ++ rest =
      '"' :: (written.1.toList.flatMap writeChar ++ '"' :: ':' :: (written.2 ++ rest)) := by
    simp [writeString]
  have quote : ∀ cs, skipBlanks ('"' :: cs) = '"' :: cs := fun _ => rfl
  have colon : ∀ cs, skipBlanks (':' :: cs) = ':' :: cs := fun _ => rfl
  rw [opened, members?, quote]
  simp only [stringTail?_flatMap, colon, value fuel rest closes, String.ofList_toList, ← named]
  cases closes <;> rfl

theorem members?_commaSeparated {written : List (String × List Char)} {members : List (Option String × Json)}
    (spelled : List.Forall₂ SpellsMember written members) (more : written ≠ []) {fuel : Nat}
    (enough : written.length < fuel) (rest : List Char) :
    members? fuel (commaSeparated (written.map fun (name, value) => writeString name ++ ':' :: value) ++ '\x7d' :: rest) =
      some (members, rest) := by
  induction spelled generalizing fuel with
  | nil => exact absurd rfl more
  | @cons pair member written members first others ih =>
    rw [List.length_cons] at enough
    obtain ⟨fuel, rfl⟩ : ∃ below, fuel = below + 2 := ⟨fuel - 2, by omega⟩
    rcases written with _ | ⟨next, written⟩
    · cases others
      rw [List.map_cons, List.map_nil, commaSeparated, members?_member first fuel ('\x7d' :: rest) (.brace rest)]
      rfl
    · have following := @ih (List.cons_ne_nil next written) (fuel + 1) (by omega)
      rw [List.map_cons] at following ⊢
      rw [List.map_cons, commaSeparated.eq_3 _ _ (List.cons_ne_nil _ _), List.append_assoc, List.cons_append,
        members?_member first fuel (',' :: _) (.comma _)]
      simp only [following, Option.map_some]

/-- What reads as members does not close the object at once. -/
theorem value?_object {fuel : Nat} {cs tail : List Char} {members : List (Option String × Json)}
    (read : members? fuel cs = some (members, tail)) :
    value? (fuel + 1) ('\x7b' :: cs) = some (.object members, tail) := by
  have brace : skipBlanks ('\x7b' :: cs) = '\x7b' :: cs := rfl
  rw [value?]
  simp only [brace]
  split
  · rename_i closed
    rcases fuel with _ | fuel
    · cases read
    · rw [members?, closed] at read
      cases read
  · rw [read]
    rfl

/-- An object of named values reads as the list of them. -/
theorem read?_writeObject {written : List (String × List Char)} {members : List (Option String × Json)}
    (spelled : List.Forall₂ SpellsMember written members) :
    read? (String.ofList (writeObject written)) = some (.object members) := by
  rcases written with _ | ⟨pair, written⟩
  · cases spelled
    rfl
  · have long := length_commaSeparated ((pair :: written).map fun (name, value) => writeString name ++ ':' :: value)
    have size : (writeObject (pair :: written)).length =
        (commaSeparated ((pair :: written).map fun (name, value) => writeString name ++ ':' :: value)).length + 2 := by
      simp [writeObject]
    rw [List.length_map] at long
    exact read?_ofList (value?_object (members?_commaSeparated spelled (List.cons_ne_nil pair written) (by omega) []))

end LeafHub.Json
