import Mathlib.Data.List.Induction
import LeafHub.Proofs.Text.Trimmed
import LeafHub.Text.Digits

namespace LeafHub.Text

/-- The digits of base ten. -/
def DecimalDigit (c : Char) (d : Nat) : Prop :=
  d < 10 ∧ c = Nat.digitChar d

/-- The digits of base sixteen, in either case. -/
def HexDigit (c : Char) (d : Nat) : Prop :=
  d < 16 ∧ (c = Nat.digitChar d ∨ c = (Nat.digitChar d).toUpper)

/-- The characters are digits of the base and stand for the number. -/
inductive Numeral (base : Nat) (digit : Char → Nat → Prop) : List Char → Nat → Prop
  | one {c d} : digit c d → Numeral base digit [c] d
  | next {cs n c d} : Numeral base digit cs n → digit c d → Numeral base digit (cs ++ [c]) (base * n + d)

/-- Decimal numerals. -/
abbrev Decimal := Numeral 10 DecimalDigit

/-- Hexadecimal numerals. -/
abbrev Hexadecimal := Numeral 16 HexDigit

theorem decimalDigit?_eq_some_iff (c : Char) (d : Nat) : decimalDigit? c = some d ↔ DecimalDigit c d := by
  constructor
  · intro read
    unfold decimalDigit? at read
    split at read
    · rename_i inside
      have bounds : 48 ≤ c.toNat ∧ c.toNat ≤ 57 := inside
      have same : c.toNat - 48 = d := Option.some.inj read
      refine ⟨by omega, Char.toNat_inj.mp ?_⟩
      rw [Nat.toNat_digitChar_of_lt_ten (by omega)]
      omega
    · cases read
  · rintro ⟨small, rfl⟩
    revert d
    decide

/-- The letters are digits from ten on. -/
theorem hexDigit_of_letter {c : Char} {n : Nat} (place : n < 6) (letter : c.toNat = 97 + n ∨ c.toNat = 65 + n) :
    HexDigit c (n + 10) := by
  have table : ∀ n < 6, Nat.digitChar (n + 10) = Char.ofNat (97 + n) ∧
      (Nat.digitChar (n + 10)).toUpper = Char.ofNat (65 + n) := by decide
  obtain ⟨small, capital⟩ := table n place
  refine ⟨by omega, ?_⟩
  rcases letter with here | here
  · exact .inl (by rw [small, ← here, Char.ofNat_toNat])
  · exact .inr (by rw [capital, ← here, Char.ofNat_toNat])

theorem hexDigit?_eq_some_iff (c : Char) (d : Nat) : hexDigit? c = some d ↔ HexDigit c d := by
  constructor
  · intro read
    unfold hexDigit? at read
    split at read
    · rename_i inside
      have decimal : decimalDigit? c = some d := by rw [decimalDigit?, if_pos inside, read]
      obtain ⟨small, same⟩ := (decimalDigit?_eq_some_iff c d).mp decimal
      exact ⟨by omega, .inl same⟩
    · split at read
      · rename_i inside
        have bounds : 97 ≤ c.toNat ∧ c.toNat ≤ 102 := inside
        have same : c.toNat - 97 + 10 = d := Option.some.inj read
        rw [← same]
        exact hexDigit_of_letter (by omega) (.inl (by omega))
      · split at read
        · rename_i inside
          have bounds : 65 ≤ c.toNat ∧ c.toNat ≤ 70 := inside
          have same : c.toNat - 65 + 10 = d := Option.some.inj read
          rw [← same]
          exact hexDigit_of_letter (by omega) (.inr (by omega))
        · cases read
  · rintro ⟨small, rfl | rfl⟩ <;> revert d <;> decide

namespace Numeral

variable {base : Nat} {digit : Char → Nat → Prop} {cs : List Char} {n : Nat}

theorem ne_nil (numeral : Numeral base digit cs n) : cs ≠ [] := by
  cases numeral <;> simp

/-- What holds of every digit holds of every character. -/
theorem all (numeral : Numeral base digit cs n) {P : Char → Prop} (digits : ∀ c d, digit c d → P c) :
    ∀ c ∈ cs, P c := by
  induction numeral with
  | one first =>
    intro c member
    rw [List.mem_singleton.mp member]
    exact digits _ _ first
  | next _ last ih =>
    intro c member
    rcases List.mem_append.mp member with before | here
    · exact ih c before
    · rw [List.mem_singleton.mp here]
      exact digits _ _ last

/-- A zero in front changes nothing. -/
theorem zero_cons (zero : digit '0' 0) (numeral : Numeral base digit cs n) : Numeral base digit ('0' :: cs) n := by
  induction numeral with
  | @one c d first =>
    have two : Numeral base digit (['0'] ++ [c]) (base * 0 + d) := .next (.one zero) first
    simpa using two
  | next _ last ih => exact .next ih last

theorem zeros_append (zero : digit '0' 0) (numeral : Numeral base digit cs n) (count : Nat) :
    Numeral base digit (List.replicate count '0' ++ cs) n := by
  induction count with
  | zero => exact numeral
  | succ count ih => exact ih.zero_cons zero

/-- A printed number is a numeral. -/
theorem toDigits (large : 1 < base) (digits : ∀ d < base, digit (Nat.digitChar d) d) (n : Nat) :
    Numeral base digit (Nat.toDigits base n) n := by
  induction n using Nat.strongRecOn with
  | ind n ih =>
    rw [Nat.toDigits_eq_if large]
    split
    · rename_i small
      exact .one (digits n small)
    · rename_i more
      have positive : 0 < n := by omega
      have front := ih (n / base) (Nat.div_lt_self positive large)
      have whole : base * (n / base) + n % base = n := Nat.div_add_mod n base
      have numeral : Numeral base digit (Nat.toDigits base (n / base) ++ [Nat.digitChar (n % base)])
          (base * (n / base) + n % base) := .next front (digits _ (Nat.mod_lt n (by omega)))
      rwa [whole] at numeral

end Numeral

theorem digitsFrom_concat (base : Nat) (digit? : Char → Option Nat) (acc : Nat) (cs : List Char) (c : Char) :
    digitsFrom base digit? acc (cs ++ [c]) =
      (digitsFrom base digit? acc cs).bind fun n => (digit? c).map fun d => n * base + d := by
  induction cs generalizing acc with
  | nil =>
    rw [List.nil_append, digitsFrom, digitsFrom, Option.bind_some]
    cases digit? c <;> rfl
  | cons e cs ih =>
    rw [List.cons_append, digitsFrom, digitsFrom]
    cases digit? e with
    | none => rfl
    | some d => exact ih _

/-- A reader of digits that knows the digits of its base reads its numerals. -/
theorem digitsFrom_eq_some_iff {base : Nat} {digit? : Char → Option Nat} {digit : Char → Nat → Prop}
    (reads : ∀ c d, digit? c = some d ↔ digit c d) {cs : List Char} (more : cs ≠ []) {n : Nat} :
    digitsFrom base digit? 0 cs = some n ↔ Numeral base digit cs n := by
  constructor
  · intro read
    induction cs using List.reverseRecOn generalizing n with
    | nil => exact absurd rfl more
    | append_singleton cs c ih =>
      rw [digitsFrom_concat] at read
      obtain ⟨m, front, last⟩ := Option.bind_eq_some_iff.mp read
      obtain ⟨d, here, rfl⟩ := Option.map_eq_some_iff.mp last
      rcases List.eq_nil_or_concat cs with rfl | ⟨init, e, rfl⟩
      · cases front
        rw [Nat.zero_mul, Nat.zero_add]
        exact .one ((reads _ _).mp here)
      · rw [Nat.mul_comm]
        exact .next (ih (by simp) front) ((reads _ _).mp here)
  · intro numeral
    induction numeral with
    | one first => simp [digitsFrom, (reads _ _).mpr first]
    | next front last ih =>
      rw [digitsFrom_concat, ih front.ne_nil, Option.bind_some, (reads _ _).mpr last, Option.map_some, Nat.mul_comm]

theorem decimal?_eq_some_iff {cs : List Char} {n : Nat} : decimal? cs = some n ↔ Decimal cs n := by
  cases cs with
  | nil => exact ⟨nofun, fun numeral => absurd rfl numeral.ne_nil⟩
  | cons c cs => exact digitsFrom_eq_some_iff decimalDigit?_eq_some_iff (List.cons_ne_nil c cs)

theorem hexadecimal?_eq_some_iff {cs : List Char} {n : Nat} : hexadecimal? cs = some n ↔ Hexadecimal cs n := by
  cases cs with
  | nil => exact ⟨nofun, fun numeral => absurd rfl numeral.ne_nil⟩
  | cons c cs => exact digitsFrom_eq_some_iff hexDigit?_eq_some_iff (List.cons_ne_nil c cs)

end LeafHub.Text
