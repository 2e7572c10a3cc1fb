import LeafHub.Proofs.Text.Numeral
import LeafHub.Proofs.Value.Number
import LeafHub.Value.Text

namespace LeafHub

open Text

/-- A numeral, perhaps after a plus sign. -/
inductive Unsigned (numeral : List Char → Nat → Prop) : List Char → Nat → Prop
  | bare {cs n} : numeral cs n → Unsigned numeral cs n
  | plus {cs n} : numeral cs n → Unsigned numeral ('+' :: cs) n

namespace Kind

/-- Whether values of the kind are written as numbers. -/
def isNumeric : Kind → Bool
  | .string | .bool => false
  | _ => true

/-- Whether the kind has negative numbers. -/
def isSigned : Kind → Bool
  | .int16 | .int32 | .int64 => true
  | _ => false

/-- The texts without blanks around them that spell a number for a kind. -/
inductive Spells (kind : Kind) : List Char → Int → Prop
  | unsigned {cs} {n : Nat} : Unsigned Decimal cs n → Spells kind cs n
  | minus {cs} {n : Nat} : kind.isSigned = true → Decimal cs n → Spells kind ('-' :: cs) (-n)
  | hexadecimal {x cs} {n : Nat} : kind = .event → x = 'x' ∨ x = 'X' → Unsigned Hexadecimal cs n →
      Spells kind ('0' :: x :: cs) n

/-- A character that is no digit stands in no numeral. -/
theorem not_decimal_of_mem {c : Char} (foreign : decimalDigit? c = none) {cs : List Char} (member : c ∈ cs) (n : Nat) :
    ¬Decimal cs n := by
  intro numeral
  obtain ⟨d, here⟩ := numeral.all (P := fun c => ∃ d, DecimalDigit c d) (fun _ d here => ⟨d, here⟩) c member
  rw [(decimalDigit?_eq_some_iff c d).mpr here] at foreign
  cases foreign

theorem not_hexadecimal_of_mem {c : Char} (foreign : hexDigit? c = none) {cs : List Char} (member : c ∈ cs) (n : Nat) :
    ¬Hexadecimal cs n := by
  intro numeral
  obtain ⟨d, here⟩ := numeral.all (P := fun c => ∃ d, HexDigit c d) (fun _ d here => ⟨d, here⟩) c member
  rw [(hexDigit?_eq_some_iff c d).mpr here] at foreign
  cases foreign

/-- What is read behind a plus sign, if there is one. -/
theorem unsigned_iff {numeral : List Char → Nat → Prop} (foreign : ∀ cs n, ¬numeral ('+' :: cs) n) {cs : List Char}
    {n : Nat} : Unsigned numeral cs n ↔ numeral (match cs with | '+' :: rest => rest | _ => cs) n := by
  split
  · rename_i rest
    constructor
    · intro spelled
      cases spelled with
      | bare numeral => exact absurd numeral (foreign rest n)
      | plus numeral => exact numeral
    · exact .plus
  · rename_i unmarked
    constructor
    · intro spelled
      cases spelled with
      | bare numeral => exact numeral
      | plus numeral => exact absurd rfl (unmarked _)
    · exact .bare

theorem below_eq_some_iff {read : Option Nat} {limit n : Nat} :
    (match read with
      | some m => if m < limit then some m else none
      | none => none) = some n ↔ read = some n ∧ n < limit := by
  cases read with
  | none => simp
  | some m =>
    by_cases small : m < limit
    · simp only [if_pos small, Option.some.injEq]
      constructor
      · rintro rfl
        exact ⟨rfl, small⟩
      · exact fun both => both.1
    · simp only [if_neg small, Option.some.injEq]
      constructor
      · exact nofun
      · rintro ⟨rfl, fits⟩
        exact absurd fits small

theorem unsigned?_eq_some_iff {limit n : Nat} {cs : List Char} :
    unsigned? limit cs = some n ↔ Unsigned Decimal cs n ∧ n < limit := by
  rw [unsigned_iff fun _ => not_decimal_of_mem (by decide) List.mem_cons_self, ← decimal?_eq_some_iff]
  exact below_eq_some_iff

/-- Signed numbers. The range reaches one further down than up. -/
theorem signed?_eq_some_iff {half : Nat} (positive : 0 < half) {kind : Kind} (signed : kind.isSigned = true) {cs : List Char} {z : Int} :
    signed? half cs = some z ↔ kind.Spells cs z ∧ -(half : Int) ≤ z ∧ z < half := by
  have noEvent : kind ≠ .event := by
    rintro rfl
    cases signed
  unfold signed?
  split
  · rename_i rest
    constructor
    · intro read
      split at read
      · rename_i n numeral
        split at read
        · rename_i small
          cases read
          exact ⟨.minus signed (decimal?_eq_some_iff.mp numeral), by omega, by omega⟩
        · cases read
      · cases read
    · rintro ⟨spelled, lower, upper⟩
      cases spelled with
      | unsigned spelled =>
        cases spelled with
        | bare numeral => exact absurd numeral (not_decimal_of_mem (by decide) List.mem_cons_self _)
      | @minus _ n _ numeral =>
        have small : n ≤ half := by omega
        rw [decimal?_eq_some_iff.mpr numeral]
        simp [small]
  · rename_i unmarked
    constructor
    · intro read
      split at read
      · rename_i n found
        cases read
        obtain ⟨spelled, small⟩ := unsigned?_eq_some_iff.mp found
        exact ⟨.unsigned spelled, by omega, by omega⟩
      · cases read
    · rintro ⟨spelled, lower, upper⟩
      cases spelled with
      | unsigned spelled =>
        rw [unsigned?_eq_some_iff.mpr ⟨spelled, by omega⟩]
      | minus => exact absurd rfl (unmarked _)
      | hexadecimal event => exact absurd event noEvent

theorem bits?_eq_some_iff {cs : List Char} {n : Nat} :
    bits? cs = some n ↔ Kind.event.Spells cs n ∧ n < UInt32.size := by
  have prefixed {x : Char} (mark : x = 'x' ∨ x = 'X') (rest : List Char) :
      Unsigned Hexadecimal rest n ∧ n < UInt32.size ↔ Kind.event.Spells ('0' :: x :: rest) n ∧ n < UInt32.size := by
    have foreign : decimalDigit? x = none := by rcases mark with rfl | rfl <;> decide
    refine and_congr_left fun _ => ⟨.hexadecimal rfl mark, fun spelled => ?_⟩
    generalize number : (n : Int) = z at spelled
    cases spelled with
    | unsigned spelled =>
      cases spelled with
      | bare numeral => exact absurd numeral (not_decimal_of_mem foreign (by simp) _)
    | hexadecimal _ _ spelled => rwa [Int.ofNat.inj number]
  unfold bits?
  dsimp only
  split
  · refine Iff.trans ?_ (prefixed (.inl rfl) _)
    rw [unsigned_iff fun _ => not_hexadecimal_of_mem (by decide) List.mem_cons_self, ← hexadecimal?_eq_some_iff]
    exact below_eq_some_iff
  · refine Iff.trans ?_ (prefixed (.inr rfl) _)
    rw [unsigned_iff fun _ => not_hexadecimal_of_mem (by decide) List.mem_cons_self, ← hexadecimal?_eq_some_iff]
    exact below_eq_some_iff
  · rename_i small capital
    rw [unsigned?_eq_some_iff]
    refine and_congr_left fun _ => ⟨.unsigned, fun spelled => ?_⟩
    generalize number : (n : Int) = z at spelled
    cases spelled with
    | unsigned spelled => rwa [Int.ofNat.inj number]
    | minus signed => cases signed
    | hexadecimal _ mark _ =>
      rcases mark with rfl | rfl
      · exact absurd rfl (small _)
      · exact absurd rfl (capital _)

/-- The number that a kind reads. -/
def reads : Kind → List Char → Option Int
  | .string, _ | .bool, _ => none
  | .byte, cs => (unsigned? UInt8.size cs).map Int.ofNat
  | .uint16, cs => (unsigned? UInt16.size cs).map Int.ofNat
  | .int16, cs => signed? (Int16.size / 2) cs
  | .int32, cs => signed? (Int32.size / 2) cs
  | .int64, cs => signed? (Int64.size / 2) cs
  | .event, cs => (bits? cs).map Int.ofNat

theorem ofText_of_numeric {kind : Kind} (numeric : kind.isNumeric = true) (text : String) : kind.ofText text =
    match kind.reads (trim text.toList) with
    | some z => .ok (kind.ofNumber z)
    | none => .error .invalidValue := by
  cases kind with
  | string | bool => cases numeric
  | byte | uint16 =>
    unfold ofText reads
    dsimp only
    cases unsigned? _ (trim text.toList) <;> rfl
  | int16 | int32 | int64 =>
    unfold ofText reads
    dsimp only
    cases signed? _ (trim text.toList) <;> rfl
  | event =>
    unfold ofText reads
    dsimp only
    cases bits? (trim text.toList) <;> rfl

/-- Numbers without a sign are spelled without one. -/
theorem spells_natCast_iff {kind : Kind} (unsigned : kind.isSigned = false) (other : kind ≠ .event) {cs : List Char}
    {n : Nat} : kind.Spells cs n ↔ Unsigned Decimal cs n := by
  constructor
  · intro spelled
    generalize number : (n : Int) = z at spelled
    cases spelled with
    | unsigned spelled => rwa [Int.ofNat.inj number]
    | minus signed =>
      rw [unsigned] at signed
      cases signed
    | hexadecimal event => exact absurd event other
  · exact .unsigned

theorem map_ofNat_eq_some_iff {read : Option Nat} {limit : Nat} {spelled : Int → Prop}
    (reads : ∀ n : Nat, read = some n ↔ spelled n ∧ n < limit) {z : Int} :
    read.map Int.ofNat = some z ↔ spelled z ∧ 0 ≤ z ∧ z < limit := by
  rw [Option.map_eq_some_iff]
  constructor
  · rintro ⟨n, found, rfl⟩
    obtain ⟨spells, small⟩ := (reads n).mp found
    exact ⟨spells, Int.natCast_nonneg n, Int.ofNat_lt.mpr small⟩
  · rintro ⟨spells, lower, upper⟩
    obtain ⟨n, rfl⟩ := Int.eq_ofNat_of_zero_le lower
    exact ⟨n, (reads n).mpr ⟨spells, Int.ofNat_lt.mp upper⟩, rfl⟩

theorem reads_eq_some_iff {kind : Kind} (numeric : kind.isNumeric = true) {cs : List Char} {z : Int} :
    kind.reads cs = some z ↔ kind.Spells cs z ∧ kind.Fits z := by
  cases kind with
  | string | bool => cases numeric
  | byte | uint16 =>
    refine map_ofNat_eq_some_iff fun n => ?_
    rw [spells_natCast_iff rfl (by decide)]
    exact unsigned?_eq_some_iff
  | int16 | int32 | int64 => exact signed?_eq_some_iff (by decide) rfl
  | event => exact map_ofNat_eq_some_iff fun n => bits?_eq_some_iff

theorem ofText_of_spells {kind : Kind} (numeric : kind.isNumeric = true) {text : String} {z : Int}
    (spelled : kind.Spells (trim text.toList) z) (fits : kind.Fits z) :
    kind.ofText text = .ok (kind.ofNumber z) := by
  rw [ofText_of_numeric numeric, (reads_eq_some_iff numeric).mpr ⟨spelled, fits⟩]

theorem ofText_of_not_spells {kind : Kind} (numeric : kind.isNumeric = true) {text : String}
    (foreign : ∀ z, kind.Spells (trim text.toList) z → ¬kind.Fits z) : kind.ofText text = .error .invalidValue := by
  rw [ofText_of_numeric numeric]
  cases read : kind.reads (trim text.toList) with
  | none => rfl
  | some z =>
    obtain ⟨spelled, fits⟩ := (reads_eq_some_iff numeric).mp read
    exact absurd fits (foreign z spelled)

theorem isBlank_digit {c : Char} {d : Nat} (digit : HexDigit c d) : isBlank c = false := by
  obtain ⟨small, rfl | rfl⟩ := digit <;> revert d <;> decide

theorem hexDigit_of_decimalDigit {c : Char} {d : Nat} (digit : DecimalDigit c d) : HexDigit c d :=
  ⟨Nat.lt_trans digit.1 (by decide), .inl digit.2⟩

theorem no_blank_of_unsigned {base : Nat} {digit : Char → Nat → Prop} (plain : ∀ c d, digit c d → isBlank c = false)
    {cs : List Char} {n : Nat} (spelled : Unsigned (Numeral base digit) cs n) : ∀ c ∈ cs, isBlank c = false := by
  cases spelled with
  | bare numeral => exact numeral.all plain
  | plus numeral =>
    rw [List.forall_mem_cons]
    exact ⟨by decide, numeral.all plain⟩

theorem Spells.no_blank {kind : Kind} {cs : List Char} {z : Int} (spelled : kind.Spells cs z) :
    ∀ c ∈ cs, isBlank c = false := by
  have decimal : ∀ c d, DecimalDigit c d → isBlank c = false := fun c d digit =>
    isBlank_digit (hexDigit_of_decimalDigit digit)
  cases spelled with
  | unsigned spelled => exact no_blank_of_unsigned decimal spelled
  | minus _ numeral =>
    rw [List.forall_mem_cons]
    exact ⟨by decide, numeral.all decimal⟩
  | hexadecimal _ mark spelled =>
    rw [List.forall_mem_cons, List.forall_mem_cons]
    refine ⟨by decide, ?_, no_blank_of_unsigned (fun c d => isBlank_digit) spelled⟩
    rcases mark with rfl | rfl <;> decide

end Kind

namespace Value

theorem decimal_repr (n : Nat) : Decimal n.repr.toList n := by
  rw [Nat.toList_repr]
  exact Numeral.toDigits (by decide) (fun d small => ⟨small, rfl⟩) n

/-- A signed number is written with a minus sign if it is negative. -/
theorem spells_repr {kind : Kind} (signed : kind.isSigned = true) (z : Int) : kind.Spells z.repr.toList z := by
  cases z with
  | ofNat n => exact .unsigned (.bare (decimal_repr n))
  | negSucc n =>
    have text : (Int.negSucc n).repr.toList = '-' :: (n + 1).repr.toList := by
      show ("-" ++ (n + 1).repr).toList = _
      rw [String.toList_append]
      rfl
    rw [text]
    exact .minus signed (decimal_repr (n + 1))

theorem spells_bitsText (bits : UInt32) : Kind.event.Spells (bitsText bits).toList bits.toNat := by
  have text : (bitsText bits).toList = '0' :: 'x' ::
      (List.replicate (8 - (Nat.toDigits 16 bits.toNat).length) '0' ++ Nat.toDigits 16 bits.toNat) := by
    unfold bitsText hexPadded
    simp only [String.toList_append, String.toList_ofList]
    rfl
  have digits : ∀ d < 16, HexDigit (Nat.digitChar d) d := fun d small => ⟨small, .inl rfl⟩
  have numeral : Hexadecimal (Nat.toDigits 16 bits.toNat) bits.toNat := Numeral.toDigits (by decide) digits _
  rw [text]
  exact .hexadecimal rfl (.inl rfl) (.bare (numeral.zeros_append (digits 0 (by decide)) _))

/-- The text form of a number spells it. -/
theorem spells_text {value : Value} (numeric : value.kind.isNumeric = true) {z : Int} (number : value.number? = some z) :
    value.kind.Spells value.text.toList z := by
  cases value with
  | string | bool => cases numeric
  | byte n | uint16 n =>
    cases number
    exact .unsigned (.bare (decimal_repr n.toNat))
  | int16 n | int32 n | int64 n =>
    cases number
    exact spells_repr rfl n.toInt
  | event bits =>
    cases number
    exact spells_bitsText bits

theorem ofText_text (value : Value) : value.kind.ofText value.text = .ok value := by
  by_cases numeric : value.kind.isNumeric = true
  · obtain ⟨z, number⟩ : ∃ z, value.number? = some z := by
      cases value with
      | string | bool => cases numeric
      | _ => exact ⟨_, rfl⟩
    have spelled := spells_text numeric number
    have bare := trim_eq_self spelled.no_blank
    rw [Kind.ofText_of_spells numeric (by rwa [bare]) (fits_number number), ← eq_ofNumber number]
  · cases value with
    | string text => rfl
    | bool b => cases b <;> decide +kernel
    | _ => exact absurd rfl numeric

/-- A value is read back from its text form. A kind of numbers reads the texts that, blanks around them aside, spell a
number of its range, and refuses every other; bools and strings read everything. -/
theorem text_form_both_ways :
    (∀ value : Value, value.kind.ofText value.text = .ok value) ∧
    (∀ text : String, ∃! body, Trims text.toList body) ∧
    ∀ (text : String) (body : List Char), Trims text.toList body →
      (∀ kind : Kind, kind.isNumeric = true →
        (∀ z, kind.Spells body z → kind.Fits z →
          ∃ value, kind.ofText text = .ok value ∧ value.kind = kind ∧ value.number? = some z) ∧
        ((∀ z, kind.Spells body z → ¬kind.Fits z) → kind.ofText text = .error .invalidValue)) ∧
      (∃ b, Kind.bool.ofText text = .ok (.bool b) ∧
        (b = true ↔ String.ofList body = "true" ∨ String.ofList body = "on" ∨ String.ofList body = "1")) ∧
      Kind.string.ofText text = .ok (.string text) := by
  refine ⟨ofText_text, fun text => ⟨_, trims_trim _, fun body trims => (trim_of_trims trims).symm⟩, ?_⟩
  intro text body trims
  obtain rfl := trim_of_trims trims
  refine ⟨fun kind numeric => ⟨fun z spelled fits => ?_, Kind.ofText_of_not_spells numeric⟩, ⟨_, rfl, ?_⟩, rfl⟩
  · exact ⟨_, Kind.ofText_of_spells numeric spelled fits, Kind.kind_ofNumber kind z, Kind.number?_ofNumber fits⟩
  · simp only [decide_eq_true_eq, ← String.toList_inj, String.toList_ofList]

/-- A sign may stand behind the mark of a hexadecimal number, but not in front of it. -/
example : Kind.event.ofText " 0X+00000000fF\t" = .ok (.event 255) ∧ Kind.event.ofText "+0xff" = .error .invalidValue := by
  decide +kernel

end Value

end LeafHub
