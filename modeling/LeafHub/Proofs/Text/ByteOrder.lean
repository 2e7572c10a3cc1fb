import Mathlib.Tactic.SplitIfs
import LeafHub.Proofs.Value.RawForm

namespace LeafHub.Text

/-- The earlier of two characters has the earlier bytes, whatever comes after them. -/
theorem utf8EncodeChar_lt {c d : Char} (less : c < d) (more others : Bytes) :
    String.utf8EncodeChar c ++ more < String.utf8EncodeChar d ++ others := by
  have below : c.val.toNat < d.val.toNat := less
  have bound : d.val.toNat < 0x110000 := by
    rcases d.valid with low | ⟨_, high⟩
    · exact Nat.lt_trans low (by decide)
    · exact high
  -- every byte but the first is a place in base 64
  have second (n : Nat) : n / 4096 = n / 64 / 64 := by omega
  have third (n : Nat) : n / 262144 = n / 64 / 64 / 64 := by omega
  unfold String.utf8EncodeChar
  generalize c.val.toNat = n at below
  generalize d.val.toNat = m at below bound
  dsimp only
  split_ifs <;>
    simp only [List.cons_append, List.nil_append, List.cons_lt_cons_iff, UInt8.lt_iff_toNat_lt, UInt8.toNat_ofNat',
      ← UInt8.toNat_inj, second, third] <;> omega

theorem utf8_lt_of_lt {a b : String} (less : a < b) : utf8 a < utf8 b := by
  have chars : a.toList < b.toList := less
  rw [← String.ofList_toList (s := a), ← String.ofList_toList (s := b), utf8_ofList, utf8_ofList]
  generalize a.toList = cs at chars
  generalize b.toList = ds at chars
  induction chars with
  | nil =>
    rw [List.flatMap_cons]
    obtain ⟨first, rest, split⟩ := List.exists_cons_of_ne_nil (String.utf8EncodeChar_ne_nil)
    rw [split]
    exact .nil
  | rel less => exact utf8EncodeChar_lt less _ _
  | cons _ ih =>
    rw [List.flatMap_cons, List.flatMap_cons]
    exact List.append_left_lt ih

theorem utf8_lt_utf8_iff {a b : String} : utf8 a < utf8 b ↔ a < b := by
  refine ⟨fun less => ?_, utf8_lt_of_lt⟩
  refine Decidable.byContradiction fun notLess => ?_
  have notGreater : ¬b < a := fun greater => List.lt_asymm less (utf8_lt_of_lt greater)
  have same : a = b := String.le_antisymm (String.not_lt.mp notGreater) (String.not_lt.mp notLess)
  exact List.lt_irrefl _ (same ▸ less)

/-- The bytes tell where their first character ends. -/
theorem utf8EncodeChar_append_inj {c d : Char} {more others : Bytes}
    (same : String.utf8EncodeChar c ++ more = String.utf8EncodeChar d ++ others) : c = d ∧ more = others := by
  have notLess : ¬c < d := fun less => List.lt_irrefl _ (same ▸ utf8EncodeChar_lt less more others)
  have notGreater : ¬d < c := fun greater => List.lt_irrefl _ (same ▸ utf8EncodeChar_lt greater others more)
  obtain rfl : c = d := Char.le_antisymm (Char.not_lt.mp notGreater) (Char.not_lt.mp notLess)
  exact ⟨rfl, List.append_cancel_left same⟩

/-- A front of the bytes that is a text ends between two characters. -/
theorem utf8_prefix_utf8_iff {a b : String} : utf8 a <+: utf8 b ↔ a.toList <+: b.toList := by
  rw [← String.ofList_toList (s := a), ← String.ofList_toList (s := b), utf8_ofList, utf8_ofList, String.toList_ofList,
    String.toList_ofList]
  generalize a.toList = cs
  generalize b.toList = ds
  constructor
  · intro front
    induction cs generalizing ds with
    | nil => exact List.nil_prefix
    | cons c cs ih =>
      obtain ⟨rest, whole⟩ := front
      rw [List.flatMap_cons, List.append_assoc] at whole
      cases ds with
      | nil => exact absurd (List.append_eq_nil_iff.mp whole).1 String.utf8EncodeChar_ne_nil
      | cons d ds =>
        obtain ⟨rfl, later⟩ := utf8EncodeChar_append_inj whole
        exact List.cons_prefix_cons.mpr ⟨rfl, ih ds ⟨rest, later⟩⟩
  · rintro ⟨rest, rfl⟩
    exact ⟨rest.flatMap String.utf8EncodeChar, List.flatMap_append.symm⟩

end LeafHub.Text
