namespace LeafHub.Text

/-- The longest prefix of whole characters that takes at most `n` bytes. -/
def clip : Nat → List Char → List Char
  | _, [] => []
  | n, c :: cs => if c.utf8Size ≤ n then c :: clip (n - c.utf8Size) cs else []

/-- The number of bytes that the characters take in UTF-8. -/
def byteSize : List Char → Nat
  | [] => 0
  | c :: cs => c.utf8Size + byteSize cs

theorem clip_prefix (n : Nat) (cs : List Char) : clip n cs <+: cs := by
  induction cs generalizing n with
  | nil => exact List.nil_prefix
  | cons c cs ih =>
    unfold clip
    split
    · exact (List.prefix_cons_inj c).mpr (ih _)
    · exact List.nil_prefix

theorem byteSize_clip (n : Nat) (cs : List Char) : byteSize (clip n cs) ≤ n := by
  induction cs generalizing n with
  | nil => simp [clip, byteSize]
  | cons c cs ih =>
    unfold clip
    split
    · rename_i fits
      have rest := ih (n - c.utf8Size)
      simp only [byteSize]
      omega
    · simp [byteSize]

theorem clip_eq_self {n : Nat} {cs : List Char} (fits : byteSize cs ≤ n) : clip n cs = cs := by
  induction cs generalizing n with
  | nil => rfl
  | cons c cs ih =>
    simp only [byteSize] at fits
    unfold clip
    rw [if_pos (by omega), ih (by omega)]

end LeafHub.Text

namespace LeafHub

/-- A text of at most `limit` bytes. -/
structure Bounded (limit : Nat) where
  text : String
  fits : text.utf8ByteSize ≤ limit

namespace Bounded

variable {limit : Nat}

instance : DecidableEq (Bounded limit) := fun a b =>
  if same : a.text = b.text then
    isTrue (by cases a; cases b; cases same; rfl)
  else isFalse fun equal => same (congrArg text equal)

instance : Inhabited (Bounded limit) := ⟨⟨"", Nat.zero_le _⟩⟩

/-- The text itself, if it fits. -/
def of? (text : String) : Option (Bounded limit) :=
  if fits : text.utf8ByteSize ≤ limit then some ⟨text, fits⟩ else none

@[simp] theorem of?_text (b : Bounded limit) : of? b.text = some b := by
  simp [of?, b.fits]

theorem of?_eq_some_iff {text : String} {b : Bounded limit} : of? text = some b ↔ b.text = text := by
  constructor
  · intro found
    unfold of? at found
    split at found
    · cases found; rfl
    · cases found
  · rintro rfl
    exact of?_text b

end Bounded

end LeafHub
