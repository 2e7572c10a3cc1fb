import LeafHub.Text.Bounded

namespace LeafHub.Text

theorem byteSize_append (front back : List Char) : byteSize (front ++ back) = byteSize front + byteSize back := by
  induction front with
  | nil => simp [byteSize]
  | cons c front ih => simp only [List.cons_append, byteSize, ih, Nat.add_assoc]

theorem utf8ByteSize_eq (text : String) : text.utf8ByteSize = byteSize text.toList := by
  have whole : ∀ cs : List Char, (String.ofList cs).utf8ByteSize = byteSize cs := by
    intro cs
    induction cs with
    | nil => rfl
    | cons c cs ih =>
      have first : String.ofList (c :: cs) = String.singleton c ++ String.ofList cs := by
        rw [String.singleton_eq_ofList, ← String.ofList_append]
        rfl
      rw [first, String.utf8ByteSize_append, String.utf8ByteSize_singleton, ih, byteSize]
  simpa using whole text.toList

/-- A text with one more piece, if there is room for it. -/
def push? (limit : Nat) (held piece : List Char) : Option (List Char) :=
  if byteSize held + byteSize piece ≤ limit then some (held ++ piece) else none

/-- A text with more pieces, without those that there was no room for. -/
def fill (limit : Nat) : List Char → List (List Char) → List Char
  | held, [] => held
  | held, piece :: pieces => fill limit ((push? limit held piece).getD held) pieces

/-- A text with more characters, up to the first that there is no room for. -/
def pour (limit : Nat) : List Char → List Char → List Char
  | held, [] => held
  | held, c :: cs => match push? limit held [c] with
    | some more => pour limit more cs
    | none => held

/-- Nothing is left out when there is room for everything. -/
theorem fill_of_room {limit : Nat} {held : List Char} {pieces : List (List Char)}
    (room : byteSize held + byteSize pieces.flatten ≤ limit) : fill limit held pieces = held ++ pieces.flatten := by
  induction pieces generalizing held with
  | nil => simp [fill]
  | cons piece pieces ih =>
    rw [List.flatten_cons, byteSize_append] at room
    have fits : byteSize held + byteSize piece ≤ limit := by omega
    have rest : byteSize (held ++ piece) + byteSize pieces.flatten ≤ limit := by
      rw [byteSize_append]
      omega
    rw [fill, push?, if_pos fits, Option.getD_some, ih rest, List.flatten_cons, List.append_assoc]

theorem pour_eq (limit : Nat) (held cs : List Char) : pour limit held cs = held ++ clip (limit - byteSize held) cs := by
  induction cs generalizing held with
  | nil => simp [pour, clip]
  | cons c cs ih =>
    have positive : 0 < c.utf8Size := c.utf8Size_pos
    have single : byteSize [c] = c.utf8Size := rfl
    by_cases fits : byteSize held + c.utf8Size ≤ limit
    · have room : c.utf8Size ≤ limit - byteSize held := by omega
      have left : limit - byteSize (held ++ [c]) = limit - byteSize held - c.utf8Size := by
        rw [byteSize_append, single, Nat.sub_add_eq]
      simp only [pour, push?, single, if_pos fits, ih, clip, if_pos room, left, List.append_assoc, List.singleton_append]
    · have full : ¬c.utf8Size ≤ limit - byteSize held := by omega
      simp only [pour, push?, single, if_neg fits, clip, if_neg full, List.append_nil]

/-- The longest front of whole characters that takes at most so many bytes. -/
structure Clipped (limit : Nat) (cs kept : List Char) : Prop where
  front : kept <+: cs
  fits : byteSize kept ≤ limit
  longest : ∀ other, other <+: cs → byteSize other ≤ limit → other <+: kept

theorem clipped_clip (limit : Nat) (cs : List Char) : Clipped limit cs (clip limit cs) where
  front := clip_prefix limit cs
  fits := byteSize_clip limit cs
  longest := by
    induction cs generalizing limit with
    | nil =>
      intro other front _
      exact front
    | cons c cs ih =>
      rintro (_ | ⟨d, other⟩) front fits
      · exact List.nil_prefix
      · obtain ⟨rfl, rest⟩ := List.cons_prefix_cons.mp front
        rw [byteSize] at fits
        rw [clip, if_pos (by omega)]
        exact List.cons_prefix_cons.mpr ⟨rfl, ih (limit - d.utf8Size) other rest (by omega)⟩

/-- There is only one longest front. -/
theorem Clipped.unique {limit : Nat} {cs kept other : List Char} (first : Clipped limit cs kept)
    (second : Clipped limit cs other) : kept = other := by
  have within : kept <+: other := second.longest kept first.front first.fits
  have around : other <+: kept := first.longest other second.front second.fits
  exact within.eq_of_length_le around.length_le

end LeafHub.Text
