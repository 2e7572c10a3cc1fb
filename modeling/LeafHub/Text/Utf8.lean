import LeafHub.Text.Digits

namespace LeafHub.Text

/-- The UTF-8 bytes of a text. -/
def utf8 (text : String) : Bytes :=
  text.toByteArray.data.toList

/-- The text whose UTF-8 bytes these are, if there is one. -/
def utf8? (bytes : Bytes) : Option String :=
  String.fromUTF8? ⟨bytes.toArray⟩

theorem utf8?_eq_some_iff {bytes : Bytes} {text : String} : utf8? bytes = some text ↔ bytes = utf8 text := by
  unfold utf8? String.fromUTF8? utf8
  constructor
  · intro found
    split at found
    · cases found
      rfl
    · cases found
  · rintro rfl
    have whole : (⟨text.toByteArray.data.toList.toArray⟩ : ByteArray) = text.toByteArray := rfl
    rw [whole, dif_pos text.isValidUTF8]
    rfl

@[simp] theorem utf8?_utf8 (text : String) : utf8? (utf8 text) = some text :=
  utf8?_eq_some_iff.mpr rfl

theorem utf8_injective {a b : String} (same : utf8 a = utf8 b) : a = b := by
  have read := utf8?_utf8 a
  rw [same, utf8?_utf8] at read
  exact (Option.some.inj read).symm

@[simp] theorem length_utf8 (text : String) : (utf8 text).length = text.utf8ByteSize := rfl

end LeafHub.Text
