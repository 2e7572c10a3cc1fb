import LeafHub.Config.Basic
import LeafHub.Identity
import LeafHub.Proofs.Text.Clipped

namespace LeafHub.Identity

open Text

/-- Room for the digits, in bytes. -/
def hexLimit : Nat := 34

/-- Room for the last digits, in bytes. -/
def shortLimit : Nat := 4

theorem digitChar_of_lt {n : Nat} (small : n < 16) : Nat.digitChar n ∈ "0123456789abcdef".toList ∧ (Nat.digitChar n).utf8Size = 1 := by
  revert n
  decide

theorem hexByte_digits (b : UInt8) : ∀ c ∈ hexByte b, c ∈ "0123456789abcdef".toList ∧ c.utf8Size = 1 := by
  have bound := b.toNat_lt
  intro c member
  simp only [hexByte, List.mem_cons, List.not_mem_nil, or_false] at member
  rcases member with rfl | rfl
  · exact digitChar_of_lt (by omega)
  · exact digitChar_of_lt (by omega)

theorem hexChars_digits {bytes : Bytes} : ∀ c ∈ hexChars bytes, c ∈ "0123456789abcdef".toList ∧ c.utf8Size = 1 := by
  intro c member
  obtain ⟨b, _, digit⟩ := List.mem_flatMap.mp member
  exact hexByte_digits b c digit

theorem length_hexChars (bytes : Bytes) : (hexChars bytes).length = 2 * bytes.length := by
  induction bytes with
  | nil => rfl
  | cons b rest ih =>
    have split : hexChars (b :: rest) = hexByte b ++ hexChars rest := rfl
    have two : (hexByte b).length = 2 := rfl
    rw [split, List.length_append, ih, two, List.length_cons]
    omega

theorem byteSize_of_single {cs : List Char} (single : ∀ c ∈ cs, c.utf8Size = 1) : byteSize cs = cs.length := by
  induction cs with
  | nil => rfl
  | cons c cs ih =>
    have first := single c List.mem_cons_self
    have rest := ih fun d member => single d (List.mem_cons_of_mem c member)
    rw [byteSize, first, rest, List.length_cons]
    omega

/-- What the texts of an identity say about a hardware id and a base. -/
structure Tells (id : Bytes) (base : String) (identity : Identity) : Prop where
  /-- The digits spell the first sixteen bytes. -/
  hex : bytesOfHex? identity.hex.toList = some (id.take 16)
  lowercase : ∀ c ∈ identity.hex.toList, c ∈ "0123456789abcdef".toList
  /-- In whatever pieces the digits are written, there is room for all of them. -/
  hexWhole : ∀ pieces : List (List Char), pieces.flatten = identity.hex.toList → fill hexLimit [] pieces = identity.hex.toList
  /-- The last digits begin where four bytes are left, between two characters. -/
  short : ∃ front, identity.hex = front ++ identity.short ∧ front.utf8ByteSize = identity.hex.utf8ByteSize - shortLimit
  shortLength : identity.short.length = min 4 identity.hex.length
  shortWhole : fill shortLimit [] [identity.short.toList] = identity.short.toList
  name : Clipped nameLimit (base ++ "-" ++ identity.short).toList identity.name.toList
  nameFilled : pour nameLimit [] (base ++ "-" ++ identity.short).toList = identity.name.toList
  /-- A name is whole when its base is no longer than that of a configuration. -/
  nameWhole : base.utf8ByteSize ≤ 12 → identity.name = base ++ "-" ++ identity.short

section Texts

variable (id : Bytes) (base : String)

theorem toList_short : (ofId id base).short.toList =
    (ofId id base).hex.toList.drop ((ofId id base).hex.toList.length - shortLimit) := by
  simp [ofId, shortLimit]

theorem toList_name : (ofId id base).name.toList = clip nameLimit (base ++ "-" ++ (ofId id base).short).toList := by
  simp [ofId]

theorem toList_hex : (ofId id base).hex.toList = hexChars (id.take 16) := by
  simp [ofId]

theorem single_hex : ∀ c ∈ (ofId id base).hex.toList, c.utf8Size = 1 := by
  rw [toList_hex]
  exact fun c member => (hexChars_digits c member).2

theorem byteSize_hex : byteSize (ofId id base).hex.toList = (ofId id base).hex.toList.length :=
  byteSize_of_single (single_hex id base)

theorem length_hex : (ofId id base).hex.toList.length ≤ 32 := by
  rw [toList_hex, length_hexChars, List.length_take]
  omega

theorem length_short : (ofId id base).short.toList.length = min shortLimit (ofId id base).hex.toList.length := by
  rw [toList_short, List.length_drop]
  omega

theorem byteSize_short : byteSize (ofId id base).short.toList = (ofId id base).short.toList.length := by
  refine byteSize_of_single fun c member => ?_
  rw [toList_short] at member
  exact single_hex id base c (List.mem_of_mem_drop member)

/-- The digits that stand before the last four. -/
theorem exists_front : ∃ front, (ofId id base).hex = front ++ (ofId id base).short ∧
    front.utf8ByteSize = (ofId id base).hex.utf8ByteSize - shortLimit := by
  generalize whole : (ofId id base).hex.toList = hex
  have single : ∀ c ∈ hex, c.utf8Size = 1 := whole ▸ single_hex id base
  refine ⟨String.ofList (hex.take (hex.length - shortLimit)), ?_, ?_⟩
  · rw [← String.toList_inj, String.toList_append, String.toList_ofList, toList_short, whole, List.take_append_drop]
  · rw [utf8ByteSize_eq, utf8ByteSize_eq, String.toList_ofList, whole, byteSize_of_single single,
      byteSize_of_single fun c member => single c (List.mem_of_mem_take member), List.length_take]
    omega

theorem name_of_short_base (fits : base.utf8ByteSize ≤ 12) :
    (ofId id base).name = base ++ "-" ++ (ofId id base).short := by
  have room : byteSize (base ++ "-" ++ (ofId id base).short).toList ≤ nameLimit := by
    have dash : byteSize "-".toList = 1 := rfl
    have last := length_short id base
    rw [utf8ByteSize_eq] at fits
    rw [String.toList_append, String.toList_append, byteSize_append, byteSize_append, byteSize_short, dash, last]
    simp only [shortLimit, nameLimit]
    omega
  rw [← String.toList_inj, toList_name, clip_eq_self room]

end Texts

/-- The identity of any hardware id under any base: the digits of the first sixteen bytes, the last four of these, and the
longest front of base, dash and last digits that there is room for, which is all of it for the base of a configuration. -/
theorem tells_hardware_id (id : Bytes) (base : String) : Tells id base (ofId id base) ∧
    ∀ config : Config, (ofId id config.nameBase.text).name =
      config.nameBase.text ++ "-" ++ (ofId id config.nameBase.text).short := by
  have hexSize := byteSize_hex id base
  have hexLength := length_hex id base
  have shortLength := length_short id base
  have filled : pour nameLimit [] (base ++ "-" ++ (ofId id base).short).toList = (ofId id base).name.toList := by
    rw [pour_eq, toList_name]
    rfl
  refine ⟨?_, fun config => name_of_short_base id _ config.nameBase.fits⟩
  exact
    { hex := by rw [toList_hex, bytesOfHex?_hexChars]
      lowercase := by
        rw [toList_hex]
        exact fun c member => (hexChars_digits c member).1
      hexWhole := fun pieces whole => by
        refine (fill_of_room ?_).trans whole
        rw [whole, hexSize]
        simp only [byteSize, hexLimit]
        omega
      short := exists_front id base
      shortLength := by rwa [String.length_toList, String.length_toList] at shortLength
      shortWhole := by
        refine (fill_of_room ?_).trans (by simp)
        rw [List.flatten_singleton, byteSize_short, shortLength]
        simp only [byteSize]
        omega
      name := by
        rw [toList_name]
        exact clipped_clip _ _
      nameFilled := filled
      nameWhole := name_of_short_base id base }

/-- The last `ü` would need the bytes 20 and 21, and nothing is taken in its place. -/
example : (ofId [0xAB] "aaaüüüüüüüüü").name = "aaaüüüüüüüü" := by decide +kernel

end LeafHub.Identity
