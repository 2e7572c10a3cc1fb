import LeafHub.Store.Basic

namespace LeafHub.Slot

theorem nameOf_of_plain {key : String} (plain : isHashed key = false) : nameOf key = key := by
  simp [nameOf, plain]

/-- The mark tells the two layouts apart. -/
theorem head_nameOf_iff {key : String} : (nameOf key).toList.head? = some mark ↔ isHashed key = true := by
  unfold nameOf
  split
  · rename_i hashed
    simp [hashed, mark]
  · rename_i plain
    constructor
    · intro marked
      exact absurd (by simp [isHashed, marked]) plain
    · intro hashed
      exact absurd hashed plain

theorem isHashed_of_same_name {key other : String} (same : nameOf key = nameOf other) :
    isHashed key = isHashed other := by
  have marks : isHashed key = true ↔ isHashed other = true := by
    rw [← head_nameOf_iff, ← head_nameOf_iff, same]
  exact Bool.eq_iff_iff.mpr marks

/-- Keys that are kept under their own names have slots of their own. -/
theorem isHashed_of_shared {key other : String} (same : nameOf other = nameOf key) (apart : other ≠ key) :
    isHashed key = true := by
  have layouts := isHashed_of_same_name same
  by_cases hashed : isHashed key = true
  · exact hashed
  · have plain : isHashed key = false := by simpa using hashed
    rw [nameOf_of_plain (layouts.trans plain), nameOf_of_plain plain] at same
    exact absurd same apart

theorem unpack?_pack {key : String} (valid : validKey key = true) (hashed : isHashed key = true) (value : Bytes) :
    unpack? (pack key value) = some (key, value) := by
  have read := valueOf?_pack valid value
  unfold valueOf? at read
  rw [if_pos hashed] at read
  split at read
  · rename_i owner found unpacked
    split at read
    · rename_i same
      rw [unpacked, same, Option.some.inj read]
    · cases read
  · cases read

/-- The slot holds a value for a key: it is the slot of that key, and the blob is that of the value. -/
structure Keeps (slot : Slot) (key : String) (value : Bytes) : Prop where
  valid : validKey key = true
  name : slot.name = nameOf key
  blob : slot.blob = pack key value

/-- Whoever asks for a slot finds the value only if the slot is kept for the same key. -/
theorem Keeps.valueOf? {slot : Slot} {key other : String} {value : Bytes} (keeps : slot.Keeps key value)
    (here : slot.name = nameOf other) :
    Slot.valueOf? other slot.blob = if key = other then some value else none := by
  have names : nameOf key = nameOf other := keeps.name.symm.trans here
  have layouts := isHashed_of_same_name names
  by_cases hashed : isHashed other = true
  · have unpacked := unpack?_pack keeps.valid (layouts.trans hashed) value
    simp only [Slot.valueOf?, hashed, if_true, keeps.blob, unpacked]
  · have plain : isHashed other = false := by simpa using hashed
    have same : key = other := by
      rwa [nameOf_of_plain (layouts.trans plain), nameOf_of_plain plain] at names
    subst same
    rw [keeps.blob, valueOf?_pack keeps.valid, if_pos rfl]

/-- A listing shows a slot under the full key and with the full value. -/
theorem Keeps.entryOf? {slot : Slot} {key : String} {value : Bytes} (keeps : slot.Keeps key value) :
    Store.entryOf? slot = some ⟨key, value⟩ := by
  unfold Store.entryOf?
  rw [keeps.name]
  by_cases hashed : isHashed key = true
  · rw [if_pos (head_nameOf_iff.mpr hashed), keeps.blob, unpack?_pack keeps.valid hashed]
    simp
  · have plain : isHashed key = false := by simpa using hashed
    rw [if_neg (fun marked => hashed (head_nameOf_iff.mp marked)), nameOf_of_plain plain, keeps.blob]
    simp [pack, plain]

theorem Keeps.unique {slot : Slot} {key other : String} {value another : Bytes} (keeps : slot.Keeps key value)
    (also : slot.Keeps other another) : key = other ∧ value = another := by
  have same := keeps.entryOf?.symm.trans also.entryOf?
  cases same
  exact ⟨rfl, rfl⟩

theorem isAt_iff {slot : Slot} {ns name : String} : slot.isAt ns name = true ↔ slot.ns = ns ∧ slot.name = name := by
  simp [isAt]

theorem isBefore_iff {slot : Slot} {ns name : String} :
    slot.isBefore ns name = true ↔ slot.ns < ns ∨ slot.ns = ns ∧ slot.name < name := by
  simp [isBefore]

theorem isBefore_trans {first second : Slot} {ns name : String}
    (one : first.isBefore second.ns second.name = true) (two : second.isBefore ns name = true) :
    first.isBefore ns name = true := by
  rw [isBefore_iff] at one two ⊢
  rcases one with below | ⟨level, lower⟩ <;> rcases two with above | ⟨even, upper⟩
  · exact .inl (String.lt_trans below above)
  · exact .inl (even ▸ below)
  · exact .inl (level ▸ above)
  · exact .inr ⟨level.trans even, String.lt_trans lower upper⟩

theorem not_isAt_of_isBefore {slot : Slot} {ns name : String} (before : slot.isBefore ns name = true) :
    slot.isAt ns name = false := by
  rw [← Bool.not_eq_true, isAt_iff]
  rintro ⟨rfl, rfl⟩
  rcases isBefore_iff.mp before with below | ⟨_, lower⟩
  · exact String.lt_irrefl _ below
  · exact String.lt_irrefl _ lower

/-- Of two places, one is before the other unless they are the same. -/
theorem isBefore_of_not {slot : Slot} {ns name : String} {blob : Bytes} (apart : ¬ slot.isAt ns name = true)
    (late : ¬ slot.isBefore ns name = true) : (⟨ns, name, blob⟩ : Slot).isBefore slot.ns slot.name = true := by
  rw [isAt_iff, not_and] at apart
  rw [isBefore_iff, not_or, String.not_lt, not_and, String.not_lt] at late
  rw [isBefore_iff]
  by_cases level : slot.ns = ns
  · refine .inr ⟨level.symm, String.not_le.mp fun below => ?_⟩
    exact apart level (String.le_antisymm below (late.2 level))
  · exact .inl (String.not_le.mp fun below => level (String.le_antisymm below late.1))

/-- Every slot stands before all later ones. -/
def Ordered (slots : List Slot) : Prop :=
  slots.Pairwise fun first second => first.isBefore second.ns second.name = true

/-- An insertion puts the new slot in the place of the one that was there. -/
theorem mem_insert {slots : List Slot} (ordered : Ordered slots) {ns name : String} {blob : Bytes} {slot : Slot} :
    slot ∈ insert ns name blob slots ↔ slot = ⟨ns, name, blob⟩ ∨ slot ∈ slots ∧ slot.isAt ns name = false := by
  induction slots with
  | nil => simp [insert]
  | cons first rest ih =>
    obtain ⟨least, ordered⟩ := List.pairwise_cons.mp ordered
    -- Past a slot at or behind the place, nothing else is at the place.
    have rest_apart (level : first.isAt ns name = true ∨ ¬ first.isBefore ns name = true)
        (member : slot ∈ rest) : slot.isAt ns name = false := by
      rw [← Bool.not_eq_true]
      intro here
      obtain ⟨rfl, rfl⟩ := isAt_iff.mp here
      have before := least slot member
      rcases level with here | late
      · rw [not_isAt_of_isBefore before] at here
        cases here
      · exact late before
    unfold insert
    split
    · rename_i here
      simp only [List.mem_cons]
      constructor
      · rintro (new | member)
        · exact .inl new
        · exact .inr ⟨.inr member, rest_apart (.inl here) member⟩
      · rintro (new | ⟨rfl | member, apart⟩)
        · exact .inl new
        · rw [here] at apart
          cases apart
        · exact .inr member
    · rename_i apart
      split
      · simp only [List.mem_cons, ih ordered]
        constructor
        · rintro (rfl | new | ⟨member, away⟩)
          · exact .inr ⟨.inl rfl, Bool.not_eq_true _ ▸ apart⟩
          · exact .inl new
          · exact .inr ⟨.inr member, away⟩
        · rintro (new | ⟨rfl | member, away⟩)
          · exact .inr (.inl new)
          · exact .inl rfl
          · exact .inr (.inr ⟨member, away⟩)
      · rename_i late
        simp only [List.mem_cons]
        constructor
        · rintro (new | rfl | member)
          · exact .inl new
          · exact .inr ⟨.inl rfl, Bool.not_eq_true _ ▸ apart⟩
          · exact .inr ⟨.inr member, rest_apart (.inr late) member⟩
        · rintro (new | ⟨member, _⟩)
          · exact .inl new
          · exact .inr member

theorem ordered_insert {slots : List Slot} (ordered : Ordered slots) (ns name : String) (blob : Bytes) :
    Ordered (insert ns name blob slots) := by
  induction slots with
  | nil => simp [insert, Ordered]
  | cons first rest ih =>
    obtain ⟨least, tail⟩ := List.pairwise_cons.mp ordered
    unfold insert
    split
    · rename_i here
      obtain ⟨rfl, rfl⟩ := isAt_iff.mp here
      exact List.pairwise_cons.mpr ⟨fun slot member => least slot member, tail⟩
    · rename_i apart
      split
      · rename_i before
        refine List.pairwise_cons.mpr ⟨fun slot member => ?_, ih tail⟩
        rcases (mem_insert tail).mp member with rfl | ⟨old, _⟩
        · exact before
        · exact least slot old
      · rename_i late
        have new : (⟨ns, name, blob⟩ : Slot).isBefore first.ns first.name = true := isBefore_of_not apart late
        refine List.pairwise_cons.mpr ⟨fun slot member => ?_, ordered⟩
        rcases List.mem_cons.mp member with rfl | old
        · exact new
        · exact isBefore_trans new (least slot old)

theorem ordered_filter {slots : List Slot} (ordered : Ordered slots) (keep : Slot → Bool) :
    Ordered (slots.filter keep) :=
  ordered.sublist List.filter_sublist

/-- A place holds one slot. -/
theorem Ordered.unique {slots : List Slot} (ordered : Ordered slots) {first second : Slot} (one : first ∈ slots)
    (two : second ∈ slots) (spaces : first.ns = second.ns) (names : first.name = second.name) : first = second := by
  have apart : slots.Pairwise fun a b => a.ns = b.ns ∧ a.name = b.name → a = b :=
    ordered.imp fun before same => by
      have away := not_isAt_of_isBefore before
      rw [isAt_iff.mpr same] at away
      cases away
  have flipped : slots.Pairwise (flip fun a b : Slot => a.ns = b.ns ∧ a.name = b.name → a = b) :=
    apart.imp fun same level => (same ⟨level.1.symm, level.2.symm⟩).symm
  exact apart.forall_of_forall_of_flip (fun _ _ _ => rfl) flipped one two ⟨spaces, names⟩

end LeafHub.Slot
