import Mathlib.Data.List.Forall2
import Mathlib.Data.List.Nodup
import LeafHub.Proofs.Hub.Growth
import LeafHub.Proofs.Text.ByteOrder
import LeafHub.Proofs.Text.Clipped

namespace LeafHub

open Hub Text

namespace Cell

/-- The name that a text gives to a cell. -/
structure NameOf (text name : String) : Prop where
  clipped : Clipped nameLimit text.toList name.toList
  /-- In bytes, too, no longer front of the text is a text that there is room for. -/
  bytes : utf8 name <+: utf8 text ∧ ∀ front, front <+: utf8 text → front.length ≤ nameLimit → (utf8? front).isSome →
    front <+: utf8 name
  /-- The first character without room ends the name, whatever comes after it. -/
  poured : pour nameLimit [] text.toList = name.toList
  whole : text.utf8ByteSize ≤ nameLimit → name = text

theorem nameOf_boundedName (text : String) : NameOf text (boundedName text) := by
  have kept : (boundedName text).toList = clip nameLimit text.toList := String.toList_ofList
  have clipped : Clipped nameLimit text.toList (boundedName text).toList := by
    rw [kept]
    exact clipped_clip nameLimit text.toList
  refine ⟨clipped, ⟨utf8_prefix_utf8_iff.mpr clipped.front, fun front begins room read => ?_⟩, ?_, fun room => ?_⟩
  · obtain ⟨other, spelled⟩ := Option.isSome_iff_exists.mp read
    obtain rfl := utf8?_eq_some_iff.mp spelled
    rw [length_utf8, utf8ByteSize_eq] at room
    exact utf8_prefix_utf8_iff.mpr (clipped.longest other.toList (utf8_prefix_utf8_iff.mp begins) room)
  · rw [pour_eq, kept]
    rfl
  · rw [utf8ByteSize_eq] at room
    rw [← String.toList_inj, kept, clip_eq_self room]

/-- Two names are the same when one longest front does for both texts. -/
theorem NameOf.eq_iff {text other name twin : String} (first : NameOf text name) (second : NameOf other twin) :
    name = twin ↔ ∃ kept, Clipped nameLimit text.toList kept ∧ Clipped nameLimit other.toList kept := by
  constructor
  · rintro rfl
    exact ⟨name.toList, first.clipped, second.clipped⟩
  · rintro ⟨kept, one, two⟩
    exact String.toList_inj.mp ((first.clipped.unique one).trans (two.unique second.clipped))

theorem prefixedName_inj {leaf name other : String} : prefixedName leaf name = prefixedName leaf other ↔ name = other := by
  refine ⟨fun same => ?_, congrArg (prefixedName leaf)⟩
  have chars := congrArg String.toList same
  simp only [prefixedName, String.toList_append] at chars
  exact String.toList_inj.mp (List.append_cancel_left chars)

end Cell

namespace Hub

/-- There may be more cells and event objects, and the old ones are as they were. -/
structure Enlarges (hub after : Hub) : Prop where
  cells : hub.cells.size ≤ after.cells.size
  cell : ∀ id < hub.cells.size, after.cell id = hub.cell id
  flags : hub.flags.size ≤ after.flags.size
  bits : ∀ flags < hub.flags.size, after.flags.get flags = hub.flags.get flags

theorem passage_enlarges : Passage Enlarges where
  refl := fun _ => ⟨Nat.le_refl _, fun _ _ => rfl, Nat.le_refl _, fun _ _ => rfl⟩
  trans := fun first second =>
    { cells := Nat.le_trans first.cells second.cells
      cell := fun id known => (second.cell id (Nat.lt_of_lt_of_le known first.cells)).trans (first.cell id known)
      flags := Nat.le_trans first.flags second.flags
      bits := fun flags known => (second.bits flags (Nat.lt_of_lt_of_le known first.flags)).trans (first.bits flags known) }

/-- A cell as it was made. If its value is one of events, the event object is there. -/
structure Begins (hub : Hub) (id : CellId) (name : String) (initial : Value) : Prop where
  known : id < hub.cells.size
  made : ∃ flags, hub.cell id = ⟨name, initial.kind, .ofValue flags initial, none⟩ ∧
    ∀ bits, initial = .event bits → flags < hub.flags.size ∧ hub.flags.get flags = bits

namespace Begins

variable {hub after : Hub} {id : CellId} {name : String} {initial : Value}

theorem name_eq (begins : hub.Begins id name initial) : (hub.cell id).name = name := by
  obtain ⟨flags, made, _⟩ := begins.made
  rw [made]

theorem kind_eq (begins : hub.Begins id name initial) : (hub.cell id).kind = initial.kind := by
  obtain ⟨flags, made, _⟩ := begins.made
  rw [made]

theorem value_eq (begins : hub.Begins id name initial) : hub.value id = initial := by
  obtain ⟨flags, made, own⟩ := begins.made
  rw [Hub.value, made]
  refine Payload.value_ofValue flags fun bits event => ?_
  subst event
  exact (own bits rfl).2

theorem enlarged (begins : hub.Begins id name initial) (enlarges : hub.Enlarges after) : after.Begins id name initial := by
  obtain ⟨flags, made, own⟩ := begins.made
  refine ⟨Nat.lt_of_lt_of_le begins.known enlarges.cells, flags, (enlarges.cell id begins.known).trans made, ?_⟩
  intro bits event
  obtain ⟨known, held⟩ := own bits event
  exact ⟨Nat.lt_of_lt_of_le known enlarges.flags, (enlarges.bits flags known).trans held⟩

end Begins

/-- The cells of a table: one for each row, in the order of the rows. -/
structure Makes (hub : Hub) (fullName : Definition → String) (table : List Definition) (ids : List CellId)
    (after : Hub) : Prop where
  enlarges : hub.Enlarges after
  size : after.cells.size = hub.cells.size + table.length
  next : ids = List.range' hub.cells.size table.length
  begins : List.Forall₂ (fun row id => after.Begins id (Cell.boundedName (fullName row)) row.start) table ids

/-- A new cell is as it was asked for. -/
theorem run_newCell_begins (hub : Hub) (name : String) (initial : Value) : ∃ after,
    (newCell name initial).run hub = (hub.cells.size, after) ∧ hub.Enlarges after ∧
      after.cells.size = hub.cells.size + 1 ∧ after.Begins hub.cells.size (Cell.boundedName name) initial := by
  -- only an event brings an event object along
  have run : ∃ lines flags, (newCell name initial).run hub = (hub.cells.size, hub.grow ⟨lines,
        hub.cells.add ⟨Cell.boundedName name, initial.kind, .ofValue hub.flags.size initial, none⟩, flags, hub.items,
        hub.variableList, hub.settingList⟩) ∧
      hub.flags.size ≤ flags.size ∧ (∀ old < hub.flags.size, flags.get old = hub.flags.get old) ∧
      ∀ bits, initial = .event bits → hub.flags.size < flags.size ∧ flags.get hub.flags.size = bits := by
    obtain ⟨lines, made⟩ := grow_newCell name initial
    rw [grow_self] at made
    refine ⟨lines, _, made, ?_⟩
    cases initial with
    | event bits =>
      refine ⟨by simp, fun old known => Pool.get_add_old known bits, fun own same => ?_⟩
      cases same
      exact ⟨by simp, Pool.get_add_new _ _⟩
    | _ => exact ⟨Nat.le_refl _, fun _ _ => rfl, nofun⟩
  obtain ⟨lines, flags, made, size, old, own⟩ := run
  have more (cell : Cell) : (hub.cells.add cell).size = hub.cells.size + 1 := Pool.size_add _ _
  refine ⟨_, made, ?_, more _, ?_⟩
  · exact
      { cells := Nat.le_trans (Nat.le_succ _) (Nat.le_of_eq (more _).symm)
        cell := fun id known => Pool.get_add_old known _
        flags := size
        bits := old }
  · exact ⟨Nat.lt_of_lt_of_eq (Nat.lt_succ_self _) (more _).symm, hub.flags.size, Pool.get_add_new _ _, own⟩

/-- Every row adds a cell, and the cells of the rows before stay as they were made. -/
theorem makes_mapM (fullName : Definition → String) (table : List Definition) (hub : Hub) : ∃ ids after,
    (table.mapM fun row => newCell (fullName row) row.start).run hub = (ids, after) ∧
      hub.Makes fullName table ids after := by
  induction table generalizing hub with
  | nil => exact ⟨[], hub, rfl, passage_enlarges.refl hub, rfl, rfl, .nil⟩
  | cons row rest ih =>
    obtain ⟨between, first, enlarges, size, begins⟩ := run_newCell_begins hub (fullName row) row.start
    obtain ⟨ids, after, made, later⟩ := ih between
    refine ⟨hub.cells.size :: ids, after, ?_, ?_⟩
    · rw [List.mapM_cons, Act.run_bind_of first, Act.run_bind_of made]
      rfl
    · exact
        { enlarges := passage_enlarges.trans enlarges later.enlarges
          size := by rw [later.size, size, List.length_cons, Nat.add_assoc, Nat.add_comm 1]
          next := by rw [later.next, size, List.length_cons, List.range'_succ]
          begins := .cons (begins.enlarged later.enlarges) later.begins }

/-- What the cells of a table are to their rows. -/
structure Instantiates (hub : Hub) (fullName : Definition → String) (table : List Definition) (ids : List CellId)
    (after : Hub) : Prop where
  /-- The cells are new, one for each row and in the order of the rows. -/
  new : ids = List.range' hub.cells.size table.length
  old : ∀ id < hub.cells.size, after.cell id = hub.cell id
  names : List.Forall₂ (fun row id => Cell.NameOf (fullName row) (after.cell id).name) table ids
  kinds : ids.map (fun id => (after.cell id).kind) = table.map Definition.kind
  values : ids.map after.value = table.map Definition.start
  /-- Two rows end up with one name when one longest front does for the full names of both. -/
  collisions : ∀ row id other twin, (row, id) ∈ table.zip ids → (other, twin) ∈ table.zip ids →
    ((after.cell id).name = (after.cell twin).name ↔ ∃ kept,
      Clipped Cell.nameLimit (fullName row).toList kept ∧ Clipped Cell.nameLimit (fullName other).toList kept)

section Tables

variable {hub after : Hub} {fullName : Definition → String} {table : List Definition} {ids : List CellId}

/-- What each cell has of its row, the cells have of the table. -/
theorem map_of_forall₂ {α : Type} {ofCell : CellId → α} {ofRow : Definition → α}
    (each : List.Forall₂ (fun row id => ofCell id = ofRow row) table ids) : ids.map ofCell = table.map ofRow := by
  induction each with
  | nil => rfl
  | cons same _ ih => rw [List.map_cons, List.map_cons, same, ih]

theorem Makes.instantiates (makes : hub.Makes fullName table ids after) : hub.Instantiates fullName table ids after := by
  have names : List.Forall₂ (fun row id => Cell.NameOf (fullName row) (after.cell id).name) table ids := by
    refine makes.begins.imp fun row id begins => ?_
    rw [begins.name_eq]
    exact Cell.nameOf_boundedName (fullName row)
  exact
    { new := makes.next
      old := makes.enlarges.cell
      names
      kinds := map_of_forall₂ (makes.begins.imp fun row _ begins => begins.kind_eq.trans row.kind_start)
      values := map_of_forall₂ (makes.begins.imp fun _ _ begins => begins.value_eq)
      collisions := fun row id other twin here there =>
        (List.forall₂_zip names here).eq_iff (List.forall₂_zip names there) }

/-- Names that have room are names in full. -/
theorem Instantiates.names_whole (instantiates : hub.Instantiates fullName table ids after)
    (room : ∀ row ∈ table, (fullName row).utf8ByteSize ≤ Cell.nameLimit) :
    ids.map (fun id => (after.cell id).name) = table.map fullName := by
  refine map_of_forall₂ (List.forall₂_iff_zip.mpr ⟨instantiates.names.length_eq, fun {row id} pair => ?_⟩)
  exact (List.forall₂_zip instantiates.names pair).whole (room row (List.of_mem_zip pair).1)

end Tables

theorem instantiates_newTable (hub : Hub) (table : List Definition) : ∃ ids after,
    (newTable table).run hub = (ids, after) ∧ hub.Instantiates Definition.name table ids after := by
  obtain ⟨ids, after, made, makes⟩ := makes_mapM Definition.name table hub
  exact ⟨ids, after, made, makes.instantiates⟩

theorem instantiates_newTableFor (hub : Hub) (leaf : String) (table : List Definition) : ∃ ids after,
    (newTableFor leaf table).run hub = (ids, after) ∧
      hub.Instantiates (fun row => Cell.prefixedName leaf row.name) table ids after := by
  obtain ⟨ids, after, made, makes⟩ := makes_mapM (fun row => Cell.prefixedName leaf row.name) table hub
  exact ⟨ids, after, made, makes.instantiates⟩

/-- A cell bears the longest front of whole characters of its text for which there is room. So the cells of a table that is
made for a leaf bear the leaf's name, an underscore and the row's name in full if these have room, and are then told apart
by their names as the rows are; without room two of them have one name when the cut leaves the same of both. -/
theorem cells_bear_bounded_names (hub : Hub) : Cell.nameLimit = 32 ∧
    (∀ text initial, ∃ id after, (newCell text initial).run hub = (id, after) ∧
      Cell.NameOf text (after.cell id).name) ∧
    ∀ leaf table, ∃ ids after, (newTableFor leaf table).run hub = (ids, after) ∧
      hub.Instantiates (fun row => leaf ++ "_" ++ row.name) table ids after ∧
      ((∀ row ∈ table, (leaf ++ "_" ++ row.name).utf8ByteSize ≤ Cell.nameLimit) →
        ids.map (fun id => (after.cell id).name) = table.map (fun row => leaf ++ "_" ++ row.name) ∧
        ((table.map Definition.name).Nodup → (ids.map fun id => (after.cell id).name).Nodup)) := by
  refine ⟨rfl, fun text initial => ?_, fun leaf table => ?_⟩
  · obtain ⟨after, made, _, _, begins⟩ := run_newCell_begins hub text initial
    refine ⟨hub.cells.size, after, made, ?_⟩
    rw [begins.name_eq]
    exact Cell.nameOf_boundedName text
  · obtain ⟨ids, after, made, instantiates⟩ := instantiates_newTableFor hub leaf table
    refine ⟨ids, after, made, instantiates, fun room => ?_⟩
    have whole := instantiates.names_whole room
    refine ⟨whole, fun apart => ?_⟩
    have full : table.map (fun row => Cell.prefixedName leaf row.name) =
        (table.map Definition.name).map (Cell.prefixedName leaf) := by
      rw [List.map_map]
      rfl
    rw [whole, full]
    exact apart.map fun _ _ => Cell.prefixedName_inj.mp

/-- The longest of these names has exactly the bytes that there is room for. Under a longer leaf name the cut leaves the same
of the first two. -/
theorem cells_bear_bounded_names_keypad :
    let table := [keypadAddr, keypadInterval, keypadOk, keypadPins, keypadEvent]
    (∀ row ∈ table, ("vordereingang_südtür2" ++ "_" ++ row.name).utf8ByteSize ≤ Cell.nameLimit) ∧
      (table.map Definition.name).Nodup ∧
      (∃ ids after, (newTableFor "vordereingang_südtür2" table).run (fresh .standard) = (ids, after) ∧
        ids.map (fun id => (after.cell id).name) = ["vordereingang_südtür2_addr", "vordereingang_südtür2_interval",
          "vordereingang_südtür2_ok", "vordereingang_südtür2_pins", "vordereingang_südtür2_event"] ∧
        (ids.map fun id => (after.cell id).name).Nodup) ∧
      ∃ ids after, (newTableFor "vordereingang_südtür_hofseite" table).run (fresh .standard) = (ids, after) ∧
        (after.cell 0).name = (after.cell 1).name := by
  intro table
  obtain ⟨_, _, tables⟩ := cells_bear_bounded_names (fresh .standard)
  have room : ∀ row ∈ table, ("vordereingang_südtür2" ++ "_" ++ row.name).utf8ByteSize ≤ Cell.nameLimit := by
    decide +kernel
  have apart : (table.map Definition.name).Nodup := by decide
  refine ⟨room, apart, ?_, ?_⟩
  · obtain ⟨ids, after, made, _, named⟩ := tables "vordereingang_südtür2" table
    obtain ⟨whole, distinct⟩ := named room
    exact ⟨ids, after, made, whole.trans (by decide +kernel), distinct apart⟩
  · obtain ⟨ids, after, made, instantiates, _⟩ := tables "vordereingang_südtür_hofseite" table
    have cut {cs kept : List Char} (same : clip Cell.nameLimit cs = kept) : Clipped Cell.nameLimit cs kept :=
      same ▸ clipped_clip _ _
    have new : ids = [0, 1, 2, 3, 4] := instantiates.new
    have first : (keypadAddr, 0) ∈ table.zip ids := by simp [new, table]
    have second : (keypadInterval, 1) ∈ table.zip ids := by simp [new, table]
    exact ⟨ids, after, made, (instantiates.collisions keypadAddr 0 keypadInterval 1 first second).mpr
      ⟨"vordereingang_südtür_hofseite_".toList, cut (by decide +kernel), cut (by decide +kernel)⟩⟩

end Hub

end LeafHub
