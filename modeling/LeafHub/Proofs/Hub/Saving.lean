import LeafHub.Hub.Persistence
import LeafHub.Proofs.Hub.Requeued
import LeafHub.Proofs.Store.Bindings

namespace LeafHub

namespace Bindings

variable {ns : String} {entries : List (String × Bytes)}

/-- The map after writes to one namespace. -/
def afterAll (map : Bindings) (ns : String) (entries : List (String × Bytes)) : Bindings :=
  entries.foldl (fun map entry => map.after (.write ns entry.1 entry.2)) map

theorem afterAll_other {space name : String} (other : ¬(space = ns ∧ name ∈ entries.map Prod.fst)) (map : Bindings) :
    map.afterAll ns entries space name = map space name := by
  induction entries generalizing map with
  | nil => rfl
  | cons entry rest ih =>
    have later : ¬(space = ns ∧ name ∈ rest.map Prod.fst) := fun both =>
      other ⟨both.1, List.mem_cons_of_mem _ both.2⟩
    have here : ¬(space = ns ∧ name = entry.1) := fun both => other ⟨both.1, by simp [both.2]⟩
    exact (ih later _).trans (if_neg here)

theorem afterAll_mem (distinct : (entries.map Prod.fst).Nodup) {name : String} {value : Bytes}
    (member : (name, value) ∈ entries) (map : Bindings) : map.afterAll ns entries ns name = some value := by
  induction entries generalizing map with
  | nil => cases member
  | cons entry rest ih =>
    obtain ⟨fresh, distinct⟩ := List.nodup_cons.mp distinct
    rcases List.mem_cons.mp member with rfl | member
    · have later : ¬(ns = ns ∧ name ∈ rest.map Prod.fst) := fun both => fresh both.2
      exact (afterAll_other later _).trans (if_pos ⟨rfl, rfl⟩)
    · exact ih distinct member _

end Bindings

namespace Hub

/-- The settings and what they hold are the same. -/
structure SameSettings (hub after : Hub) : Prop where
  cells : after.cells = hub.cells
  flags : after.flags = hub.flags
  settingList : after.settingList = hub.settingList
  config : after.config = hub.config

theorem Requeued.sameSettings {hub after : Hub} (requeued : hub.Requeued after) : hub.SameSettings after := by
  obtain ⟨queues, journal, rfl⟩ := requeued
  exact ⟨rfl, rfl, rfl, rfl⟩

namespace SameSettings

variable {hub after : Hub} (same : hub.SameSettings after)

include same

theorem cell (id : CellId) : after.cell id = hub.cell id := by
  simp only [Hub.cell, same.cells]

theorem value (id : CellId) : after.value id = hub.value id := by
  simp only [Hub.value, Hub.cell, same.cells, same.flags]

theorem settingsNamespace : after.settingsNamespace = hub.settingsNamespace := by
  simp only [Hub.settingsNamespace, same.config]

end SameSettings

/-- The hub keeps this store under the name, on a medium that never fails by itself. -/
structure Holds (hub : Hub) (name : String) (held : Store) : Prop where
  store : (hub.medium name).store = held
  plan : (hub.medium name).plan = .none

/-- The settings among these that can be kept, with their raw values. -/
def kept (hub : Hub) (ids : List CellId) : List (String × Bytes) :=
  (ids.filter fun id => (hub.cell id).kind ≠ .event).map fun id => ((hub.cell id).name, (hub.value id).raw)

theorem SameSettings.kept {hub after : Hub} (same : hub.SameSettings after) (ids : List CellId) :
    after.kept ids = hub.kept ids := by
  simp only [Hub.kept, same.cell, same.value]

end Hub

end LeafHub
