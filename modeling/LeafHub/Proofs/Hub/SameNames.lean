import LeafHub.Proofs.Hub.CellForm
import LeafHub.Proofs.Hub.LeafFrame

namespace LeafHub.Hub

open Passage

/-- The cells have the names and the kinds they had, and the same ones are variables and settings. -/
structure SameNames (hub after : Hub) : Prop where
  name : ∀ id, (after.cell id).name = (hub.cell id).name
  kind : ∀ id, (after.cell id).kind = (hub.cell id).kind
  variableList : after.variableList = hub.variableList
  settingList : after.settingList = hub.settingList
  config : after.config = hub.config

theorem passage_sameNames : Passage SameNames where
  refl := fun _ => ⟨fun _ => rfl, fun _ => rfl, rfl, rfl, rfl⟩
  trans := fun first second =>
    ⟨fun id => (second.name id).trans (first.name id), fun id => (second.kind id).trans (first.kind id),
      second.variableList.trans first.variableList, second.settingList.trans first.settingList,
      second.config.trans first.config⟩

theorem Requeued.sameNames {hub after : Hub} (requeued : hub.Requeued after) : hub.SameNames after := by
  obtain ⟨queues, journal, rfl⟩ := requeued
  exact ⟨fun _ => rfl, fun _ => rfl, rfl, rfl, rfl⟩

theorem sameNames_set (hub : Hub) (id : CellId) (payload : Payload) :
    hub.SameNames { hub with cells := hub.cells.set id { hub.cell id with payload } } := by
  have part {β : Type} (part : Cell → β) (same : part { hub.cell id with payload } = part (hub.cell id)) (other : CellId) :
      part (Hub.cell { hub with cells := hub.cells.set id { hub.cell id with payload } } other) = part (hub.cell other) := by
    rw [cell_set]
    split
    · rename_i here
      rw [same, here.1]
    · rfl
  exact ⟨part Cell.name rfl, part Cell.kind rfl, rfl, rfl, rfl⟩

theorem conduct_sameNames : Conduct SameNames where
  toPassage := passage_sameNames
  noted := fun _ _ _ => ⟨fun _ => rfl, fun _ => rfl, rfl, rfl, rfl⟩
  told := fun id happening _ hub => (requeued_told id happening hub).sameNames
  filled := fun hub id value _ _ => sameNames_set hub id (.ofValue 0 value)
  counted := fun hub id _ after _ => sameNames_set hub id (.int64 after)
  flagged := fun _ _ _ => ⟨fun _ => rfl, fun _ => rfl, rfl, rfl, rfl⟩
  lit := fun _ _ _ _ _ => ⟨fun _ => rfl, fun _ => rfl, rfl, rfl, rfl⟩
  scheduled := fun hub _ _ cells delay _ => (requeued_schedule cells.scan delay hub).sameNames
  pinned := fun _ _ => ⟨fun _ => rfl, fun _ => rfl, rfl, rfl, rfl⟩
  bussed := fun _ _ => ⟨fun _ => rfl, fun _ => rfl, rfl, rfl, rfl⟩
  stored := fun _ _ => ⟨fun _ => rfl, fun _ => rfl, rfl, rfl, rfl⟩
  waited := fun _ _ => ⟨fun _ => rfl, fun _ => rfl, rfl, rfl, rfl⟩

end LeafHub.Hub
