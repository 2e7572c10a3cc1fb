import LeafHub.Proofs.Hub.LeafFrame
import LeafHub.Proofs.Hub.Requeued
import LeafHub.Proofs.Routine.Uses

namespace LeafHub.Hub

/-- Every cell holds a payload of its kind. -/
def Coherent (hub : Hub) : Prop :=
  ∀ id, (hub.cell id).payload.kind = (hub.cell id).kind

theorem coherent_fresh (config : Config) : (fresh config).Coherent := by
  intro id
  have nobody : (fresh config).cell id = default := Pool.get_unknown (Nat.zero_le id)
  rw [nobody]
  rfl

theorem Coherent.kind_value {hub : Hub} (coherent : hub.Coherent) (id : CellId) :
    (hub.value id).kind = (hub.cell id).kind := by
  simp [value, coherent id]

/-- A hub stays coherent. -/
def StaysCoherent (hub after : Hub) : Prop :=
  hub.Coherent → after.Coherent

theorem Requeued.staysCoherent {hub after : Hub} (requeued : hub.Requeued after) : hub.StaysCoherent after := by
  obtain ⟨queues, journal, rfl⟩ := requeued
  exact id

theorem Coherent.set {hub : Hub} (coherent : hub.Coherent) (id : CellId) {cell : Cell}
    (same : cell.payload.kind = cell.kind) : Coherent { hub with cells := hub.cells.set id cell } := by
  intro other
  simp only [Hub.cell, Pool.get_set]
  split
  · exact same
  · exact coherent other

theorem Coherent.add {hub : Hub} (coherent : hub.Coherent) {cell : Cell}
    (same : cell.payload.kind = cell.kind) : Coherent { hub with cells := hub.cells.add cell } := by
  intro id
  simp only [Hub.cell, Pool.get_add]
  split
  · exact same
  · exact coherent id

theorem frame_coherent : Frame StaysCoherent where
  refl := fun _ coherent => coherent
  trans := fun first second coherent => second (first coherent)
  noted := fun _ _ _ coherent => coherent
  told := fun id happening _ hub => (requeued_told id happening hub).staysCoherent
  filled := fun _ id _ same _ coherent => coherent.set id (by simpa using same)
  counted := fun _ id _ _ held coherent => coherent.set id (by rw [← coherent id, held]; rfl)
  flagged := fun _ _ _ coherent => coherent
  lit := fun _ _ _ _ _ coherent => coherent
  scheduled := fun hub _ _ cells delay _ => (requeued_schedule cells.scan delay hub).staysCoherent
  pinned := fun _ _ coherent => coherent
  bussed := fun _ _ coherent => coherent
  stored := fun _ _ coherent => coherent
  waited := fun _ _ coherent => coherent
  celled := fun _ _ _ _ coherent => coherent.add (by simp)
  eventCelled := fun _ _ _ coherent => coherent.add rfl
  subscribed := fun _ id _ coherent => coherent.set id (coherent id)
  flagsMade := fun _ _ coherent => coherent
  itemMade := fun _ _ coherent => coherent
  rescheduled := fun id delay hub => (requeued_reschedule id delay hub).staysCoherent
  cancelled := fun id hub => (requeued_cancel id hub).staysCoherent
  contexted := fun _ _ _ coherent => coherent
  retained := fun _ _ coherent => coherent
  released := fun _ _ coherent => coherent
  listed := fun _ _ _ coherent => coherent
  catalogued := fun _ _ _ _ _ _ coherent => coherent

theorem allowsTurns_coherent : AllowsTurns (Act.Keeps StaysCoherent) where
  look := frame_coherent.get
  log := frame_coherent.log
  turn := frame_coherent.takeTurn (fun _ _ _ coherent => coherent) (fun _ _ _ coherent => coherent)
  wait := frame_coherent.waitUntil

/-- Whatever an application makes out of a new hub is coherent. -/
theorem coherent_run {σ α : Type} {app : Application σ} {routine : Routine σ α}
    (application : app.Uses (Act.Keeps StaysCoherent)) (uses : routine.Uses (Act.Keeps StaysCoherent))
    (config : Config) (own : σ) (limit : Nat) : (routine.run app limit ⟨fresh config, own⟩).2.hub.Coherent := by
  have bodies := application.body allowsTurns_coherent
  have kept := uses.run_hub frame_coherent.toPassage (fun keeps => keeps) bodies ⟨fresh config, own⟩ limit
  exact kept (coherent_fresh config)

end LeafHub.Hub
