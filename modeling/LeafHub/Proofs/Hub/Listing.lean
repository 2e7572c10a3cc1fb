import LeafHub.Proofs.Hub.Growth
import LeafHub.Proofs.Lifecycle.Operations

namespace LeafHub.Hub

variable {hub : Hub} {id : LeafId}

/-- The list of leaves after a leaf has been registered. -/
def joined (leafList : List LeafId) (id : LeafId) : List LeafId :=
  if id ∈ leafList then leafList else leafList ++ [id]

theorem run_registerLeaf (hub : Hub) (id : LeafId) : ∃ lines,
    ((registerLeaf id).run hub).2 = { hub.withLines lines with leafList := joined hub.leafList id } := by
  unfold registerLeaf joined
  rw [Act.run_bind_of (Act.run_get hub)]
  by_cases member : id ∈ hub.leafList
  · rw [if_pos (List.contains_iff_mem.mpr member), if_pos member]
    exact ⟨[], by rw [withLines_nil]; rfl⟩
  · rw [if_neg fun there => member (List.contains_iff_mem.mp there), if_neg member]
    dsimp only
    split
    · rw [Act.run_bind_of (run_log hub _ _)]
      exact ⟨_, rfl⟩
    · exact ⟨[], by rw [withLines_nil]; rfl⟩

/-- The beginning of an init changes the list of leaves and the flags of the leaf. -/
theorem run_beginInit (hub : Hub) (id : LeafId) : ∃ lines, ((beginInit id).run hub).2 =
    { hub.withLines lines with
      leaves := hub.leaves.set id { hub.leaf id with ready := false, running := false }
      leafList := joined hub.leafList id } := by
  unfold beginInit
  rw [Act.run_bind_of (Act.run_get hub)]
  dsimp only
  rw [Act.run_bind_of (run_log hub _ _), Act.run_bind_of (run_log _ _ _), ← withLines_append]
  generalize [(Level.debug, _)] ++ [(Level.info, _)] = early
  obtain ⟨late, listed⟩ := run_registerLeaf (hub.withLines early) id
  refine ⟨early ++ late, ?_⟩
  rw [withLines_append]
  show ((setLeaf id _).run ((registerLeaf id).run (hub.withLines early)).2).2 = _
  rw [listed]
  rfl

theorem run_registerClass (hub : Hub) (leafClass : LeafClass) : ∃ lines,
    ((registerClass leafClass).run hub).2 = { hub.withLines lines with classes := hub.classes ++ [leafClass] } := by
  unfold registerClass
  rw [Act.run_bind_of (run_log hub _ _), Act.run_bind_of (Act.run_get _)]
  split
  · rw [Act.run_bind_of (run_log _ _ _), ← withLines_append]
    exact ⟨_, rfl⟩
  · exact ⟨_, rfl⟩

theorem run_initialise_of_held (held : hub.leafListHeld = true) : ∃ lines,
    initialise.run.run hub = (.error .lockTimeout, hub.withLines lines) := by
  unfold initialise
  rw [Attempt.run_lift_of (run_log hub _ _), Attempt.run_bind_of (Attempt.run_get _)]
  dsimp only
  rw [if_pos (show (hub.withLines _).leafListHeld = true from held), Attempt.run_lift_of (run_log _ _ _), ← withLines_append]
  exact ⟨_, rfl⟩

/-- Initialising a hub whose list of leaves is free. -/
theorem run_initialise (free : hub.leafListHeld = false) : ∃ lines, initialise.run.run hub =
    (.ok (), { hub.withLines lines with
      classes := []
      leafList := []
      identity := Identity.ofThisMachine hub.config.nameBase.text
      initialised := true }) := by
  unfold initialise
  rw [Attempt.run_lift_of (run_log hub _ _), Attempt.run_bind_of (Attempt.run_get _)]
  dsimp only
  rw [if_neg (show ¬(hub.withLines _).leafListHeld = true from Bool.not_eq_true _ ▸ free)]
  have base : (hub.withLines [(.info, "registry initialise")]).config = hub.config := rfl
  rw [base]
  generalize Identity.ofThisMachine _ = identity
  generalize s!"NOTICE Hardware id is '{identity.hex}' [{identity.short}]" = line
  refine ⟨[(.info, "registry initialise"), (.info, line), (.info, "registry initialise OK")], ?_⟩
  show ((Except.ok () : Except Fault Unit), _) = _
  simp only [withLines, List.map_cons, List.map_nil]
  simp [← Array.toList_inj]

end LeafHub.Hub
