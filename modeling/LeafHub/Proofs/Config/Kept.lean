import LeafHub.Config.Stored
import LeafHub.Proofs.Config.BlobForm
import LeafHub.Proofs.Store.Bindings

namespace LeafHub.Config

theorem validAddress_stored : Store.validAddress storedNamespace storedKey = true := by
  decide +kernel

/-- The key is short, so it has a slot of its own. -/
theorem isHashed_storedKey : Slot.isHashed storedKey = false := by
  decide +kernel

theorem blob_le_blobLimit (config : Config) : config.blob.length ≤ blobLimit :=
  Nat.le_trans (length_blob config) (by decide)

/-- No other key can take the slot. -/
theorem isTaken_storedKey {store : Store} (sound : store.Sound) : store.isTaken storedNamespace storedKey = false := by
  rw [← Bool.not_eq_true]
  intro taken
  obtain ⟨other, _, apart, names, _⟩ := sound.isTaken_iff.mp taken
  have hashed := Slot.isHashed_of_shared names apart
  rw [isHashed_storedKey] at hashed
  cases hashed

/-- The value of the key is the blob of its slot. -/
theorem get?_storedKey (store : Store) :
    store.get? storedNamespace storedKey = store.blob? storedNamespace storedKey := by
  unfold Store.get? Slot.valueOf?
  rw [Slot.nameOf_of_plain isHashed_storedKey, isHashed_storedKey]
  split
  · rename_i blob held
    exact held.symm
  · rename_i none
    exact none.symm

theorem read_stored (medium : Medium) : medium.read storedNamespace storedKey blobLimit =
    match medium.plan.read, medium.store.blob? storedNamespace storedKey with
    | some fault, _ => .error fault
    | none, some stored => .ok (stored.take blobLimit)
    | none, none => .error .notFound := by
  unfold Medium.read Store.read
  rw [if_pos validAddress_stored, get?_storedKey]
  cases medium.plan.read <;> cases medium.store.blob? storedNamespace storedKey <;> rfl

/-- What a stored configuration reads back as, if the reading works. -/
theorem load_of_stored {medium : Medium} (works : medium.plan.read = none) {stored : Bytes}
    (held : medium.store.blob? storedNamespace storedKey = some stored) {config : Config}
    (decoded : ofBlob? (stored.take blobLimit) = some config) (valid : config.validate = none) :
    load medium = config := by
  unfold load
  rw [read_stored, works, held]
  simp only [ofRead, decoded, if_pos valid]

/-- There are no other sources of a configuration than the standard one and the slot. -/
theorem load_eq_standard_or (medium : Medium) : load medium = standard ∨ medium.plan.read = none ∧
    ∃ stored, medium.store.blob? storedNamespace storedKey = some stored ∧
      ofBlob? (stored.take blobLimit) = some (load medium) := by
  unfold load
  rw [read_stored]
  split
  · exact .inl rfl
  · rename_i stored works held
    simp only [ofRead]
    split
    · rename_i config decoded
      split
      · exact .inr ⟨works, stored, held, decoded⟩
      · exact .inl rfl
    · exact .inl rfl
  · exact .inl rfl

/-- A valid configuration is written, unless the medium fails. -/
theorem save_of_valid {config : Config} (valid : config.validate = none) (medium : Medium)
    (sound : medium.store.Sound) (works : medium.plan.write medium.writes storedKey = none) :
    save config medium = (.ok (), { medium with
      store := ⟨Slot.insert storedNamespace storedKey config.blob medium.store.slots⟩
      writes := medium.writes + 1 }) := by
  have granted : medium.store.write storedNamespace storedKey config.blob =
      .ok ⟨Slot.insert storedNamespace storedKey config.blob medium.store.slots⟩ := by
    refine Store.write_eq_ok_iff.mpr ⟨validAddress_stored, isTaken_storedKey sound, ?_⟩
    rw [Slot.nameOf_of_plain isHashed_storedKey, Slot.pack, isHashed_storedKey]
    rfl
  unfold save Medium.write
  simp only [valid, works, granted]

/-- What was saved is in the slot. -/
theorem blob?_insert {store : Store} (sound : store.Sound) (config : Config) :
    (⟨Slot.insert storedNamespace storedKey config.blob store.slots⟩ : Store).blob? storedNamespace storedKey =
      some config.blob := by
  have kept := sound.get?_insert validAddress_stored (isTaken_storedKey sound) config.blob
  rw [Slot.nameOf_of_plain isHashed_storedKey, Slot.pack, isHashed_storedKey] at kept
  have bound := congrFun (congrFun kept storedNamespace) storedKey
  have here : Bindings.after store.get? (.write storedNamespace storedKey config.blob) storedNamespace storedKey =
      some config.blob := by simp [Bindings.after]
  rw [get?_storedKey] at bound
  exact bound.trans here

theorem ofBlob?_take_blob (config : Config) : ofBlob? (config.blob.take blobLimit) = some config := by
  rw [List.take_of_length_le (blob_le_blobLimit config), ← List.append_nil config.blob]
  exact ofBlob?_blob config []

/-- A refused configuration leaves the store as it was. -/
theorem save_of_error {config : Config} {medium after : Medium} {fault : Fault}
    (refused : save config medium = (.error fault, after)) :
    after.store = medium.store ∧ after.plan = medium.plan := by
  unfold save at refused
  split at refused
  · cases refused
    exact ⟨rfl, rfl⟩
  · split at refused
    · cases refused
    · rename_i failed
      cases refused
      refine ⟨Medium.write_of_error failed, ?_⟩
      unfold Medium.write at failed
      split at failed
      · cases failed
        rfl
      · split at failed
        · cases failed
        · cases failed
          rfl

theorem load_congr {medium other : Medium} (store : medium.store = other.store) (plan : medium.plan = other.plan) :
    load medium = load other := by
  unfold load Medium.read
  rw [store, plan]

/-- A configuration outlives a restart. On a working store of any history exactly the valid ones are saved, each fits
what is read back, and what was saved is loaded; on any medium a refused one changes nothing. What is loaded is
always valid, and is the standard configuration or the one that the first bytes of the slot decode to. -/
theorem save_then_load :
    (∀ (requests : List Request) (writes : Nat) (config : Config),
      let medium : Medium := ⟨.reached requests, .none, writes⟩
      config.blob.length ≤ blobLimit ∧ ((save config medium).1 = .ok () ↔ config.validate = none) ∧
        ((save config medium).1 = .ok () → load (save config medium).2 = config)) ∧
    (∀ (medium after : Medium) (config : Config) (fault : Fault),
      save config medium = (.error fault, after) → after.store = medium.store ∧ load after = load medium) ∧
    (∀ medium : Medium, (load medium).validate = none ∧
      (∀ fault, medium.plan.read = some fault → load medium = standard) ∧
      (∀ stored config, medium.plan.read = none → medium.store.blob? storedNamespace storedKey = some stored →
        ofBlob? (stored.take blobLimit) = some config → config.validate = none → load medium = config) ∧
      (load medium = standard ∨ medium.plan.read = none ∧
        ∃ stored, medium.store.blob? storedNamespace storedKey = some stored ∧
          ofBlob? (stored.take blobLimit) = some (load medium))) := by
  refine ⟨fun requests writes config => ?_, fun medium after config fault refused => ?_, fun medium => ?_⟩
  · have sound : (Store.reached requests).Sound := Store.sound_reached requests
    have saved := fun valid : config.validate = none =>
      save_of_valid valid ⟨.reached requests, .none, writes⟩ sound rfl
    have taken : (save config ⟨.reached requests, .none, writes⟩).1 = .ok () ↔ config.validate = none := by
      refine ⟨fun granted => ?_, fun valid => congrArg Prod.fst (saved valid)⟩
      unfold save at granted
      split at granted
      · cases granted
      · assumption
    refine ⟨blob_le_blobLimit config, taken, fun granted => ?_⟩
    have valid := taken.mp granted
    rw [saved valid]
    exact load_of_stored rfl (blob?_insert sound config) (ofBlob?_take_blob config) valid
  · obtain ⟨store, plan⟩ := save_of_error refused
    exact ⟨store, load_congr store plan⟩
  · refine ⟨validate_load medium, fun fault broken => ?_, fun stored config works held decoded valid =>
      load_of_stored works held decoded valid, load_eq_standard_or medium⟩
    rcases load_eq_standard_or medium with standard | ⟨works, _⟩
    · exact standard
    · rw [works] at broken
      cases broken

end LeafHub.Config
