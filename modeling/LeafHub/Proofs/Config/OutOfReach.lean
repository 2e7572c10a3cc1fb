import LeafHub.Proofs.Config.Kept
import LeafHub.Proofs.Hub.SameNames
import LeafHub.Proofs.Hub.SavePass

namespace LeafHub

namespace Slot

/-- Only a key with the name of the slot is kept in the slot of the configuration. -/
theorem eq_storedKey {key : String} (same : nameOf key = Config.storedKey) : key = Config.storedKey := by
  by_cases hashed : isHashed key = true
  · have marked := head_nameOf_iff.mpr hashed
    rw [same] at marked
    exact absurd marked (by decide)
  · rw [← nameOf_of_plain (Bool.eq_false_iff.mpr hashed), same]

end Slot

theorem Store.blob?_insert (slots : List Slot) (ns name space other : String) (blob : Bytes) :
    (⟨Slot.insert ns name blob slots⟩ : Store).blob? space other =
      if ns = space ∧ name = other then some blob else (⟨slots⟩ : Store).blob? space other := by
  unfold Store.blob?
  induction slots with
  | nil =>
    unfold Slot.insert
    split <;> rename_i here <;> simp [Slot.isAt, here]
  | cons slot rest ih =>
    unfold Slot.insert
    split
    · rename_i there
      obtain ⟨rfl, rfl⟩ := Slot.isAt_iff.mp there
      split <;> rename_i here <;> simp [Slot.isAt, here]
    · rename_i apart
      split
      · by_cases place : slot.isAt space other = true
        · have elsewhere : ¬(ns = space ∧ name = other) := by
            rintro ⟨rfl, rfl⟩
            exact apart place
          rw [if_neg elsewhere, List.find?_cons, List.find?_cons, place]
        · rw [List.find?_cons, List.find?_cons, Bool.eq_false_iff.mpr place]
          exact ih
      · split <;> rename_i here <;> simp [List.find?_cons, Slot.isAt, here]

namespace Medium

/-- What the slot of the configuration holds. -/
def slot? (medium : Medium) : Option Bytes :=
  medium.store.blob? Config.storedNamespace Config.storedKey

theorem slot?_write_other {ns key : String} (apart : ¬(ns = Config.storedNamespace ∧ key = Config.storedKey))
    (medium : Medium) (value : Bytes) : (medium.write ns key value).2.slot? = medium.slot? := by
  unfold Medium.write
  split
  · rfl
  · split
    · rename_i granted
      obtain ⟨_, _, rfl⟩ := Store.write_eq_ok_iff.mp granted
      have elsewhere : ¬(ns = Config.storedNamespace ∧ Slot.nameOf key = Config.storedKey) :=
        fun both => apart ⟨both.1, Slot.eq_storedKey both.2⟩
      exact (Store.blob?_insert _ _ _ _ _ _).trans (if_neg elsewhere)
    · rfl

/-- A write to the slot is never refused by the store. -/
theorem slot?_write_own {medium : Medium} (works : medium.plan = .none) (value : Bytes) :
    (medium.write Config.storedNamespace Config.storedKey value).2.slot? = some value := by
  have free : medium.store.isTaken Config.storedNamespace Config.storedKey = false := by
    unfold Store.isTaken Slot.valueOf?
    rw [Config.isHashed_storedKey]
    split <;> rfl
  have granted : medium.store.write Config.storedNamespace Config.storedKey value = .ok _ :=
    Store.write_eq_ok_iff.mpr ⟨Config.validAddress_stored, free, rfl⟩
  unfold Medium.write
  rw [works]
  simp only [FaultPlan.none, granted]
  show (⟨Slot.insert _ (Slot.nameOf _) (Slot.pack _ value) _⟩ : Store).blob? _ _ = _
  rw [Store.blob?_insert, if_pos ⟨rfl, Slot.nameOf_of_plain Config.isHashed_storedKey⟩, Slot.pack, Config.isHashed_storedKey]
  rfl

end Medium

/-- What is loaded depends on the slot only. -/
theorem Config.load_of_same_slot {medium after : Medium} (plan : after.plan = medium.plan)
    (slot : after.slot? = medium.slot?) : load after = load medium := by
  unfold Medium.slot? at slot
  unfold load
  rw [read_stored, read_stored, plan, slot]

namespace Hub

open Passage

variable {hub after : Hub} {store : String} {id : CellId}

theorem media_store (hub : Hub) (id : CellId) (value : Value) : ((Hub.store id value).run.run hub).2.media = hub.media := by
  rw [run_store]
  split
  · rfl
  · obtain ⟨queues, journal, told⟩ := requeued_notify id (hub.putNoted id value (.stored id (hub.cell id).name value))
    dsimp only
    rw [told]
    show (hub.put id value).media = hub.media
    unfold put
    split <;> rfl

/-- Taking over settings writes no store. -/
theorem intake_media : Intake fun hub after => after.media = hub.media where
  refl := fun _ => rfl
  trans := fun first second => second.trans first
  logged := fun _ _ _ => rfl
  entered := fun hub id value _ => media_store hub id value

/-- The setting would be written into the slot of the configuration. -/
def Covers (hub : Hub) (id : CellId) : Prop :=
  hub.settingsNamespace = Config.storedNamespace ∧ (hub.cell id).kind ≠ .event ∧ (hub.cell id).name = Config.storedKey

instance : Decidable (hub.Covers id) := inferInstanceAs (Decidable (_ ∧ _))

theorem SameNames.covers (same : hub.SameNames after) (id : CellId) : after.Covers id ↔ hub.Covers id := by
  rw [Covers, Covers, settingsNamespace, settingsNamespace, same.config, same.name, same.kind]

/-- What a write of the setting puts into the slot of the configuration, if anything. -/
def written (hub : Hub) (id : CellId) : Option Bytes :=
  if hub.Covers id then some (hub.value id).raw else none

/-- What a pass over these settings puts there last. -/
def lastWritten (hub : Hub) : List CellId → Option Bytes
  | [] => none
  | id :: rest => (hub.lastWritten rest).or (hub.written id)

theorem written_eq_none_iff : hub.written id = none ↔ ¬hub.Covers id := by
  simp [written]

theorem lastWritten_eq_none_iff {ids : List CellId} : hub.lastWritten ids = none ↔ ∀ id ∈ ids, ¬hub.Covers id := by
  induction ids with
  | nil => simp [lastWritten]
  | cons id rest ih => simp [lastWritten, ih, written_eq_none_iff, and_comm]

/-- The slot of the configuration holds this now, if it is anything, and what it held otherwise. It is certain to hold
it on a medium that never fails by itself. -/
structure Puts (store : String) (put? : Option Bytes) (hub after : Hub) : Prop where
  plan : (after.medium store).plan = (hub.medium store).plan
  same : put? = none → (after.medium store).slot? = (hub.medium store).slot?
  slot : (hub.medium store).plan = .none → (after.medium store).slot? = put?.or (hub.medium store).slot?

theorem puts_of_media (same : after.media = hub.media) : Puts store none hub after := by
  have medium : after.medium store = hub.medium store := by rw [medium, medium, same]
  exact ⟨by rw [medium], fun _ => by rw [medium], fun _ => by rw [medium, Option.none_or]⟩

theorem Puts.trans {first second : Option Bytes} {between : Hub} (one : Puts store first hub between)
    (two : Puts store second between after) : Puts store (second.or first) hub after where
  plan := two.plan.trans one.plan
  same := fun none => by
    obtain ⟨still, before⟩ := Option.or_eq_none_iff.mp none
    exact (two.same still).trans (one.same before)
  slot := fun works => by rw [two.slot (one.plan.trans works), one.slot works, Option.or_assoc]

theorem Puts.and_same {put? : Option Bytes} {between : Hub} (puts : Puts store put? hub between)
    (same : after.media = between.media) : Puts store put? hub after := by
  have both := puts.trans (puts_of_media same)
  rwa [Option.none_or] at both

theorem Puts.from_same {put? : Option Bytes} {between : Hub} (puts : Puts store put? between after)
    (same : between.media = hub.media) : Puts store put? hub after := by
  have both := (puts_of_media same).trans puts
  rwa [Option.or_none] at both

/-- A write of a setting, as it holds now. -/
theorem puts_write (plain : (hub.cell id).kind ≠ .event) : Puts store (hub.written id) hub { hub with media :=
    ((Port.ofMedium store).write hub.settingsNamespace (hub.cell id).name (hub.value id).raw hub.media).2 } := by
  have written : Hub.medium { hub with media := ((Port.ofMedium store).write hub.settingsNamespace (hub.cell id).name
      (hub.value id).raw hub.media).2 } store =
      ((hub.medium store).write hub.settingsNamespace (hub.cell id).name (hub.value id).raw).2 := by
    simp [medium, Port.ofMedium]
  have plan := Medium.plan_write (hub.medium store) hub.settingsNamespace (hub.cell id).name (hub.value id).raw
  by_cases covers : hub.Covers id
  · refine ⟨by rw [written, plan], fun none => absurd covers (written_eq_none_iff.mp none), fun works => ?_⟩
    rw [written, covers.1, covers.2.2, Medium.slot?_write_own works, Hub.written, if_pos covers]
    rfl
  · have elsewhere : ¬(hub.settingsNamespace = Config.storedNamespace ∧ (hub.cell id).name = Config.storedKey) :=
      fun both => covers ⟨both.1, plain, both.2⟩
    have same := Medium.slot?_write_other elsewhere (hub.medium store) (hub.value id).raw
    rw [written_eq_none_iff.mpr covers]
    exact ⟨by rw [written, plan], fun _ => by rw [written, same], fun _ => by rw [written, same, Option.none_or]⟩

theorem puts_writeKey (plain : (hub.cell id).kind ≠ .event) : Puts store (hub.written id) hub
    ((writeKey store hub.settingsNamespace (hub.cell id).name (hub.value id).raw).run hub).2 := by
  rw [← Port.ask_ofMedium, Port.run_ask]
  exact (puts_write plain).and_same rfl

theorem puts_persist (hub : Hub) (id : CellId) (store : String) :
    Puts store (hub.written id) hub ((persist id store).run.run hub).2 := by
  unfold persist
  rw [Attempt.run_bind, Attempt.run_get]
  dsimp only
  split
  · rename_i event
    have none : hub.written id = none := written_eq_none_iff.mpr fun covers => covers.2.1 event
    rw [none]
    exact puts_of_media rfl
  · rename_i plain
    have wrote : Puts store (hub.written id) hub _ := puts_writeKey plain
    rw [Attempt.run_bind, Attempt.run_lift]
    dsimp only
    split <;> exact wrote

theorem SameSettings.written (same : hub.SameSettings after) (id : CellId) : after.written id = hub.written id := by
  have covers : after.Covers id ↔ hub.Covers id := by rw [Covers, Covers, same.settingsNamespace, same.cell]
  simp only [Hub.written, covers, same.value]

theorem SameSettings.lastWritten (same : hub.SameSettings after) (ids : List CellId) :
    after.lastWritten ids = hub.lastWritten ids := by
  induction ids with
  | nil => rfl
  | cons id rest ih =>
    rw [Hub.lastWritten, Hub.lastWritten, ih, same.written]

/-- The writes of a pass leave what the last of them that is about the slot put there. -/
theorem puts_asked (ids : List CellId) (hub : Hub) : Puts store (hub.lastWritten ids) hub { hub with media :=
    ((Port.ofMedium store).asked hub.settingsNamespace (hub.kept ids) hub.media).2 } := by
  induction ids generalizing hub with
  | nil => exact puts_of_media rfl
  | cons id rest ih =>
    by_cases event : (hub.cell id).kind = .event
    · have none : hub.written id = none := written_eq_none_iff.mpr fun covers => covers.2.1 event
      have skipped : hub.kept (id :: rest) = hub.kept rest := by simp [kept, event]
      rw [lastWritten, none, Option.or_none, skipped]
      exact ih hub
    · have first : hub.kept (id :: rest) = ((hub.cell id).name, (hub.value id).raw) :: hub.kept rest := by
        simp [kept, event]
      have wrote : Puts store (hub.written id) hub _ := puts_write event
      generalize media : ((Port.ofMedium store).write _ _ _ hub.media).2 = between at wrote
      have same : hub.SameSettings { hub with media := between } := ⟨rfl, rfl, rfl, rfl⟩
      have later := ih { hub with media := between }
      rw [same.lastWritten, same.kept, same.settingsNamespace] at later
      rw [first]
      simp only [Port.asked, media]
      exact wrote.trans later

theorem puts_saveAll (hub : Hub) (store : String) :
    Puts store (hub.lastWritten hub.settingList) hub ((saveAll store).run.run hub).2 := by
  obtain ⟨after, passed, only⟩ := (Port.ofMedium store).run_saveAll hub
  rw [← Port.saveAll_ofMedium, passed]
  exact (puts_asked hub.settingList hub).and_same only.media

/-- What is asked of the settings and the store that keeps them. -/
inductive SettingsRequest where
  | persist (id : CellId)
  | setAndPersist (id : CellId) (text : String)
  | saveAll
  | load
  | list

namespace SettingsRequest

def run (store : String) : SettingsRequest → Act Unit
  | .persist id => discard (Hub.persist id store).run
  | .setAndPersist id text => discard (Hub.setAndPersist id text store).run
  | .saveAll => discard (Hub.saveAll store).run
  | .load => discard (loadSettings store).run
  | .list => discard ((storedEntries · store) <$> get)

/-- What the request puts into the slot of the configuration, if anything. A value that was typed is put into its cell first. -/
def written (hub : Hub) : SettingsRequest → Option Bytes
  | .persist id => hub.written id
  | .setAndPersist id text => match (hub.cell id).kind.ofText text with
    | .ok value => (hub.put id value).written id
    | .error _ => none
  | .saveAll => hub.lastWritten hub.settingList
  | .load | .list => none

end SettingsRequest

theorem puts_setAndPersist (hub : Hub) (id : CellId) (text store : String) :
    Puts store ((SettingsRequest.setAndPersist id text).written hub) hub ((setAndPersist id text store).run.run hub).2 := by
  unfold setAndPersist
  rw [Attempt.run_bind, run_storeText]
  cases read : (hub.cell id).kind.ofText text with
  | error fault =>
    simp only [SettingsRequest.written, read]
    exact puts_of_media rfl
  | ok value =>
    simp only [SettingsRequest.written, read]
    have accepted : ¬value.kind ≠ (hub.cell id).kind := not_not_intro (Kind.kind_ofText read)
    obtain ⟨cells, flags, settings, config⟩ :=
      (requeued_notify id (hub.putNoted id value (.stored id (hub.cell id).name value))).sameSettings
    have told : (hub.put id value).SameSettings _ := ⟨cells, flags, settings, config⟩
    have media := media_store hub id value
    rw [run_store, if_neg accepted] at media ⊢
    dsimp only at media ⊢
    rw [← told.written, Attempt.run_tryCatch]
    have persisted := (puts_persist _ id store).from_same media
    split
    · rename_i done
      rwa [done] at persisted
    · rename_i fault between failed
      rw [failed] at persisted
      exact persisted.and_same rfl

theorem puts_request (request : SettingsRequest) (hub : Hub) (store : String) :
    Puts store (request.written hub) hub ((request.run store).run hub).2 := by
  cases request with
  | persist id => exact puts_persist hub id store
  | setAndPersist id text => exact puts_setAndPersist hub id text store
  | saveAll => exact puts_saveAll hub store
  | load => exact puts_of_media (intake_media.loadSettings store hub)
  | list => exact puts_of_media rfl

/-- The request is about the slot of the configuration. -/
def Reaches (hub : Hub) : SettingsRequest → Prop
  | .persist id => hub.Covers id
  | .setAndPersist id text => hub.Covers id ∧ ∃ value, (hub.cell id).kind.ofText text = .ok value
  | .saveAll => ∃ id ∈ hub.settingList, hub.Covers id
  | .load | .list => False

theorem sameNames_put (hub : Hub) (id : CellId) (value : Value) : hub.SameNames (hub.put id value) := by
  unfold put
  split
  · exact ⟨fun _ => rfl, fun _ => rfl, rfl, rfl, rfl⟩
  · exact sameNames_set hub id _

theorem SettingsRequest.written_eq_none_iff {request : SettingsRequest} :
    request.written hub = none ↔ ¬hub.Reaches request := by
  cases request with
  | persist id => exact Hub.written_eq_none_iff
  | setAndPersist id text =>
    show (match (hub.cell id).kind.ofText text with
      | .ok value => (hub.put id value).written id
      | .error _ => none) = none ↔ ¬(hub.Covers id ∧ ∃ value, (hub.cell id).kind.ofText text = .ok value)
    split
    · rename_i value read
      rw [Hub.written_eq_none_iff, (sameNames_put hub id value).covers]
      exact not_congr ⟨fun covers => ⟨covers, value, read⟩, And.left⟩
    · rename_i fault read
      exact iff_of_true rfl fun ⟨_, value, other⟩ => nomatch read.symm.trans other
  | saveAll =>
    show hub.lastWritten hub.settingList = none ↔ ¬∃ id ∈ hub.settingList, hub.Covers id
    rw [lastWritten_eq_none_iff]
    simp
  | load | list => exact iff_of_true rfl id

theorem SameNames.reaches (same : hub.SameNames after) (request : SettingsRequest) :
    after.Reaches request ↔ hub.Reaches request := by
  cases request with
  | persist id => exact same.covers id
  | setAndPersist id text =>
    show (after.Covers id ∧ _) ↔ (hub.Covers id ∧ _)
    rw [same.covers, same.kind]
  | saveAll =>
    show (∃ id ∈ after.settingList, after.Covers id) ↔ ∃ id ∈ hub.settingList, hub.Covers id
    simp only [same.settingList, same.covers]
  | load | list => exact Iff.rfl

/-- No request registers or renames anything. -/
theorem sameNames_request (request : SettingsRequest) (store : String) : Act.Keeps SameNames (request.run store) := by
  have keeping := conduct_sameNames.labour.toHousekeeping
  cases request with
  | persist id => exact Passage.discard (keeping.persist id store)
  | setAndPersist id text =>
    exact Passage.discard fun hub => keeping.setAndPersist (fun value => conduct_sameNames.store id value hub) text store
  | saveAll => exact Passage.discard (keeping.saveAll store)
  | load => exact Passage.discard (keeping.loadSettings store)
  | list => exact passage_sameNames.refl

/-- Requests that are not about the slot of the configuration leave it as it was, whatever the medium does. -/
theorem load_requests {requests : List SettingsRequest} (apart : ∀ request ∈ requests, ¬hub.Reaches request)
    (store : String) : Config.load (((requests.forM (SettingsRequest.run store)).run hub).2.medium store) =
      Config.load (hub.medium store) := by
  induction requests generalizing hub with
  | nil => rfl
  | cons request rest ih =>
    have puts := puts_request request hub store
    have names := sameNames_request request store hub
    have none := SettingsRequest.written_eq_none_iff.mpr (apart request List.mem_cons_self)
    have first := Config.load_of_same_slot puts.plan (puts.same none)
    have later := ih fun other member => mt (names.reaches other).mp (apart other (List.mem_cons_of_mem request member))
    exact later.trans first

/-- What a request writes depends on the settings only. -/
theorem SameSettings.writtenByRequest (same : hub.SameSettings after) (request : SettingsRequest) :
    request.written after = request.written hub := by
  cases request with
  | persist id => exact same.written id
  | setAndPersist id text =>
    have put (value : Value) : (hub.put id value).SameSettings (after.put id value) := by
      unfold put
      rw [same.cell]
      split
      · exact ⟨same.cells, congrArg (Pool.set · _ _) same.flags, same.settingList, same.config⟩
      · exact ⟨congrArg (Pool.set · _ _) same.cells, same.flags, same.settingList, same.config⟩
    simp only [SettingsRequest.written, same.cell, fun value => (put value).written id]
  | saveAll =>
    show after.lastWritten after.settingList = hub.lastWritten hub.settingList
    rw [same.settingList, same.lastWritten]
  | load | list => rfl

/-- On a medium that works, what was written is what is loaded next. -/
theorem load_of_written {request : SettingsRequest} {value : Bytes} (written : request.written hub = some value)
    (works : (hub.medium store).plan = .none) : Config.load (((request.run store).run hub).2.medium store) =
      Config.ofRead (.ok (value.take Config.blobLimit)) := by
  obtain ⟨plan, _, slot⟩ := puts_request request hub store
  have holds := slot works
  rw [written] at holds
  unfold Medium.slot? at holds
  rw [Config.load, Config.read_stored, plan, works, holds]
  rfl

/-- A working medium that holds a configuration and nothing else. -/
def mediumOf (config : Config) : Medium :=
  ⟨⟨[⟨Config.storedNamespace, Config.storedKey, config.blob⟩]⟩, .none, 0⟩

theorem load_mediumOf {config : Config} (valid : config.validate = none) : Config.load (mediumOf config) = config :=
  Config.load_of_stored rfl (Store.blob?_insert [] _ _ _ _ config.blob) (Config.ofBlob?_take_blob config) valid

/-- The same configuration but for the priority of the worker. -/
def otherConfig : Config := { Config.standard with workerPriority := 6 }

/-- A request that is about the slot of the configuration loses the one that is stored, whichever setting is written. -/
theorem load_of_reaches {request : SettingsRequest} (reaches : hub.Reaches request) (store : String) :
    ∃ config : Config, config.validate = none ∧
      Config.load (((request.run store).run { hub with media := hub.media.put store (mediumOf config) }).2.medium store) ≠
        Config.load (mediumOf config) := by
  obtain ⟨value, written⟩ := Option.ne_none_iff_exists'.mp (mt SettingsRequest.written_eq_none_iff.mp (not_not_intro reaches))
  have loaded (config : Config) :
      Config.load (((request.run store).run { hub with media := hub.media.put store (mediumOf config) }).2.medium store) =
        Config.ofRead (.ok (value.take Config.blobLimit)) := by
    have same : hub.SameSettings { hub with media := hub.media.put store (mediumOf config) } := ⟨rfl, rfl, rfl, rfl⟩
    exact load_of_written ((same.writtenByRequest request).trans written) (by simp [Hub.medium, mediumOf])
  by_cases standard : Config.ofRead (.ok (value.take Config.blobLimit)) = Config.standard
  · have valid : otherConfig.validate = none := by decide +kernel
    refine ⟨otherConfig, valid, ?_⟩
    rw [loaded, standard, load_mediumOf valid]
    decide
  · refine ⟨.standard, Config.validate_standard, ?_⟩
    rw [loaded, load_mediumOf Config.validate_standard]
    exact standard

/-- The requests that are not about the slot of the configuration leave the stored one as it is, on any store and any
medium and in any order. Every other request loses some valid configuration, on a medium that works. -/
theorem config_out_of_reach (hub : Hub) (store : String) :
    (∀ requests : List SettingsRequest, (∀ request ∈ requests, ¬hub.Reaches request) →
      Config.load (((requests.forM (SettingsRequest.run store)).run hub).2.medium store) = Config.load (hub.medium store)) ∧
    (hub.settingsNamespace ≠ Config.storedNamespace → ∀ request, ¬hub.Reaches request) ∧
    ∀ request, hub.Reaches request → ∃ config : Config, config.validate = none ∧
      Config.load (((request.run store).run { hub with media := hub.media.put store (mediumOf config) }).2.medium store) ≠
        Config.load (mediumOf config) := by
  refine ⟨fun requests apart => load_requests apart store, fun other request reaches => ?_,
    fun request reaches => load_of_reaches reaches store⟩
  cases request with
  | persist id => exact other reaches.1
  | setAndPersist id text => exact other reaches.1.1
  | saveAll =>
    obtain ⟨id, _, covers⟩ := reaches
    exact other covers.1
  | load | list => exact reaches

/-- A configuration that keeps the settings beside itself. -/
def sharingConfig : Config := { Config.standard with settingsNamespace := ⟨Config.storedNamespace, by decide⟩ }

/-- A hub with one setting, called like the slot of the configuration. -/
def sharingHub : Hub :=
  { fresh sharingConfig with
    cells := ⟨#[⟨Config.storedKey, .string, .string (Cell.terminated "x"), none⟩]⟩
    settingList := [0]
    media := [("flash", mediumOf sharingConfig)] }

theorem config_overwritten : sharingHub.config.validate = none ∧
    Config.load (sharingHub.medium "flash") = sharingHub.config ∧
    Config.load (((saveAll "flash").run.run sharingHub).2.medium "flash") = Config.standard ∧
    sharingHub.config ≠ Config.standard := by
  have valid : sharingConfig.validate = none := by decide +kernel
  have written : SettingsRequest.saveAll.written sharingHub = some [0x78] := by decide +kernel
  have lost := load_of_written written (show (sharingHub.medium "flash").plan = .none from rfl)
  exact ⟨valid, load_mediumOf valid, lost.trans (by decide +kernel), by decide +kernel⟩

end Hub

end LeafHub
