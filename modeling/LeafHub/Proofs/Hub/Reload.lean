import LeafHub.Proofs.Hub.Coherent
import LeafHub.Proofs.Hub.Loading
import LeafHub.Proofs.Hub.SavePass
import LeafHub.Proofs.Value.RawForm
import Mathlib.Data.List.Nodup

namespace LeafHub.Hub

theorem validNamespace_settingsNamespace {hub : Hub} (named : hub.settingsNamespace ≠ "") :
    Slot.validNamespace hub.settingsNamespace = true := by
  have short : hub.settingsNamespace.utf8ByteSize ≤ 15 := hub.config.settingsNamespace.fits
  have long : 0 < hub.settingsNamespace.utf8ByteSize := by
    refine Nat.pos_of_ne_zero fun empty => named ?_
    simpa using empty
  simp [Slot.validNamespace, Slot.nameLimit, short, long]

theorem mem_keptSettings {hub : Hub} {id : CellId} (listed : id ∈ hub.settingList)
    (plain : (hub.cell id).kind ≠ .event) :
    ((hub.cell id).name, (hub.value id).raw) ∈ hub.keptSettings :=
  List.mem_map.mpr ⟨id, List.mem_filter.mpr ⟨listed, by simpa using plain⟩, rfl⟩

theorem mem_names_keptSettings {hub : Hub} {key : String} : key ∈ hub.keptSettings.map Prod.fst ↔
    ∃ id ∈ hub.settingList, (hub.cell id).kind ≠ .event ∧ (hub.cell id).name = key := by
  simp [keptSettings, and_assoc]

theorem nodup_names_keptSettings {hub : Hub} (distinct : (hub.settingList.map fun id => (hub.cell id).name).Nodup) :
    (hub.keptSettings.map Prod.fst).Nodup := by
  have names : hub.keptSettings.map Prod.fst =
      (hub.settingList.filter fun id => (hub.cell id).kind ≠ .event).map fun id => (hub.cell id).name := by
    simp [keptSettings, Function.comp_def]
  rw [names]
  exact distinct.sublist (List.filter_sublist.map _)

theorem known_of_findSetting {hub : Hub} {key : String} {id : CellId} (found : hub.findSetting key = some id)
    (named : key ≠ "") : id < hub.cells.size := by
  rcases Nat.lt_or_ge id hub.cells.size with known | unknown
  · exact known
  · have nobody : hub.cell id = default := Pool.get_unknown unknown
    have name := name_of_findSetting found
    rw [nobody] at name
    exact absurd name.symm named

/-- What is saved from one hub is loaded into another. Strings lose one NUL at their end, and nothing else is lost or
changed, in the store or among the settings. -/
theorem settings_survive {a saved : Hub} {store : String} {requests : List Request} {written : Nat}
    (coherent : a.Coherent) (distinct : (a.settingList.map fun id => (a.cell id).name).Nodup)
    (named : a.settingsNamespace ≠ "") (holds : a.Holds store (Store.reached requests))
    (done : (saveAll store).run.run a = (.ok written, saved)) :
    written = (a.settingList.filter fun id => (a.cell id).kind ≠ .event).length ∧
    (∀ ns key, ¬(ns = a.settingsNamespace ∧ ∃ id ∈ a.settingList, (a.cell id).kind ≠ .event ∧ (a.cell id).name = key) →
      (saved.medium store).store.get? ns key = (Store.reached requests).get? ns key) ∧
    (∀ id ∈ a.settingList, (a.cell id).kind = .event → ∀ ns,
      (saved.medium store).store.get? ns (a.cell id).name = (Store.reached requests).get? ns (a.cell id).name) ∧
    ∀ (b : Hub) (target : String), b.medium target = saved.medium store →
      b.settingsNamespace = a.settingsNamespace →
      (∀ id ∈ a.settingList, (a.cell id).kind ≠ .event →
        ∃ other, b.findSetting (a.cell id).name = some other ∧ (b.cell other).kind = (a.cell id).kind) →
      ∃ report loaded, (loadSettings target).run.run b = (.ok report, loaded) ∧
        (∀ id ∈ a.settingList, (a.cell id).kind ≠ .event → ∀ other, b.findSetting (a.cell id).name = some other →
          loaded.value other = (a.value id).reloaded) ∧
        ∀ id, (b.cell id).kind = .event → loaded.value id = b.value id := by
  obtain ⟨count, _, valid, next, holds, sound, bound⟩ := run_saveAll (Store.sound_reached requests) holds done
  have untouched (ns key : String) (other : ¬(ns = a.settingsNamespace ∧ ∃ id ∈ a.settingList,
      (a.cell id).kind ≠ .event ∧ (a.cell id).name = key)) :
      (saved.medium store).store.get? ns key = (Store.reached requests).get? ns key := by
    rw [holds.store, bound]
    refine Bindings.afterAll_other (fun both => other ?_) _
    exact ⟨both.1, mem_names_keptSettings.mp both.2⟩
  refine ⟨by simpa [keptSettings] using count, untouched, ?_, ?_⟩
  · intro id listed event ns
    refine untouched ns _ fun both => ?_
    obtain ⟨_, other, listed', plain, same⟩ := both
    have one : id = other := List.inj_on_of_nodup_map distinct listed listed' same.symm
    exact plain (one ▸ event)
  · intro b target shared ns others
    have space := validNamespace_settingsNamespace named
    obtain ⟨listed, answer, keys, entries⟩ := sound.shows.entries space
    have holds' : b.Holds target next := ⟨by rw [shared, holds.store], by rw [shared, holds.plan]⟩
    obtain ⟨report, loaded, run, takes⟩ := run_loadSettings holds' (by rw [ns]; exact answer) keys
    refine ⟨report, loaded, run, fun id member plain other found => ?_, fun id event => ?_⟩
    · have kept := mem_keptSettings member plain
      have stored : next.get? a.settingsNamespace (a.cell id).name = some (a.value id).raw := by
        rw [bound]
        exact Bindings.afterAll_mem (nodup_names_keptSettings distinct) kept _
      have entry := (entries _ _).mpr stored
      obtain ⟨other', found', kind⟩ := others id member plain
      rw [found] at found'
      cases found'
      have known : other < b.cells.size := by
        refine known_of_findSetting found fun empty => ?_
        have short := valid _ kept
        simp [Store.validAddress, Slot.validKey, empty] at short
      refine takes.taken _ entry other _ found known (by rw [kind]; exact plain) ?_
      rw [kind, ← coherent.kind_value]
      exact Value.ofRaw_raw _
    · rw [Hub.value, Hub.value, takes.shape.event id event, takes.shape.flags]

/-- A hub with a text, a number under a long name and an event among its settings. -/
def sender : Hub :=
  { fresh .standard with
    cells := ⟨#[⟨"label", .string, .string (Cell.terminated "on\x00"), none⟩,
      ⟨"seconds_until_standby", .int32, .int32 (-5), none⟩, ⟨"wake", .event, .event 0, none⟩]⟩
    flags := ⟨#[3]⟩
    settingList := [0, 1, 2]
    media := [("flash", ⟨Store.reached [.write "app" "label" [7], .write "app" "left" [1]], .none, 0⟩)] }

/-- A hub with the same settings in another order and with other values, on the store that the first one left. -/
def receiver : Hub :=
  { fresh .standard with
    cells := ⟨#[⟨"wake", .event, .event 0, none⟩, ⟨"seconds_until_standby", .int32, .int32 0, none⟩,
      ⟨"label", .string, .string (Cell.terminated ""), none⟩]⟩
    flags := ⟨#[8]⟩
    settingList := [0, 1, 2]
    media := ((saveAll "flash").run.run sender).2.media }

theorem settings_survive_sender : ∃ report loaded, (loadSettings "flash").run.run receiver = (.ok report, loaded) ∧
    loaded.value 2 = .string "on" ∧ loaded.value 1 = .int32 (-5) ∧ loaded.value 0 = .event 8 := by
  have coherent : sender.Coherent := fun id => match id with
    | 0 | 1 | 2 => rfl
    | _ + 3 => rfl
  have saved : (saveAll "flash").run.run sender = (.ok 2, ((saveAll "flash").run.run sender).2) := Prod.ext (by rfl) rfl
  have survive := settings_survive coherent (by decide) (by decide) ⟨rfl, rfl⟩ saved
  have found : ∀ id ∈ sender.settingList, (sender.cell id).kind ≠ .event →
      ∃ other, receiver.findSetting (sender.cell id).name = some other ∧
        (receiver.cell other).kind = (sender.cell id).kind := by
    intro id listed plain
    have place : id = 0 ∨ id = 1 ∨ id = 2 := by simpa [sender] using listed
    rcases place with rfl | rfl | rfl
    · exact ⟨2, by decide +kernel, rfl⟩
    · exact ⟨1, by decide +kernel, rfl⟩
    · exact absurd rfl plain
  obtain ⟨report, loaded, run, values, events⟩ := survive.2.2.2 receiver "flash" rfl rfl found
  refine ⟨report, loaded, run, ?_, ?_, ?_⟩
  · exact (values 0 (by decide) (by decide) 2 (by decide +kernel)).trans (by rfl)
  · exact (values 1 (by decide) (by decide) 1 (by decide +kernel)).trans (by rfl)
  · exact (events 0 (by decide)).trans (by rfl)

end LeafHub.Hub
