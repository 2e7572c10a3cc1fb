import LeafHub.Proofs.Hub.LoadPass
import LeafHub.Proofs.Hub.Saving

namespace LeafHub.Hub

/-- The settings are the same ones, and events have not been touched. -/
structure SameShape (hub after : Hub) : Prop where
  size : after.cells.size = hub.cells.size
  name : ∀ id, (after.cell id).name = (hub.cell id).name
  kind : ∀ id, (after.cell id).kind = (hub.cell id).kind
  event : ∀ id, (hub.cell id).kind = .event → after.cell id = hub.cell id
  flags : after.flags = hub.flags
  settingList : after.settingList = hub.settingList

theorem SameShape.findSetting {hub after : Hub} (same : hub.SameShape after) (key : String) :
    after.findSetting key = hub.findSetting key := by
  simp only [Hub.findSetting, Hub.findCell, Hub.listed, same.settingList, same.name]

/-- What entries may change: the settings that they name, where the kind can read the value. -/
structure Takes (entries : List Entry) (hub after : Hub) : Prop where
  shape : hub.SameShape after
  others : ∀ id, (∀ entry ∈ entries, hub.findSetting entry.key ≠ some id) → after.cell id = hub.cell id
  taken : ∀ entry ∈ entries, ∀ id value, hub.findSetting entry.key = some id → id < hub.cells.size →
    (hub.cell id).kind ≠ .event → (hub.cell id).kind.ofRaw entry.value = .ok value → after.value id = value

theorem Offered.sameShape {hub after : Hub} {entries : List Entry} (offered : hub.Offered entries after) :
    hub.SameShape after := by
  have events (id : CellId) (event : (hub.cell id).kind = .event) : after.cell id = hub.cell id :=
    offered.untouched id fun entry _ => taken?_of_event event entry
  refine ⟨offered.size, offered.name, offered.kind, events, ?_, ?_⟩
  · obtain ⟨cells, queues, journal, size, rfl⟩ := offered.rest
    rfl
  · obtain ⟨cells, queues, journal, size, rfl⟩ := offered.rest
    rfl

/-- Entries of different keys do not get in each other's way. -/
theorem Offered.takes {hub after : Hub} {entries : List Entry} (offered : hub.Offered entries after)
    (distinct : (entries.map Entry.key).Nodup) : Takes entries hub after where
  shape := offered.sameShape
  others := fun id apart => offered.untouched id fun entry member => taken?_of_other (apart entry member)
  taken := by
    intro entry member id value found known plain read
    obtain ⟨before, behind, rfl⟩ := List.append_of_mem member
    rw [List.map_append, List.map_cons] at distinct
    have fresh : entry.key ∉ behind.map Entry.key := (List.nodup_cons.mp (List.nodup_append.mp distinct).2.1).1
    have last : behind.filterMap (hub.taken? id) = [] := by
      refine List.filterMap_eq_nil_iff.mpr fun other there => taken?_of_other fun found' => fresh ?_
      have keys : other.key = entry.key := (name_of_findSetting found').symm.trans (name_of_findSetting found)
      exact keys ▸ List.mem_map_of_mem there
    rw [offered.value id known, List.filterMap_append,
      List.filterMap_cons_some (taken?_eq_some_iff.mpr ⟨found, plain, read⟩), last, List.getLast?_append]
    rfl

/-- A load reports, and takes over what is listed. -/
theorem run_loadSettings_of {store : String} {hub : Hub} {listed : List Entry}
    (answer : (hub.medium store).entries hub.settingsNamespace = .ok listed) (distinct : (listed.map Entry.key).Nodup) :
    ∃ report after, (loadSettings store).run.run hub = (.ok report, after) ∧ Takes listed hub after := by
  obtain ⟨report, after, ran, offered, _, _⟩ := offered_loadSettings answer
  exact ⟨report, after, ran, offered.takes distinct⟩

/-- A store that never fails is loaded as it is. -/
theorem run_loadSettings {store : String} {hub : Hub} {held : Store} {listed : List Entry}
    (holds : hub.Holds store held) (answer : held.entries hub.settingsNamespace = .ok listed)
    (distinct : (listed.map Entry.key).Nodup) :
    ∃ report after, (loadSettings store).run.run hub = (.ok report, after) ∧ Takes listed hub after :=
  run_loadSettings_of (by simp [Medium.entries, holds.plan, holds.store, answer, FaultPlan.none]) distinct

end LeafHub.Hub
