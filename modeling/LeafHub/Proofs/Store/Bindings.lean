import LeafHub.Proofs.Store.Slots

namespace LeafHub

/-- A plain map from namespaces and keys to values. -/
abbrev Bindings := String → String → Option Bytes

/-- What changes a store. -/
inductive Request where
  | write (ns key : String) (value : Bytes)
  | delete (ns key : String)
  | erase (ns : String)
  deriving DecidableEq

namespace Bindings

def empty : Bindings := fun _ _ => none

/-- The map after a request that was granted. -/
def after (map : Bindings) : Request → Bindings
  | .write ns key value => fun space name => if space = ns ∧ name = key then some value else map space name
  | .delete ns key => fun space name => if space = ns ∧ name = key then none else map space name
  | .erase ns => fun space name => if space = ns then none else map space name

end Bindings

namespace Store

/-- The store after a request, if it is granted. -/
def serve (store : Store) : Request → Except StorageFault Store
  | .write ns key value => store.write ns key value
  | .delete ns key => store.delete ns key
  | .erase ns => store.erase ns

/-- The store after a request, granted or not. -/
def step (store : Store) (request : Request) : Store :=
  match store.serve request with
  | .ok after => after
  | .error _ => store

/-- What becomes of an empty store. -/
def reached (requests : List Request) : Store :=
  requests.foldl step .empty

theorem reached_append (past : List Request) (request : Request) :
    reached (past ++ [request]) = (reached past).step request := by
  simp [reached]

/-- The slots stand in order, and each keeps a value for a key in a namespace. -/
structure Sound (store : Store) : Prop where
  ordered : Slot.Ordered store.slots
  spaces : ∀ slot ∈ store.slots, Slot.validNamespace slot.ns = true
  kept : ∀ slot ∈ store.slots, ∃ key value, slot.Keeps key value

theorem Sound.empty : Store.empty.Sound where
  ordered := .nil
  spaces := by simp [Store.empty]
  kept := by simp [Store.empty]

theorem Sound.filter {store : Store} (sound : store.Sound) (keep : Slot → Bool) :
    (⟨store.slots.filter keep⟩ : Store).Sound where
  ordered := Slot.ordered_filter sound.ordered keep
  spaces := fun slot member => sound.spaces slot (List.mem_filter.mp member).1
  kept := fun slot member => sound.kept slot (List.mem_filter.mp member).1

theorem Sound.insert {store : Store} (sound : store.Sound) {ns key : String} (valid : validAddress ns key = true)
    (value : Bytes) : (⟨Slot.insert ns (Slot.nameOf key) (Slot.pack key value) store.slots⟩ : Store).Sound := by
  obtain ⟨space, short⟩ := Bool.and_eq_true_iff.mp valid
  refine ⟨Slot.ordered_insert sound.ordered _ _ _, fun slot member => ?_, fun slot member => ?_⟩
  · rcases (Slot.mem_insert sound.ordered).mp member with rfl | ⟨old, _⟩
    · exact space
    · exact sound.spaces slot old
  · rcases (Slot.mem_insert sound.ordered).mp member with rfl | ⟨old, _⟩
    · exact ⟨key, value, short, rfl, rfl⟩
    · exact sound.kept slot old

theorem Sound.blob?_eq_some_iff {store : Store} (sound : store.Sound) {ns name : String} {blob : Bytes} :
    store.blob? ns name = some blob ↔ ⟨ns, name, blob⟩ ∈ store.slots := by
  unfold blob?
  rw [Option.map_eq_some_iff]
  constructor
  · rintro ⟨slot, found, rfl⟩
    have here : slot.isAt ns name = true := by simpa using List.find?_some found
    obtain ⟨rfl, rfl⟩ := Slot.isAt_iff.mp here
    exact List.mem_of_find?_eq_some found
  · intro member
    cases found : store.slots.find? fun slot => slot.isAt ns name with
    | none =>
      have absent := List.find?_eq_none.mp found _ member
      simp [Slot.isAt] at absent
    | some slot =>
      have here : slot.isAt ns name = true := by simpa using List.find?_some found
      obtain ⟨space, level⟩ := Slot.isAt_iff.mp here
      have same := sound.ordered.unique (List.mem_of_find?_eq_some found) member space level
      exact ⟨slot, rfl, by rw [same]⟩

/-- A key is bound exactly if some slot keeps its value. -/
theorem Sound.get?_eq_some_iff {store : Store} (sound : store.Sound) {ns key : String} {value : Bytes} :
    store.get? ns key = some value ↔ ∃ slot ∈ store.slots, slot.ns = ns ∧ slot.Keeps key value := by
  unfold get?
  constructor
  · intro found
    split at found
    · rename_i blob held
      have member := sound.blob?_eq_some_iff.mp held
      obtain ⟨owner, whole, keeps⟩ := sound.kept _ member
      have read := keeps.valueOf? rfl
      rw [found] at read
      split at read
      · rename_i same
        cases read
        exact ⟨_, member, rfl, same ▸ keeps⟩
      · cases read
    · cases found
  · rintro ⟨slot, member, rfl, keeps⟩
    have held : store.blob? slot.ns (Slot.nameOf key) = some slot.blob := by
      rw [← keeps.name]
      exact sound.blob?_eq_some_iff.mpr member
    rw [held]
    show Slot.valueOf? key slot.blob = some value
    rw [keeps.valueOf? keeps.name, if_pos rfl]

theorem Sound.valid_of_get? {store : Store} (sound : store.Sound) {ns key : String} {value : Bytes}
    (bound : store.get? ns key = some value) : validAddress ns key = true := by
  obtain ⟨slot, member, rfl, keeps⟩ := sound.get?_eq_some_iff.mp bound
  exact Bool.and_eq_true_iff.mpr ⟨sound.spaces slot member, keeps.valid⟩

/-- A slot belongs to another key exactly if another key of the same slot name is bound. -/
theorem Sound.isTaken_iff {store : Store} (sound : store.Sound) {ns key : String} :
    store.isTaken ns key = true ↔
      ∃ other value, other ≠ key ∧ Slot.nameOf other = Slot.nameOf key ∧ store.get? ns other = some value := by
  unfold isTaken
  constructor
  · intro taken
    split at taken
    · rename_i blob held
      have member := sound.blob?_eq_some_iff.mp held
      obtain ⟨owner, whole, keeps⟩ := sound.kept _ member
      refine ⟨owner, whole, fun same => ?_, keeps.name.symm, sound.get?_eq_some_iff.mpr ⟨_, member, rfl, keeps⟩⟩
      rw [keeps.valueOf? rfl, if_pos same] at taken
      cases taken
    · cases taken
  · rintro ⟨other, value, apart, names, bound⟩
    obtain ⟨slot, member, rfl, keeps⟩ := sound.get?_eq_some_iff.mp bound
    have here : slot.name = Slot.nameOf key := keeps.name.trans names
    have held : store.blob? slot.ns (Slot.nameOf key) = some slot.blob := by
      rw [← here]
      exact sound.blob?_eq_some_iff.mpr member
    rw [held]
    show (Slot.valueOf? key slot.blob).isNone = true
    rw [keeps.valueOf? here, if_neg apart]
    rfl

theorem Sound.bindings_ext {store : Store} (sound : store.Sound) {space name : String} {found : Option Bytes}
    (same : ∀ value, (∃ slot ∈ store.slots, slot.ns = space ∧ slot.Keeps name value) ↔ found = some value) :
    store.get? space name = found :=
  Option.ext fun value => sound.get?_eq_some_iff.trans (same value)

/-- A granted write binds its key and no other. -/
theorem Sound.get?_insert {store : Store} (sound : store.Sound) {ns key : String}
    (valid : validAddress ns key = true) (free : store.isTaken ns key = false) (value : Bytes) :
    (⟨Slot.insert ns (Slot.nameOf key) (Slot.pack key value) store.slots⟩ : Store).get? =
      Bindings.after store.get? (.write ns key value) := by
  have new : (⟨ns, Slot.nameOf key, Slot.pack key value⟩ : Slot).Keeps key value :=
    ⟨(Bool.and_eq_true_iff.mp valid).2, rfl, rfl⟩
  funext space name
  refine (sound.insert valid value).bindings_ext fun other => ?_
  simp only [Slot.mem_insert sound.ordered, Bindings.after]
  split
  · rename_i same
    obtain ⟨rfl, rfl⟩ := same
    constructor
    · rintro ⟨slot, rfl | ⟨_, apart⟩, space, keeps⟩
      · rw [(new.unique keeps).2]
      · rw [Slot.isAt_iff.mpr ⟨space, keeps.name⟩] at apart
        cases apart
    · intro same
      cases same
      exact ⟨_, .inl rfl, rfl, new⟩
  · rename_i different
    rw [sound.get?_eq_some_iff]
    constructor
    · rintro ⟨slot, rfl | ⟨member, _⟩, rfl, keeps⟩
      · exact absurd ⟨rfl, (new.unique keeps).1.symm⟩ different
      · exact ⟨slot, member, rfl, keeps⟩
    · rintro ⟨slot, member, rfl, keeps⟩
      refine ⟨slot, .inr ⟨member, ?_⟩, rfl, keeps⟩
      rw [← Bool.not_eq_true]
      intro here
      obtain ⟨rfl, names⟩ := Slot.isAt_iff.mp here
      have bound := sound.get?_eq_some_iff.mpr ⟨slot, member, rfl, keeps⟩
      have taken := sound.isTaken_iff.mpr
        ⟨name, other, fun same => different ⟨rfl, same⟩, keeps.name.symm.trans names, bound⟩
      rw [free] at taken
      cases taken

section Filter

variable {store : Store} (sound : store.Sound) {keep : Slot → Bool} {space name : String}

include sound

/-- A key whose slot is taken out is bound no more. -/
theorem Sound.get?_filter_of_out
    (out : ∀ slot ∈ store.slots, slot.ns = space → ∀ value, slot.Keeps name value → keep slot = false) :
    (⟨store.slots.filter keep⟩ : Store).get? space name = none := by
  refine (sound.filter keep).bindings_ext fun value => iff_of_false ?_ nofun
  rintro ⟨slot, member, here, keeps⟩
  obtain ⟨member, kept⟩ := List.mem_filter.mp member
  rw [out slot member here value keeps] at kept
  cases kept

/-- A key whose slot stays is bound as before. -/
theorem Sound.get?_filter_of_kept
    (kept : ∀ slot ∈ store.slots, slot.ns = space → ∀ value, slot.Keeps name value → keep slot = true) :
    (⟨store.slots.filter keep⟩ : Store).get? space name = store.get? space name := by
  refine (sound.filter keep).bindings_ext fun value => ?_
  rw [sound.get?_eq_some_iff]
  constructor
  · rintro ⟨slot, member, here, keeps⟩
    exact ⟨slot, (List.mem_filter.mp member).1, here, keeps⟩
  · rintro ⟨slot, member, here, keeps⟩
    exact ⟨slot, List.mem_filter.mpr ⟨member, kept slot member here value keeps⟩, here, keeps⟩

end Filter

/-- Taking out the slot of a bound key unbinds that key and no other. -/
theorem Sound.get?_remove {store : Store} (sound : store.Sound) {ns key : String}
    (bound : (store.get? ns key).isSome = true) :
    (⟨store.slots.filter fun slot => !slot.isAt ns (Slot.nameOf key)⟩ : Store).get? =
      Bindings.after store.get? (.delete ns key) := by
  obtain ⟨value, bound⟩ := Option.isSome_iff_exists.mp bound
  obtain ⟨owned, present, rfl, owns⟩ := sound.get?_eq_some_iff.mp bound
  funext space name
  simp only [Bindings.after]
  split
  · rename_i same
    obtain ⟨rfl, rfl⟩ := same
    refine sound.get?_filter_of_out fun slot _ space value keeps => ?_
    rw [Slot.isAt_iff.mpr ⟨space, keeps.name⟩]
    rfl
  · rename_i different
    refine sound.get?_filter_of_kept fun slot member space other keeps => ?_
    rw [Bool.not_eq_true', ← Bool.not_eq_true]
    intro here
    obtain ⟨level, names⟩ := Slot.isAt_iff.mp here
    have same := sound.ordered.unique member present level (names.trans owns.name.symm)
    subst same
    exact different ⟨space.symm, (keeps.unique owns).1⟩

theorem Sound.get?_erase {store : Store} (sound : store.Sound) (ns : String) :
    (⟨store.slots.filter fun slot => slot.ns ≠ ns⟩ : Store).get? = Bindings.after store.get? (.erase ns) := by
  funext space name
  simp only [Bindings.after]
  split
  · rename_i same
    exact sound.get?_filter_of_out fun slot _ space _ _ => decide_eq_false (not_not_intro (space.trans same))
  · rename_i different
    exact sound.get?_filter_of_kept fun slot _ space _ _ => decide_eq_true fun here => different (space.symm.trans here)

/-- When a write is granted, and what it leaves behind. -/
theorem write_eq_ok_iff {store after : Store} {ns key : String} {value : Bytes} :
    store.write ns key value = .ok after ↔ validAddress ns key = true ∧ store.isTaken ns key = false ∧
      after = ⟨Slot.insert ns (Slot.nameOf key) (Slot.pack key value) store.slots⟩ := by
  unfold write
  split
  · rename_i valid
    split
    · rename_i taken
      simp [taken]
    · rename_i free
      simp [valid, free, eq_comm]
  · rename_i outside
    simp [outside]

/-- What a granted request does to a sound store. -/
theorem Sound.serve {store after : Store} (sound : store.Sound) {request : Request}
    (granted : store.serve request = .ok after) : after.Sound ∧ after.get? = Bindings.after store.get? request := by
  cases request with
  | write ns key value =>
    obtain ⟨valid, free, rfl⟩ := write_eq_ok_iff.mp granted
    exact ⟨sound.insert valid value, sound.get?_insert valid free value⟩
  | delete ns key =>
    simp only [Store.serve, Store.delete] at granted
    split at granted
    · split at granted
      · rename_i bound
        cases granted
        exact ⟨sound.filter _, sound.get?_remove bound⟩
      · rename_i unbound
        cases granted
        refine ⟨sound, ?_⟩
        funext space name
        simp only [Bindings.after]
        split
        · rename_i same
          obtain ⟨rfl, rfl⟩ := same
          simpa using unbound
        · rfl
    · cases granted
  | erase ns =>
    simp only [Store.serve, Store.erase] at granted
    split at granted
    · cases granted
      exact ⟨sound.filter _, sound.get?_erase ns⟩
    · cases granted

theorem Sound.step {store : Store} (sound : store.Sound) (request : Request) : (store.step request).Sound := by
  unfold Store.step
  split
  · rename_i granted
    exact (sound.serve granted).1
  · exact sound

theorem Sound.steps {store : Store} (sound : store.Sound) (requests : List Request) :
    (requests.foldl Store.step store).Sound := by
  induction requests generalizing store with
  | nil => exact sound
  | cons request rest ih => exact ih (sound.step request)

theorem sound_reached (requests : List Request) : (reached requests).Sound :=
  Sound.empty.steps requests

/-- A listing holds exactly the bound keys with their values. -/
theorem Sound.mem_entries_iff {store : Store} (sound : store.Sound) {ns : String} {listed : List Entry}
    (answer : store.entries ns = .ok listed) {key : String} {value : Bytes} :
    ⟨key, value⟩ ∈ listed ↔ store.get? ns key = some value := by
  unfold entries at answer
  split at answer
  · cases answer
    rw [sound.get?_eq_some_iff]
    simp only [List.mem_filterMap, List.mem_filter, decide_eq_true_eq]
    constructor
    · rintro ⟨slot, ⟨member, space⟩, shown⟩
      obtain ⟨owner, whole, keeps⟩ := sound.kept slot member
      rw [keeps.entryOf?] at shown
      cases shown
      exact ⟨slot, member, space, keeps⟩
    · rintro ⟨slot, member, space, keeps⟩
      exact ⟨slot, ⟨member, space⟩, keeps.entryOf?⟩
  · cases answer

/-- No key is listed twice. -/
theorem Sound.nodup_entries {store : Store} (sound : store.Sound) {ns : String} {listed : List Entry}
    (answer : store.entries ns = .ok listed) : (listed.map Entry.key).Nodup := by
  unfold entries at answer
  split at answer
  · cases answer
    rw [List.Nodup, List.pairwise_map, List.pairwise_filterMap]
    refine (Slot.ordered_filter sound.ordered _).imp_of_mem fun {first second} one two before => ?_
    simp only [List.mem_filter, decide_eq_true_eq] at one two
    intro left shownLeft right shownRight same
    obtain ⟨key, value, keeps⟩ := sound.kept first one.1
    obtain ⟨other, another, also⟩ := sound.kept second two.1
    rw [keeps.entryOf?] at shownLeft
    rw [also.entryOf?] at shownRight
    cases shownLeft
    cases shownRight
    have apart := Slot.not_isAt_of_isBefore before
    have names : first.name = second.name := keeps.name.trans ((congrArg Slot.nameOf same).trans also.name.symm)
    rw [Slot.isAt_iff.mpr ⟨one.2.trans two.2.symm, names⟩] at apart
    cases apart
  · cases answer

/-- Everything that a store answers is what a plain map holds. -/
structure Shows (store : Store) (map : Bindings) : Prop where
  /-- Only valid keys are bound. -/
  valid : ∀ {ns key value}, map ns key = some value → validAddress ns key = true
  contains_iff : ∀ {ns key}, validAddress ns key = true → (store.contains ns key = true ↔ (map ns key).isSome = true)
  read_unbound : ∀ {ns key} limit, validAddress ns key = true →
    (store.read ns key limit = .error .notFound ↔ map ns key = none)
  read_bound : ∀ {ns key value} limit, map ns key = some value →
    store.read ns key limit = .ok (value.take (min value.length limit))
  entries : ∀ {ns}, Slot.validNamespace ns = true → ∃ listed, store.entries ns = .ok listed ∧
    (listed.map Entry.key).Nodup ∧ ∀ key value, ⟨key, value⟩ ∈ listed ↔ map ns key = some value
  /-- A valid write is refused only if another hashed key has the slot, and then the store counts as full. -/
  write_refused : ∀ {ns key} value fault, validAddress ns key = true →
    (store.write ns key value = .error fault ↔ fault = .full ∧ ∃ other, other ≠ key ∧
      Slot.isHashed key = true ∧ Slot.nameOf other = Slot.nameOf key ∧ (map ns other).isSome = true)
  delete_granted : ∀ {ns key}, validAddress ns key = true → ∃ after, store.delete ns key = .ok after
  erase_granted : ∀ {ns}, Slot.validNamespace ns = true → ∃ after, store.erase ns = .ok after
  /-- What is no key of a namespace is never held, and asking for it is an error of its own. -/
  outside : ∀ {ns key}, validAddress ns key = false → store.contains ns key = false ∧
    (∀ limit, store.read ns key limit = .error .keyTooLong) ∧
    (∀ value, store.write ns key value = .error .keyTooLong) ∧ store.delete ns key = .error .keyTooLong

theorem Sound.write_refused {store : Store} (sound : store.Sound) {ns key : String}
    (valid : validAddress ns key = true) (value : Bytes) (fault : StorageFault) :
    store.write ns key value = .error fault ↔ fault = .full ∧ ∃ other, other ≠ key ∧
      Slot.isHashed key = true ∧ Slot.nameOf other = Slot.nameOf key ∧ (store.get? ns other).isSome = true := by
  have reason : store.write ns key value = .error fault ↔ fault = .full ∧ store.isTaken ns key = true := by
    unfold write
    rw [if_pos valid]
    split
    · rename_i taken
      simp [taken, eq_comm]
    · rename_i free
      simp [free]
  rw [reason, sound.isTaken_iff]
  constructor
  · rintro ⟨full, other, held, apart, names, bound⟩
    exact ⟨full, other, apart, Slot.isHashed_of_shared names apart, names, Option.isSome_iff_exists.mpr ⟨held, bound⟩⟩
  · rintro ⟨full, other, apart, _, names, bound⟩
    obtain ⟨held, bound⟩ := Option.isSome_iff_exists.mp bound
    exact ⟨full, other, held, apart, names, bound⟩

theorem Sound.shows {store : Store} (sound : store.Sound) : store.Shows store.get? where
  valid := sound.valid_of_get?
  contains_iff := fun valid => by simp [contains, valid]
  read_unbound := fun limit valid => by
    simp only [read, valid, if_true]
    split <;> simp_all
  read_bound := fun limit bound => by
    rw [Nat.min_comm, ← List.take_eq_take_min]
    simp only [read, sound.valid_of_get? bound, if_true, bound]
  entries := fun {ns} valid => by
    have answer : store.entries ns = .ok ((store.slots.filter fun slot => slot.ns = ns).filterMap entryOf?) := by
      simp [entries, valid]
    exact ⟨_, answer, sound.nodup_entries answer, fun key value => sound.mem_entries_iff answer⟩
  write_refused := fun value fault valid => sound.write_refused valid value fault
  delete_granted := fun valid => by
    unfold delete
    rw [if_pos valid]
    split <;> exact ⟨_, rfl⟩
  erase_granted := fun valid => by
    unfold erase
    rw [if_pos valid]
    exact ⟨_, rfl⟩
  outside := fun outside => by simp [contains, read, write, delete, outside]

/-- A store refines a plain map: whatever was asked of it since it was empty, there is a map that the granted
requests have changed as they say and the refused ones have not, and every answer can be read off it. -/
theorem refines_bindings : ∃ held : List Request → Bindings, held [] = .empty ∧
    (∀ past request after, (reached past).serve request = .ok after →
      reached (past ++ [request]) = after ∧ held (past ++ [request]) = (held past).after request) ∧
    (∀ past request fault, (reached past).serve request = .error fault →
      reached (past ++ [request]) = reached past ∧ held (past ++ [request]) = held past) ∧
    ∀ past, (reached past).Shows (held past) := by
  refine ⟨fun past => (reached past).get?, rfl, ?_, ?_, fun past => (sound_reached past).shows⟩
  · intro past request after granted
    have next : reached (past ++ [request]) = after := by
      rw [reached_append, Store.step, granted]
    refine ⟨next, ?_⟩
    show (reached (past ++ [request])).get? = Bindings.after (reached past).get? request
    rw [next]
    exact ((sound_reached past).serve granted).2
  · intro past request fault refused
    have next : reached (past ++ [request]) = reached past := by
      rw [reached_append, Store.step, refused]
    exact ⟨next, congrArg Store.get? next⟩

end Store

end LeafHub
