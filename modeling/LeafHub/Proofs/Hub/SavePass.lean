import LeafHub.Proofs.Hub.Port

namespace LeafHub

namespace Bindings

variable {ns : String}

theorem afterAll_append (map : Bindings) (entries more : List (String × Bytes)) :
    map.afterAll ns (entries ++ more) = (map.afterAll ns entries).afterAll ns more :=
  List.foldl_append ..

/-- Among writes to one key the last one stays. -/
theorem afterAll_last (map : Bindings) (before : List (String × Bytes)) {later : List (String × Bytes)} {name : String}
    (raw : Bytes) (last : name ∉ later.map Prod.fst) :
    map.afterAll ns (before ++ (name, raw) :: later) ns name = some raw := by
  rw [afterAll_append]
  refine (afterAll_other (fun both => last both.2) _).trans ?_
  exact if_pos ⟨rfl, rfl⟩

end Bindings

namespace Port

/-- The answers to writes that are asked for one after the other, and the media afterwards. -/
def asked (port : Port) (ns : String) :
    List (String × Bytes) → Directory Medium → List (Except StorageFault Unit) × Directory Medium
  | [], media => ([], media)
  | (name, raw) :: rest, media =>
    let (answer, between) := port.write ns name raw media
    let (answers, after) := port.asked ns rest between
    (answer :: answers, after)

/-- The entries whose writes were granted. -/
def grantedOf (entries : List (String × Bytes)) (answers : List (Except StorageFault Unit)) : List (String × Bytes) :=
  ((entries.zip answers).filter fun entry => entry.2.isOk).map Prod.fst

/-- The last fault among these answers, and an earlier one if there is none. -/
def lastFault (answers : List (Except StorageFault Unit)) (earlier : Except Fault Unit) : Except Fault Unit :=
  answers.foldl (fun last answer =>
    match answer with
    | .ok () => last
    | .error fault => .error (.storage fault)) earlier

section Answers

variable (port : Port) (ns : String) {entries : List (String × Bytes)} {media : Directory Medium}

theorem length_asked : (port.asked ns entries media).1.length = entries.length := by
  induction entries generalizing media with
  | nil => rfl
  | cons entry rest ih => exact congrArg (· + 1) ih

/-- What no write of the port changes, no row of writes changes. -/
theorem asked_keeps (Kept : Directory Medium → Prop) (kept : Kept media)
    (write : ∀ {media} name raw, Kept media → Kept (port.write ns name raw media).2) :
    Kept (port.asked ns entries media).2 := by
  induction entries generalizing media with
  | nil => exact kept
  | cons entry rest ih => exact ih (write entry.1 entry.2 kept)

/-- What the port holds in the end is due to the granted writes alone. -/
theorem bindings_asked (sound : port.Sound media) : port.bindings (port.asked ns entries media).2 =
    (port.bindings media).afterAll ns (grantedOf entries (port.asked ns entries media).1) := by
  induction entries generalizing media with
  | nil => rfl
  | cons entry rest ih =>
    obtain ⟨name, raw⟩ := entry
    refine (ih (port.sound_write ns name raw sound)).trans ?_
    simp only [asked, grantedOf, List.zip_cons_cons]
    cases answer : (port.write ns name raw media).1 with
    | ok done =>
      rw [port.granted sound answer]
      rfl
    | error fault =>
      rw [port.refused sound answer]
      rfl

theorem lastFault_ok_iff {answers : List (Except StorageFault Unit)} {earlier : Except Fault Unit} :
    lastFault answers earlier = .ok () ↔ (∀ answer ∈ answers, answer = .ok ()) ∧ earlier = .ok () := by
  induction answers generalizing earlier with
  | nil => simp [lastFault]
  | cons answer rest ih =>
    refine ih.trans ?_
    cases answer with
    | ok done => simp
    | error fault => simp

/-- The fault that is reported is the last one, whatever there was before it. -/
theorem lastFault_error_iff {answers : List (Except StorageFault Unit)} {earlier : Except Fault Unit} {fault : Fault} :
    lastFault answers earlier = .error fault ↔
      (∃ before refusal later, answers = before ++ .error refusal :: later ∧ (∀ answer ∈ later, answer = .ok ()) ∧
        fault = .storage refusal) ∨ ((∀ answer ∈ answers, answer = .ok ()) ∧ earlier = .error fault) := by
  induction answers generalizing earlier with
  | nil => simp [lastFault]
  | cons answer rest ih =>
    refine ih.trans ⟨?_, ?_⟩
    · rintro (⟨before, refusal, later, rfl, granted, rfl⟩ | ⟨granted, last⟩)
      · exact .inl ⟨answer :: before, refusal, later, rfl, granted, rfl⟩
      · cases answer with
        | ok done => exact .inr ⟨by simpa using granted, last⟩
        | error refusal => exact .inl ⟨[], refusal, rest, rfl, granted, (Except.error.inj last).symm⟩
    · rintro (⟨before, refusal, later, split, granted, rfl⟩ | ⟨granted, last⟩)
      · cases before with
        | nil =>
          obtain ⟨rfl, rfl⟩ := List.cons.inj split
          exact .inr ⟨granted, rfl⟩
        | cons first before =>
          obtain ⟨rfl, rfl⟩ := List.cons.inj split
          exact .inl ⟨before, refusal, later, rfl, granted, rfl⟩
      · obtain ⟨rfl, others⟩ := List.forall_mem_cons.mp granted
        exact .inr ⟨others, last⟩

theorem grantedOf_of_all {answers : List (Except StorageFault Unit)} (length : answers.length = entries.length)
    (granted : ∀ answer ∈ answers, answer = .ok ()) : grantedOf entries answers = entries := by
  have all : (entries.zip answers).filter (fun entry => entry.2.isOk) = entries.zip answers :=
    List.filter_eq_self.mpr fun entry member => by rw [granted _ (List.of_mem_zip member).2]; rfl
  rw [grantedOf, all, List.map_fst_zip (Nat.le_of_eq length.symm)]

/-- Without a refusal all writes are counted. -/
theorem countP_isOk {answers : List (Except StorageFault Unit)} (granted : ∀ answer ∈ answers, answer = .ok ()) :
    answers.countP Except.isOk = answers.length :=
  List.countP_eq_length.mpr fun answer member => by rw [granted answer member]; rfl

end Answers

/-- Writes a setting, as a pass over all of them does. -/
def keep (port : Port) (ns name : String) (raw : Bytes) : Act (Except Fault Unit) := do
  match ← port.ask ns name raw with
  | .ok () => return .ok ()
  | .error fault => return .error (.storage fault)

/-- Writes every setting that can be kept and returns how many were written. -/
def saveAll (port : Port) : Attempt Nat := do
  let ns := (← get).settingsNamespace
  let (written, last) ← Hub.exportSettings (port.keep ns)
  Hub.log .info s!"saved {written} settings"
  match last with
  | .ok () => return written
  | .error fault => throw fault

theorem saveAll_ofMedium (store : String) : (ofMedium store).saveAll = Hub.saveAll store := by
  unfold saveAll Hub.saveAll keep
  exact ask_ofMedium store ▸ rfl

open Hub

theorem run_keep (port : Port) (ns name : String) (raw : Bytes) (hub : Hub) : (port.keep ns name raw).run hub =
    ((port.write ns name raw hub.media).1.mapError .storage,
      hub.withMedia (port.write ns name raw hub.media).2 (port.lines ns name raw hub.media)) := by
  unfold keep
  rw [Act.run_bind_of (run_ask port ns name raw hub)]
  cases (port.write ns name raw hub.media).1 <;> rfl

/-- Offers made to a port one after the other come to the writes of the settings that can be kept. -/
theorem run_offerSettings (port : Port) (ns : String) (ids : List CellId) (taken : Nat) (last : Except Fault Unit)
    (hub : Hub) : ∃ after, (offerSettings (port.keep ns) ids taken last).run hub =
      ((taken + (port.asked ns (hub.kept ids) hub.media).1.countP Except.isOk,
        lastFault (port.asked ns (hub.kept ids) hub.media).1 last), after) ∧
      hub.OnlyMedia (port.asked ns (hub.kept ids) hub.media).2 after := by
  induction ids generalizing taken last hub with
  | nil => exact ⟨hub, rfl, onlyMedia_refl hub⟩
  | cons id rest ih =>
    -- A write changes no setting, so the rest of the pass offers what was there at its beginning.
    have later {media : Directory Medium} {between : Hub} (only : hub.OnlyMedia media between) (taken : Nat)
        (last : Except Fault Unit) : ∃ after, (offerSettings (port.keep ns) rest taken last).run between =
          ((taken + (port.asked ns (hub.kept rest) media).1.countP Except.isOk,
            lastFault (port.asked ns (hub.kept rest) media).1 last), after) ∧
          hub.OnlyMedia (port.asked ns (hub.kept rest) media).2 after := by
      obtain ⟨after, done, written⟩ := ih taken last between
      rw [only.sameSettings.kept, only.media] at done written
      exact ⟨after, done, only.trans written⟩
    unfold offerSettings
    rw [Act.run_bind_of (Act.run_get hub)]
    dsimp only
    split
    · rename_i event
      have skipped : hub.kept (id :: rest) = hub.kept rest := by simp [kept, event]
      rw [Act.run_bind_of (run_log hub _ _), skipped]
      exact later (onlyMedia_withLines hub _) taken last
    · rename_i other
      have first : hub.kept (id :: rest) = ((hub.cell id).name, (hub.value id).raw) :: hub.kept rest := by
        simp [kept, other]
      rw [first, Act.run_bind_of (run_keep port ns _ _ hub)]
      have only := onlyMedia_withMedia hub (port.write ns (hub.cell id).name (hub.value id).raw hub.media).2
        (port.lines ns (hub.cell id).name (hub.value id).raw hub.media)
      simp only [asked]
      cases (port.write ns (hub.cell id).name (hub.value id).raw hub.media).1 with
      | ok done =>
        obtain ⟨after, done, only⟩ := later only (taken + 1) last
        refine ⟨after, ?_, only⟩
        rw [List.countP_cons_of_pos rfl, ← Nat.add_assoc, Nat.add_right_comm taken _ 1]
        exact done
      | error fault =>
        dsimp only [Except.mapError]
        rw [Act.run_bind_of (run_log _ _ _), List.countP_cons_of_neg Bool.false_ne_true]
        exact later (only.logged _) taken (.error (.storage fault))

theorem run_saveAll (port : Port) (hub : Hub) : ∃ after, port.saveAll.run.run hub =
    (match lastFault (port.asked hub.settingsNamespace hub.keptSettings hub.media).1 (.ok ()) with
      | .ok () => .ok ((port.asked hub.settingsNamespace hub.keptSettings hub.media).1.countP Except.isOk)
      | .error fault => .error fault, after) ∧
    hub.OnlyMedia (port.asked hub.settingsNamespace hub.keptSettings hub.media).2 after := by
  obtain ⟨between, offered, only⟩ := run_offerSettings port hub.settingsNamespace hub.settingList 0 (.ok ())
    (hub.withLines [(.info, s!"export keys under {hub.settingsNamespace} handler")])
  have exported : (exportSettings (port.keep hub.settingsNamespace)).run hub =
      ((0 + (port.asked hub.settingsNamespace hub.keptSettings hub.media).1.countP Except.isOk,
        lastFault (port.asked hub.settingsNamespace hub.keptSettings hub.media).1 (.ok ())), between) := by
    unfold exportSettings
    rw [Act.run_bind_of (Act.run_get hub), Act.run_bind_of (run_log hub _ _)]
    exact offered
  unfold saveAll
  rw [Attempt.run_bind_of (Attempt.run_get hub), Attempt.run_lift_of exported, Nat.zero_add]
  dsimp only
  rw [Attempt.run_lift_of (run_log between _ _)]
  have whole := (onlyMedia_withLines hub _).trans only
  cases lastFault (port.asked hub.settingsNamespace hub.keptSettings hub.media).1 (.ok ()) with
  | ok done => exact ⟨_, rfl, whole.logged _⟩
  | error fault => exact ⟨_, rfl, whole.logged _⟩

/-- A medium grants no write to an address that is not valid. -/
theorem valid_of_granted {store ns : String} {entries : List (String × Bytes)} {media : Directory Medium}
    (granted : ∀ answer ∈ ((ofMedium store).asked ns entries media).1, answer = .ok ()) :
    ∀ entry ∈ entries, Store.validAddress ns entry.1 = true := by
  induction entries generalizing media with
  | nil => nofun
  | cons entry rest ih =>
    obtain ⟨first, later⟩ := List.forall_mem_cons.mp granted
    exact List.forall_mem_cons.mpr ⟨(Store.write_eq_ok_iff.mp (Medium.write_of_ok first)).1, ih later⟩

end Port

/-- A pass that ends well, on a medium that never fails by itself, has written all settings that can be kept. -/
theorem Hub.run_saveAll {store : String} {written : Nat} {hub after : Hub} {held : Store} (sound : held.Sound)
    (holds : hub.Holds store held) (done : (saveAll store).run.run hub = (.ok written, after)) :
    written = hub.keptSettings.length ∧ hub.SameSettings after ∧
      (∀ entry ∈ hub.keptSettings, Store.validAddress hub.settingsNamespace entry.1 = true) ∧
      ∃ next, after.Holds store next ∧ next.Sound ∧
        next.get? = Bindings.afterAll held.get? hub.settingsNamespace hub.keptSettings := by
  obtain ⟨rfl, works⟩ := holds
  obtain ⟨ending, passed, only⟩ := (Port.ofMedium store).run_saveAll hub
  rw [Port.saveAll_ofMedium, done] at passed
  obtain ⟨answered, rfl⟩ := Prod.mk.inj passed
  have sound : (Port.ofMedium store).Sound hub.media := sound
  split at answered
  · rename_i all
    obtain ⟨granted, _⟩ := Port.lastFault_ok_iff.mp all
    have length : ((Port.ofMedium store).asked hub.settingsNamespace hub.keptSettings hub.media).1.length = _ :=
      (Port.ofMedium store).length_asked hub.settingsNamespace
    have bound : _ = ((Port.ofMedium store).bindings hub.media).afterAll _ (Port.grantedOf hub.keptSettings _) :=
      (Port.ofMedium store).bindings_asked hub.settingsNamespace sound
    rw [Port.grantedOf_of_all length granted, ← only.media] at bound
    have sound : (Port.ofMedium store).Sound after.media :=
      only.media ▸ (Port.ofMedium store).asked_keeps _ _ sound ((Port.ofMedium store).sound_write _)
    have plan : (after.medium store).plan = .none := by
      rw [medium, only.media]
      refine (Port.ofMedium store).asked_keeps _ (fun media => ((media.get? store).getD .empty).plan = .none) works
        fun name raw kept => ?_
      simp only [Port.ofMedium, Directory.get?_put_same, Option.getD_some, Medium.plan_write]
      exact kept
    refine ⟨?_, only.sameSettings, Port.valid_of_granted granted, _, ⟨rfl, plan⟩, sound, ?_⟩
    · rw [Except.ok.inj answered, Port.countP_isOk granted, length]
    · exact bound
  · cases answered

namespace Port

open Hub

/-- What a pass over all settings comes to. Each setting that can be kept is written once, in order of registration,
and the port answers each of those writes. -/
structure Saves (port : Port) (hub : Hub) (answers : List (Except StorageFault Unit)) (result : Except Fault Nat)
    (after : Hub) : Prop where
  /-- The pass makes exactly these writes, and else there is nothing but lines in the log. -/
  writes : ∃ media, port.asked hub.settingsNamespace hub.keptSettings hub.media = (answers, media) ∧
    hub.OnlyMedia media after
  answered : answers.length = hub.keptSettings.length
  ok_iff : ∀ written, result = .ok written ↔
    (∀ answer ∈ answers, answer = .ok ()) ∧ written = hub.keptSettings.length
  error_iff : ∀ fault, result = .error fault ↔ ∃ before refusal later, answers = before ++ .error refusal :: later ∧
    (∀ answer ∈ later, answer = .ok ()) ∧ fault = .storage refusal
  /-- A name with a granted write holds what the last of them wrote. -/
  bound : ∀ before name raw later, grantedOf hub.keptSettings answers = before ++ (name, raw) :: later →
    name ∉ later.map Prod.fst → port.bindings after.media hub.settingsNamespace name = some raw
  others : ∀ space name, ¬(space = hub.settingsNamespace ∧ name ∈ (grantedOf hub.keptSettings answers).map Prod.fst) →
    port.bindings after.media space name = port.bindings hub.media space name
  values : ∀ id, after.value id = hub.value id
  queues : after.queues = hub.queues

/-- A pass over all settings writes past every refusal, on every port; and a store of the hub is such a port, which
is saved to in this way. -/
theorem saveAll_past_refusals : (∀ store, (ofMedium store).saveAll = Hub.saveAll store) ∧
    ∀ (port : Port) (hub : Hub), port.Sound hub.media →
      ∃ answers, port.Saves hub answers (port.saveAll.run.run hub).1 (port.saveAll.run.run hub).2 := by
  refine ⟨saveAll_ofMedium, fun port hub sound => ?_⟩
  obtain ⟨after, done, only⟩ := port.run_saveAll hub
  have held : port.bindings (port.asked hub.settingsNamespace hub.keptSettings hub.media).2 = _ :=
    port.bindings_asked hub.settingsNamespace sound
  have answered : (port.asked hub.settingsNamespace hub.keptSettings hub.media).1.length = _ :=
    port.length_asked hub.settingsNamespace
  generalize both : port.asked hub.settingsNamespace hub.keptSettings hub.media = asked at done only held answered
  obtain ⟨answers, media⟩ := asked
  rw [done]
  replace held : port.bindings after.media = _ := (congrArg port.bindings only.media).trans held
  refine ⟨answers, ⟨media, both, only⟩, answered, fun written => ?_, fun fault => ?_,
    fun before name raw later split last => ?_, fun space name other => ?_, only.sameSettings.value, ?_⟩
  · cases last : lastFault answers (.ok ()) with
    | ok all =>
      obtain ⟨granted, _⟩ := lastFault_ok_iff.mp last
      dsimp only
      rw [countP_isOk granted, ← answered]
      exact ⟨fun same => ⟨granted, (Except.ok.inj same).symm⟩, fun both => congrArg _ both.2.symm⟩
    | error fault =>
      refine ⟨nofun, fun all => ?_⟩
      rw [lastFault_ok_iff.mpr ⟨all.1, rfl⟩] at last
      cases last
  · have reported : lastFault answers (.ok ()) = .error fault ↔ _ := lastFault_error_iff
    simp only [reduceCtorEq, and_false, or_false] at reported
    rw [← reported]
    cases lastFault answers (.ok ()) <;> simp
  · rw [held, split]
    exact Bindings.afterAll_last _ before raw last
  · rw [held]
    exact Bindings.afterAll_other other _
  · obtain ⟨lines, rfl⟩ := only
    rfl

/-- The second and the third write fail. -/
def shortage : FaultPlan :=
  { FaultPlan.none with write := fun number _ => [none, some .ioError, some .full].getD number none }

/-- Two settings of one name, an event and another setting. -/
def twins : Hub :=
  { ((do
      discard (addSetting "a" (.byte 1))
      discard (addSetting "e" (.event 1))
      discard (addSetting "b" (.bool true))
      discard (addSetting "a" (.byte 2)) : Act Unit).run (fresh .standard)).2 with
    media := [("nvs", { Medium.empty with plan := shortage })] }

/-- The first setting of the name is in the store, and the last fault is reported. -/
theorem saveAll_past_refusals_twins : ((Hub.saveAll "nvs").run.run twins).1 = .error (.storage .full) ∧
    (ofMedium "nvs").bindings ((Hub.saveAll "nvs").run.run twins).2.media "app" "a" = some [1] ∧
    (ofMedium "nvs").bindings ((Hub.saveAll "nvs").run.run twins).2.media "app" "b" = none := by
  have sound : (ofMedium "nvs").Sound twins.media := Store.Sound.empty
  obtain ⟨answers, saves⟩ := saveAll_past_refusals.2 (ofMedium "nvs") twins sound
  have kept : twins.keptSettings = [("a", [1]), ("b", [1]), ("a", [2])] := by decide +kernel
  have space : twins.settingsNamespace = "app" := by decide +kernel
  have answered : ((ofMedium "nvs").asked "app" [("a", [1]), ("b", [1]), ("a", [2])] twins.media).1 =
      [.ok (), .error .ioError, .error .full] := by decide +kernel
  obtain ⟨media, asked, _⟩ := saves.writes
  rw [kept, space] at asked
  rw [asked] at answered
  cases answered
  rw [saveAll_past_refusals.1 "nvs"] at saves
  refine ⟨(saves.error_iff _).mpr ⟨[.ok (), .error .ioError], .full, [], rfl, by simp, rfl⟩, ?_, ?_⟩
  · rw [← space]
    exact saves.bound [] "a" [1] [] (by rw [kept]; rfl) (by simp)
  · refine (saves.others _ _ ?_).trans (by decide +kernel)
    rw [kept]
    rintro ⟨_, member⟩
    revert member
    decide

end Port

end LeafHub
