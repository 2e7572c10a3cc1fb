import LeafHub.Proofs.Hub.AllOrNothing

namespace LeafHub

namespace Hub

theorem name_of_findSetting {hub : Hub} {key : String} {id : CellId} (found : hub.findSetting key = some id) :
    (hub.cell id).name = key := by
  simpa using List.find?_some found

/-- The value that a cell takes from an entry. Event settings take none. -/
def taken? (hub : Hub) (id : CellId) (entry : Entry) : Option Value :=
  if hub.findSetting entry.key = some id ∧ (hub.cell id).kind ≠ .event then
    ((hub.cell id).kind.ofRaw entry.value).toOption
  else none

theorem taken?_eq_some_iff {hub : Hub} {id : CellId} {entry : Entry} {value : Value} :
    hub.taken? id entry = some value ↔ hub.findSetting entry.key = some id ∧ (hub.cell id).kind ≠ .event ∧
      (hub.cell id).kind.ofRaw entry.value = .ok value := by
  unfold taken?
  split
  · rename_i named
    cases (hub.cell id).kind.ofRaw entry.value <;> simp [named, Except.toOption]
  · rename_i other
    constructor
    · intro none
      cases none
    · rintro ⟨found, plain, _⟩
      exact absurd ⟨found, plain⟩ other

theorem taken?_of_other {hub : Hub} {id : CellId} {entry : Entry} (other : hub.findSetting entry.key ≠ some id) :
    hub.taken? id entry = none :=
  if_neg fun named => other named.1

theorem taken?_of_event {hub : Hub} {id : CellId} (event : (hub.cell id).kind = .event) (entry : Entry) :
    hub.taken? id entry = none :=
  if_neg fun named => named.2 event

/-- A cell takes what the mutation asks for. -/
theorem taken?_of_found {hub : Hub} {id : CellId} {entry : Entry} (found : hub.findSetting entry.key = some id) :
    hub.taken? id entry = (Mutation.handleSet entry.key entry.value).value? hub id := by
  have asks : (Mutation.handleSet entry.key entry.value).value? hub id =
    if (hub.cell id).kind = .event then none else ((hub.cell id).kind.ofRaw entry.value).toOption := rfl
  rw [asks]
  by_cases event : (hub.cell id).kind = .event
  · rw [taken?_of_event event, if_pos event]
  · rw [if_neg event]
    exact if_pos ⟨found, event⟩

/-- What offering entries may do: cells take the last value that there is for them, and nothing else is different but queues and
journal. -/
structure Offered (hub : Hub) (entries : List Entry) (after : Hub) : Prop where
  form : ∀ id, ∃ payload, after.cell id = { hub.cell id with payload }
  untouched : ∀ id, (∀ entry ∈ entries, hub.taken? id entry = none) → after.cell id = hub.cell id
  value : ∀ id < hub.cells.size,
    after.value id = (entries.filterMap (hub.taken? id)).getLast?.getD (hub.value id)
  rest : ∃ cells queues journal, cells.size = hub.cells.size ∧ after = { hub with cells, queues, journal }

theorem Requeued.offered {hub after : Hub} (requeued : hub.Requeued after) : hub.Offered [] after := by
  obtain ⟨queues, journal, rfl⟩ := requeued
  exact ⟨fun id => ⟨_, rfl⟩, fun _ _ => rfl, fun _ _ => rfl, hub.cells, queues, journal, rfl, rfl⟩

theorem OnlyLogged.requeued {hub after : Hub} (only : hub.OnlyLogged after) : hub.Requeued after := by
  obtain ⟨lines, rfl⟩ := only
  exact ⟨hub.queues, _, rfl⟩

namespace Offered

variable {hub between after : Hub} {entries more : List Entry}

theorem name (offered : hub.Offered entries after) (id : CellId) : (after.cell id).name = (hub.cell id).name := by
  obtain ⟨payload, same⟩ := offered.form id
  rw [same]

theorem kind (offered : hub.Offered entries after) (id : CellId) : (after.cell id).kind = (hub.cell id).kind := by
  obtain ⟨payload, same⟩ := offered.form id
  rw [same]

theorem size (offered : hub.Offered entries after) : after.cells.size = hub.cells.size := by
  obtain ⟨cells, queues, journal, size, rfl⟩ := offered.rest
  exact size

theorem findSetting (offered : hub.Offered entries after) (key : String) :
    after.findSetting key = hub.findSetting key := by
  have list : after.settingList = hub.settingList := by
    obtain ⟨cells, queues, journal, size, rfl⟩ := offered.rest
    rfl
  simp only [Hub.findSetting, Hub.findCell, Hub.listed, list, offered.name]

theorem taken? (offered : hub.Offered entries after) : after.taken? = hub.taken? := by
  funext id entry
  simp only [Hub.taken?, offered.findSetting, offered.kind]

theorem trans (first : hub.Offered entries between) (second : between.Offered more after) :
    hub.Offered (entries ++ more) after where
  form := by
    intro id
    obtain ⟨payload, same⟩ := first.form id
    obtain ⟨payload', same'⟩ := second.form id
    exact ⟨payload', by rw [same', same]⟩
  untouched := by
    intro id none
    have before : between.cell id = hub.cell id :=
      first.untouched id fun entry member => none entry (List.mem_append_left more member)
    rw [← before]
    refine second.untouched id fun entry member => ?_
    rw [first.taken?]
    exact none entry (List.mem_append_right entries member)
  value := by
    intro id known
    have later := second.value id (first.size.symm ▸ known)
    rw [first.taken?, first.value id known] at later
    rw [later, List.filterMap_append, List.getLast?_append, Option.getD_or]
  rest := by
    obtain ⟨cells, queues, journal, size, rfl⟩ := first.rest
    obtain ⟨cells', queues', journal', size', rfl⟩ := second.rest
    exact ⟨cells', queues', journal', size'.trans size, rfl⟩

end Offered

/-- A value that is read goes into the setting that reads it. -/
theorem offered_put {hub : Hub} {entry : Entry} {id : CellId} {value : Value}
    (read : hub.taken? id entry = some value) (happening : Happening) :
    hub.Offered [entry] (hub.putNoted id value happening) := by
  obtain ⟨found, event, decoded⟩ := taken?_eq_some_iff.mp read
  have plain : value.kind ≠ .event := by
    rw [Kind.kind_ofRaw decoded]
    exact event
  have nobody {other : CellId} (apart : other ≠ id) : hub.taken? other entry = none := by
    refine taken?_of_other fun found' => apart ?_
    rw [found] at found'
    exact (Option.some.inj found').symm
  have cells (other : CellId) : (hub.putNoted id value happening).cell other =
      if other = id ∧ id < hub.cells.size then { hub.cell id with payload := .ofValue 0 value }
      else hub.cell other := by
    rw [putNoted, put_of_other plain]
    exact cell_set hub id other _
  have flags : (hub.putNoted id value happening).flags = hub.flags := by
    rw [putNoted, put_of_other plain]
  refine ⟨fun other => ?_, fun other none => ?_, fun other known => ?_, ?_⟩
  · rw [cells]
    split
    · rename_i here
      rw [here.1]
      exact ⟨_, rfl⟩
    · exact ⟨_, rfl⟩
  · rw [cells, if_neg]
    rintro ⟨rfl, _⟩
    have unread := none entry (List.mem_singleton_self entry)
    rw [read] at unread
    cases unread
  · rw [Hub.value, cells, flags]
    by_cases here : other = id
    · subst here
      rw [if_pos ⟨rfl, known⟩, List.filterMap_cons_some read]
      refine Payload.value_ofValue 0 fun bits same => ?_
      rw [same] at plain
      exact absurd rfl plain
    · rw [if_neg fun there => here there.1, List.filterMap_cons_none (nobody here)]
      rfl
  · rw [putNoted, put_of_other plain]
    exact ⟨_, hub.queues, _, Pool.size_set _ _ _, rfl⟩

/-- Whether an entry counts as loaded. Somebody reads it: the first setting of its name, or whoever has the keys below
a slash. -/
def counts (hub : Hub) (entry : Entry) : Bool :=
  match hub.findSetting entry.key with
  | some id => (hub.taken? id entry).isSome
  | none => '/' ∈ entry.key.toList

theorem Offered.counts {hub after : Hub} {entries : List Entry} (offered : hub.Offered entries after) :
    after.counts = hub.counts := by
  funext entry
  simp only [Hub.counts, offered.findSetting, offered.taken?]

section Unread

variable {hub after : Hub} {entry : Entry} (unread : ∀ id, hub.taken? id entry = none)

include unread

/-- An entry that no setting reads counts if its key is somebody else's. -/
theorem counts_of_unread :
    hub.counts entry = decide ('/' ∈ entry.key.toList ∧ hub.findSetting entry.key = none) := by
  unfold counts
  split
  · rename_i id found
    simp [unread, found]
  · rename_i nobody
    simp [nobody]

/-- It leaves lines in the log. -/
theorem OnlyLogged.offered (only : hub.OnlyLogged after) : hub.Offered [entry] after := by
  obtain ⟨lines, rfl⟩ := only
  refine ⟨fun id => ⟨_, rfl⟩, fun _ _ => rfl, fun id _ => ?_, hub.cells, hub.queues, _, rfl, rfl⟩
  rw [List.filterMap_cons_none (unread id)]
  rfl

end Unread

/-- One entry. -/
theorem offered_handleSet (hub : Hub) (entry : Entry) :
    hub.Offered [entry] ((handleSet entry.key entry.value).run.run hub).2 ∧
      ((handleSet entry.key entry.value).run.run hub).1.isOk = hub.counts entry := by
  have effect := @effect_handleSet hub entry.key entry.value
  generalize ((handleSet entry.key entry.value).run.run hub).1.isOk = granted at effect
  generalize ((handleSet entry.key entry.value).run.run hub).2 = after at effect
  cases effect with
  | refused own refuses only =>
    have none (id : CellId) : hub.taken? id entry = none := by
      by_cases found : hub.findSetting entry.key = some id
      · rw [taken?_of_found found]
        exact refuses id found
      · exact taken?_of_other found
    exact ⟨only.offered none, ((counts_of_unread none).trans (decide_eq_false own)).symm⟩
  | passedOver passes only =>
    obtain ⟨slash, nobody⟩ := passes
    have none (id : CellId) : hub.taken? id entry = none := by
      refine taken?_of_other fun found => ?_
      rw [nobody] at found
      cases found
    exact ⟨only.offered none, ((counts_of_unread none).trans (decide_eq_true ⟨slash, nobody⟩)).symm⟩
  | @granted id value happening started about asks changed only =>
    have found : hub.findSetting entry.key = some id := about
    have read : hub.taken? id entry = some value := (taken?_of_found found).trans asks
    have before := only.requeued.offered
    have put : started.Offered [entry] (started.putNoted id value happening) :=
      offered_put (by rw [before.taken?, read]) happening
    have told := (requeued_notify id (started.putNoted id value happening)).offered
    refine ⟨(before.trans put).trans told, ?_⟩
    unfold counts
    rw [found]
    dsimp only
    rw [read]
    rfl

/-- How a pass goes on after an entry, with one count or the other raised. -/
theorem of_run_loadEntries_cons {hub after : Hub} {entry : Entry} {rest : List Entry} {report total : LoadReport}
    (ran : (loadEntries (entry :: rest) report).run hub = (total, after)) :
    ∃ between, hub.Offered [entry] between ∧ (loadEntries rest
      (if hub.counts entry then { report with loaded := report.loaded + 1 }
        else { report with skipped := report.skipped + 1 })).run between = (total, after) := by
  obtain ⟨answer, between, done, later⟩ := Act.of_run_bind ran
  obtain ⟨offered, counted⟩ := offered_handleSet hub entry
  rw [done] at offered counted
  rw [← counted]
  cases answer with
  | ok _ => exact ⟨between, offered, later⟩
  | error fault =>
    have logged {level : Level} {line : String} :
        hub.Offered [entry] ((log level line).run between).2 :=
      offered.trans (requeued_log level line between).offered
    obtain ⟨_, _, look, later⟩ := Act.of_run_bind later
    cases look
    dsimp only at later
    split at later
    · exact ⟨_, logged, later⟩
    · exact ⟨_, logged, later⟩

/-- Entry after entry. -/
theorem offered_loadEntries {hub after : Hub} {entries : List Entry} {report total : LoadReport}
    (ran : (loadEntries entries report).run hub = (total, after)) :
    hub.Offered entries after ∧ total.loaded = report.loaded + entries.countP hub.counts ∧
      total.loaded + total.skipped = report.loaded + report.skipped + entries.length := by
  induction entries generalizing hub report with
  | nil =>
    cases ran
    exact ⟨(passage_requeued.refl after).offered, rfl, rfl⟩
  | cons entry rest ih =>
    obtain ⟨between, offered, later⟩ := of_run_loadEntries_cons ran
    obtain ⟨others, loaded, all⟩ := ih later
    rw [offered.counts] at loaded
    refine ⟨offered.trans others, ?_, ?_⟩
    · rw [loaded, List.countP_cons]
      split <;> simp only <;> omega
    · rw [all, List.length_cons]
      split <;> simp only <;> omega

theorem requeued_showCells (indent : String) (ids : List CellId) : Act.Keeps Requeued (showCells indent ids) :=
  passage_requeued.bind passage_requeued.get fun _ => passage_requeued.each (fun _ => requeued_log _ _) ids

/-- A load offers what is listed, and reports how much of it was loaded. -/
theorem offered_loadSettings {store : String} {hub : Hub} {listed : List Entry}
    (answer : (hub.medium store).entries hub.settingsNamespace = .ok listed) :
    ∃ report after, (loadSettings store).run.run hub = (.ok report, after) ∧ hub.Offered listed after ∧
      report.loaded = listed.countP hub.counts ∧ report.loaded + report.skipped = listed.length := by
  have began := (requeued_log .info "load settings" hub).offered
  have found : (((log .info "load settings").run hub).2.medium store).entries
      ((log .info "load settings").run hub).2.settingsNamespace = .ok listed := answer
  generalize started_eq : ((log .info "load settings").run hub).2 = started at began found
  have closing : Act.Keeps Requeued (do
      commitSettings
      log .info "Settings ready:"
      showCells "   " (← get).settingList) := by
    refine passage_requeued.bind (requeued_log _ _) fun _ => ?_
    refine passage_requeued.bind (requeued_log _ _) fun _ => ?_
    exact passage_requeued.bind passage_requeued.get fun hub => requeued_showCells _ _
  rcases ran : (loadEntries listed ⟨0, 0⟩).run started with ⟨report, between⟩
  obtain ⟨offered, loaded, all⟩ := offered_loadEntries ran
  have whole := (began.trans offered).trans (closing between).offered
  rw [List.nil_append, List.append_nil] at whole
  rw [began.counts, Nat.zero_add] at loaded
  rw [Nat.zero_add, Nat.zero_add] at all
  refine ⟨report, _, ?_, whole, loaded, all⟩
  simp only [loadSettings, Attempt.run_bind, Attempt.run_lift, Attempt.run_get, started_eq, found, ran]
  rfl

/-- What cannot be listed is not loaded. -/
theorem run_loadSettings_of_error {store : String} {hub : Hub} {fault : StorageFault}
    (answer : (hub.medium store).entries hub.settingsNamespace = .error fault) :
    (loadSettings store).run.run hub = (.error (.storage fault), ((log .info "load settings").run hub).2) := by
  have found : (((log .info "load settings").run hub).2.medium store).entries
      ((log .info "load settings").run hub).2.settingsNamespace = .error fault := answer
  simp only [loadSettings, Attempt.run_bind, Attempt.run_lift, Attempt.run_get, found]
  rfl

end Hub

/-- The values of the entries under a cell's name that its kind can read. -/
def Cell.readings (cell : Cell) (entries : List Entry) : List Value :=
  entries.filterMap fun entry => if entry.key = cell.name then (cell.kind.ofRaw entry.value).toOption else none

namespace Hub

/-- What the first setting of a name takes is what it can read under its name. -/
theorem filterMap_taken? {hub : Hub} {id : CellId} (first : hub.findSetting (hub.cell id).name = some id)
    (plain : (hub.cell id).kind ≠ .event) (entries : List Entry) :
    entries.filterMap (hub.taken? id) = (hub.cell id).readings entries := by
  refine congrArg (List.filterMap · entries) (funext fun entry => ?_)
  by_cases own : entry.key = (hub.cell id).name
  · rw [if_pos own]
    exact if_pos ⟨own ▸ first, plain⟩
  · rw [if_neg own]
    exact taken?_of_other fun found => own (name_of_findSetting found).symm

/-- What comes of a pass over entries, whatever they are. -/
structure LoadsLast (hub : Hub) (entries : List Entry) (report : LoadReport) (after : Hub) : Prop where
  loaded : report.loaded = entries.countP hub.counts
  all : report.loaded + report.skipped = entries.length
  settings : ∀ id < hub.cells.size, hub.findSetting (hub.cell id).name = some id → (hub.cell id).kind ≠ .event →
    after.value id = ((hub.cell id).readings entries).getLast?.getD (hub.value id)
  others : ∀ id, (hub.findSetting (hub.cell id).name = some id → (hub.cell id).kind = .event) →
    after.cell id = hub.cell id ∧ after.value id = hub.value id
  form : ∀ id, ∃ payload, after.cell id = { hub.cell id with payload }
  rest : ∃ cells queues journal, after = { hub with cells, queues, journal }
  again : ∀ id < hub.cells.size, ((loadEntries entries ⟨0, 0⟩).run after).2.value id = after.value id

namespace Offered

variable {hub after : Hub} {entries : List Entry} (offered : hub.Offered entries after)

include offered

theorem others {id : CellId} (other : hub.findSetting (hub.cell id).name = some id → (hub.cell id).kind = .event) :
    after.cell id = hub.cell id ∧ after.value id = hub.value id := by
  have none (entry : Entry) : hub.taken? id entry = none := by
    by_cases found : hub.findSetting entry.key = some id
    · rw [← name_of_findSetting found] at found
      exact taken?_of_event (other found) entry
    · exact taken?_of_other found
  have same := offered.untouched id fun entry _ => none entry
  obtain ⟨cells, queues, journal, size, rfl⟩ := offered.rest
  refine ⟨same, ?_⟩
  rw [Hub.value, same]
  rfl

/-- Offered again, entries change no value. -/
theorem again {later : Hub} (repeated : after.Offered entries later) {id : CellId} (known : id < hub.cells.size) :
    later.value id = after.value id := by
  have first := offered.value id known
  have second := repeated.value id (offered.size.symm ▸ known)
  rw [offered.taken?] at second
  rw [second, first]
  cases (entries.filterMap (hub.taken? id)).getLast? <;> rfl

theorem loadsLast {report : LoadReport} (loaded : report.loaded = entries.countP hub.counts)
    (all : report.loaded + report.skipped = entries.length) : hub.LoadsLast entries report after where
  loaded := loaded
  all := all
  settings := by
    intro id known first plain
    rw [offered.value id known, filterMap_taken? first plain]
  others := fun id other => offered.others other
  form := offered.form
  rest := by
    obtain ⟨cells, queues, journal, size, same⟩ := offered.rest
    exact ⟨cells, queues, journal, same⟩
  again := fun id known => offered.again (offered_loadEntries rfl).1 known

end Offered

/-- For every hub and every list of entries: a pass counts every entry once. Every setting that is no event and the
first of its name has the last value under its name that it can read, or else the value it had; other cells are as
they were, and so are stores. The same pass once more changes no value. So a load from a store that lists its entries
succeeds and does just that; if the store cannot list them, the load fails with the fault of the store, and only the
log is longer. -/
theorem load_takes_last (hub : Hub) :
    (∀ entries, hub.LoadsLast entries ((loadEntries entries ⟨0, 0⟩).run hub).1
      ((loadEntries entries ⟨0, 0⟩).run hub).2) ∧
    (∀ store entries, (hub.medium store).entries hub.settingsNamespace = .ok entries →
      ∃ report after, (loadSettings store).run.run hub = (.ok report, after) ∧ hub.LoadsLast entries report after ∧
        ∀ id < hub.cells.size, ((loadSettings store).run.run after).2.value id = after.value id) ∧
    ∀ store fault, (hub.medium store).entries hub.settingsNamespace = .error fault →
      ∃ after, (loadSettings store).run.run hub = (.error (.storage fault), after) ∧ hub.OnlyLogged after := by
  refine ⟨fun entries => ?_, fun store entries answer => ?_, fun store fault answer => ?_⟩
  · obtain ⟨offered, loaded, all⟩ := offered_loadEntries (Eq.refl ((loadEntries entries ⟨0, 0⟩).run hub))
    rw [Nat.zero_add] at loaded
    rw [Nat.zero_add, Nat.zero_add] at all
    exact offered.loadsLast loaded all
  · obtain ⟨report, after, ran, offered, loaded, all⟩ := offered_loadSettings answer
    refine ⟨report, after, ran, offered.loadsLast loaded all, fun id known => ?_⟩
    have same : (after.medium store).entries after.settingsNamespace = .ok entries := by
      obtain ⟨cells, queues, journal, size, rfl⟩ := offered.rest
      exact answer
    obtain ⟨_, later, ran', repeated, _, _⟩ := offered_loadSettings same
    rw [ran']
    exact offered.again repeated known
  · exact ⟨_, run_loadSettings_of_error answer, onlyLogged_log _ _ hub⟩

/-- A new hub in which a variable is a setting too, with a value for it on a store. -/
def twiceListed : Hub := ((do
  let id ← newCell "x" (.bool false)
  registerVariables [id]
  registerSettings [id]
  discard (writeKey "nvs" "app" "x" [1]) : Act Unit).run (fresh .standard)).2

/-- What is loaded shows in a variable that is a setting too. -/
theorem load_changes_variable : twiceListed.variableList = [0] ∧ twiceListed.value 0 = .bool false ∧
    ((loadSettings "nvs").run.run twiceListed).1.toOption = some ⟨1, 0⟩ ∧
    ((loadSettings "nvs").run.run twiceListed).2.value 0 = .bool true := by
  decide +kernel

end Hub

end LeafHub
