import LeafHub.Proofs.Hub.Outfit
import LeafHub.Proofs.Text.ByteOrder

namespace LeafHub

namespace CommandTable

variable {table after : CommandTable} {command : Command} {entries before behind : List Command}

theorem isSome_find?_iff {name : String} : (table.find? name).isSome = true ↔ name ∈ table.names := by
  simp [find?, names]

/-- A command takes the place of the first one of its name. -/
theorem replace_eq (present : command.name ∈ entries.map Command.name) : ∃ before old behind,
    entries = before ++ old :: behind ∧ old.name = command.name ∧ command.name ∉ before.map Command.name ∧
      replace command entries = before ++ command :: behind := by
  induction entries with
  | nil => cases present
  | cons entry rest ih =>
    unfold replace
    by_cases here : entry.name = command.name
    · exact ⟨[], entry, rest, rfl, here, List.not_mem_nil, if_pos here⟩
    · rw [List.map_cons, List.mem_cons] at present
      obtain ⟨before, old, behind, split, named, first, replaced⟩ := ih (present.resolve_left (Ne.symm here))
      refine ⟨entry :: before, old, behind, congrArg _ split, named, ?_, by rw [if_neg here, replaced]; rfl⟩
      rw [List.map_cons, List.mem_cons, not_or]
      exact ⟨Ne.symm here, first⟩

/-- A command goes between those that it is not before and the first one that it is before. -/
theorem insertSorted_eq (command : Command) (entries : List Command) : ∃ before behind,
    entries = before ++ behind ∧ (∀ entry ∈ before, ¬command.name < entry.name) ∧
      (∀ entry ∈ behind.head?, command.name < entry.name) ∧
        insertSorted command entries = before ++ command :: behind := by
  induction entries with
  | nil => exact ⟨[], [], rfl, nofun, nofun, rfl⟩
  | cons entry rest ih =>
    unfold insertSorted
    split
    · rename_i less
      exact ⟨[], entry :: rest, rfl, nofun, fun _ first => Option.some.inj first ▸ less, rfl⟩
    · rename_i notLess
      obtain ⟨before, behind, split, early, late, inserted⟩ := ih
      refine ⟨entry :: before, behind, congrArg _ split, ?_, late, congrArg _ inserted⟩
      rw [List.forall_mem_cons]
      exact ⟨notLess, early⟩

/-- What adding a command to a table comes to. -/
inductive Insertion (table : CommandTable) (command : Command) : Except Fault CommandTable → Prop
  | replaced {before old behind : _} : table.entries = before ++ old :: behind → old.name = command.name →
      command.name ∉ before.map Command.name → Insertion table command (.ok ⟨before ++ command :: behind⟩)
  | added {before behind : _} : command.name ∉ table.names → table.entries.length < capacity →
      table.entries = before ++ behind → (∀ entry ∈ before, ¬command.name < entry.name) →
        (∀ entry ∈ behind.head?, command.name < entry.name) →
          Insertion table command (.ok ⟨before ++ command :: behind⟩)
  | refused : command.name ∉ table.names → capacity ≤ table.entries.length →
      Insertion table command (.error .allocationFailure)

theorem insertion (table : CommandTable) (command : Command) : table.Insertion command (table.insert command) := by
  unfold insert
  by_cases present : command.name ∈ table.names
  · rw [if_pos (isSome_find?_iff.mpr present)]
    obtain ⟨before, old, behind, split, named, first, replaced⟩ := replace_eq present
    rw [replaced]
    exact .replaced split named first
  · rw [if_neg fun found => present (isSome_find?_iff.mp found)]
    split
    · rename_i room
      obtain ⟨before, behind, split, early, late, inserted⟩ := insertSorted_eq command table.entries
      rw [inserted]
      exact .added present room split early late
    · rename_i full
      exact .refused present (Nat.le_of_not_lt full)

theorem Insertion.of_eq {answer : Except Fault CommandTable} (done : table.insert command = answer) :
    table.Insertion command answer :=
  done ▸ table.insertion command

/-- Looking for a name where a command was put in front of all others of its name. -/
theorem find?_put (first : command.name ∉ before.map Command.name) (name : String) :
    find? ⟨before ++ command :: behind⟩ name =
      if name = command.name then some command else find? ⟨before ++ behind⟩ name := by
  unfold find?
  rw [List.find?_append, List.find?_append]
  by_cases same : name = command.name
  · have none : before.find? (fun entry => entry.name = name) = none := by
      rw [List.find?_eq_none]
      intro entry member named
      exact first (List.mem_map.mpr ⟨entry, member, (of_decide_eq_true named).trans same⟩)
    rw [none, if_pos same, Option.none_or, List.find?_cons, decide_eq_true same.symm]
  · rw [if_neg same, List.find?_cons, decide_eq_false (Ne.symm same)]

/-- An added command is found under its name, and under other names what was found before. -/
theorem find?_insert (added : table.insert command = .ok after) (name : String) :
    after.find? name = if name = command.name then some command else table.find? name := by
  cases Insertion.of_eq added with
  | @replaced before old behind split named first =>
    have without : find? ⟨table.entries⟩ name =
        if name = old.name then some old else find? ⟨before ++ behind⟩ name := by
      rw [split, find?_put (named ▸ first)]
    rw [find?_put first]
    split
    · rfl
    · rename_i other
      rw [if_neg (named ▸ other)] at without
      exact without.symm
  | @added before behind absent _ split _ _ =>
    have first : command.name ∉ before.map Command.name := fun member => absent (by
      rw [names, split, List.map_append]
      exact List.mem_append_left _ member)
    rw [find?_put first, ← split]

/-- The names stand in the order of their bytes. -/
def Ordered (table : CommandTable) : Prop :=
  table.names.Pairwise fun earlier later => Text.utf8 earlier < Text.utf8 later

theorem ordered_iff : table.Ordered ↔ table.entries.Pairwise fun earlier later => earlier.name < later.name := by
  simp only [Ordered, names, List.pairwise_map, Text.utf8_lt_utf8_iff]

/-- An entry of another name that a command is not before is before the command. -/
theorem name_lt_of_not_lt {entry : Command} (other : entry.name ≠ command.name) (notLess : ¬command.name < entry.name) :
    entry.name < command.name := by
  refine Decidable.byContradiction fun notSooner => other ?_
  exact String.le_antisymm (String.not_lt.mp notLess) (String.not_lt.mp notSooner)

theorem Ordered.insert (ordered : table.Ordered) (added : table.insert command = .ok after) : after.Ordered := by
  cases Insertion.of_eq added with
  | replaced split named first =>
    unfold Ordered names at ordered ⊢
    rw [split, List.map_append, List.map_cons, named] at ordered
    rw [List.map_append, List.map_cons]
    exact ordered
  | @added before behind absent _ split early late =>
    rw [ordered_iff] at ordered ⊢
    rw [split, List.pairwise_append] at ordered
    obtain ⟨ordered, later, apart⟩ := ordered
    have sooner (entry : Command) (member : entry ∈ before) : entry.name < command.name := by
      have there : entry ∈ table.entries := split ▸ List.mem_append_left behind member
      have other : entry.name ≠ command.name := fun same => absent (List.mem_map.mpr ⟨entry, there, same⟩)
      exact name_lt_of_not_lt other (early entry member)
    have further (entry : Command) (member : entry ∈ behind) : command.name < entry.name := by
      cases behind with
      | nil => cases member
      | cons next rest =>
        have less := late next rfl
        obtain rfl | member := List.mem_cons.mp member
        · exact less
        · exact String.lt_trans less ((List.pairwise_cons.mp later).1 entry member)
    refine List.pairwise_append.mpr ⟨ordered, List.pairwise_cons.mpr ⟨further, later⟩, fun entry member => ?_⟩
    rw [List.forall_mem_cons]
    exact ⟨sooner entry member, apart entry member⟩

/-- The command that was last added under a name, where insertions are listed with their answers. -/
def lastAdded (history : List (Command × Except Fault Unit)) (name : String) : Option Command :=
  ((history.filter fun entry => entry.1.name = name ∧ entry.2 = .ok ()).getLast?).map Prod.fst

theorem lastAdded_granted (history : List (Command × Except Fault Unit)) (command : Command) (name : String) :
    lastAdded (history ++ [(command, .ok ())]) name =
      if name = command.name then some command else lastAdded history name := by
  unfold lastAdded
  rw [List.filter_append]
  by_cases same : name = command.name
  · simp [same]
  · simp [same, Ne.symm same]

theorem lastAdded_refused (history : List (Command × Except Fault Unit)) (command : Command) (fault : Fault)
    (name : String) : lastAdded (history ++ [(command, .error fault)]) name = lastAdded history name := by
  simp [lastAdded]

/-- The table that insertions lead to. -/
structure Remembers (table : CommandTable) (history : List (Command × Except Fault Unit)) : Prop where
  ordered : table.Ordered
  room : table.entries.length ≤ 20
  latest : ∀ name, table.find? name = lastAdded history name

variable {history : List (Command × Except Fault Unit)}

theorem remembers_empty : empty.Remembers [] :=
  ⟨.nil, Nat.zero_le _, fun _ => rfl⟩

theorem Remembers.insert (remembers : table.Remembers history) (added : table.insert command = .ok after) :
    after.Remembers (history ++ [(command, .ok ())]) := by
  refine ⟨remembers.ordered.insert added, length_insert remembers.room added, fun name => ?_⟩
  rw [find?_insert added, lastAdded_granted, remembers.latest]

theorem Remembers.refuse (remembers : table.Remembers history) (command : Command) (fault : Fault) :
    table.Remembers (history ++ [(command, .error fault)]) := by
  refine ⟨remembers.ordered, remembers.room, fun name => ?_⟩
  rw [lastAdded_refused, remembers.latest]

end CommandTable

namespace Hub

variable {hub : Hub} {command : Command}

theorem run_registerCommand_of_ok {table : CommandTable} (added : hub.commands.insert command = .ok table) :
    ∃ lines, (registerCommand command).run.run hub = (.ok (), { hub.withLines lines with commands := table }) := by
  unfold registerCommand insertCommand
  rw [Attempt.run_bind_of (Attempt.run_get hub), Attempt.run_bind, Attempt.run_lift_of (run_log hub _ _), added]
  exact ⟨_, rfl⟩

theorem run_registerCommand_of_error {fault : Fault} (refused : hub.commands.insert command = .error fault) :
    ∃ lines, (registerCommand command).run.run hub = (.error fault, hub.withLines lines) := by
  unfold registerCommand insertCommand
  rw [Attempt.run_bind_of (Attempt.run_get hub), Attempt.run_bind, Attempt.run_lift_of (run_log hub _ _), refused]
  dsimp only
  rw [Attempt.run_lift_of (run_log _ _ _), ← withLines_append]
  exact ⟨_, rfl⟩

/-- Registers commands one after the other. -/
def registerEach (commands : List Command) : Act (List (Except Fault Unit)) :=
  commands.mapM fun command => (registerCommand command).run

/-- What registering a command comes to. -/
structure Registers (hub : Hub) (command : Command) (answer : Except Fault Unit) (after : Hub) : Prop where
  replaced : command.name ∈ hub.commands.names → answer = .ok () ∧ ∃ before old behind,
    hub.commands.entries = before ++ old :: behind ∧ old.name = command.name ∧
      after.commands.entries = before ++ command :: behind
  added_iff : command.name ∉ hub.commands.names → (answer = .ok () ↔ hub.commands.entries.length < 20)
  added : command.name ∉ hub.commands.names → answer = .ok () → ∃ before behind,
    hub.commands.entries = before ++ behind ∧ after.commands.entries = before ++ command :: behind
  refused : ∀ fault, answer = .error fault → fault = .allocationFailure ∧ after.commands = hub.commands ∧
    hub.OnlyLogged after

theorem registers (hub : Hub) (command : Command) : hub.Registers command ((registerCommand command).run.run hub).1
    ((registerCommand command).run.run hub).2 := by
  have shape := hub.commands.insertion command
  generalize inserted : hub.commands.insert command = outcome at shape
  cases shape with
  | @replaced before old behind split named first =>
    obtain ⟨lines, done⟩ := run_registerCommand_of_ok inserted
    rw [done]
    have present : command.name ∈ hub.commands.names :=
      List.mem_map.mpr ⟨old, split ▸ List.mem_append_right _ List.mem_cons_self, named⟩
    exact
      { replaced := fun _ => ⟨rfl, before, old, behind, split, named, rfl⟩
        added_iff := fun absent => absurd present absent
        added := fun absent => absurd present absent
        refused := nofun }
  | @added before behind absent room split _ _ =>
    obtain ⟨lines, done⟩ := run_registerCommand_of_ok inserted
    rw [done]
    exact
      { replaced := fun present => absurd present absent
        added_iff := fun _ => iff_of_true rfl room
        added := fun _ _ => ⟨before, behind, split, rfl⟩
        refused := nofun }
  | refused absent full =>
    obtain ⟨lines, done⟩ := run_registerCommand_of_error inserted
    rw [done]
    exact
      { replaced := fun present => absurd present absent
        added_iff := fun _ => iff_of_false nofun (Nat.not_lt.mpr full)
        added := nofun
        refused := fun fault failed => by
          cases failed
          exact ⟨rfl, rfl, lines, rfl⟩ }

theorem remembers_registerCommand {history : List (Command × Except Fault Unit)}
    (remembers : hub.commands.Remembers history) (command : Command) :
    ((registerCommand command).run.run hub).2.commands.Remembers
      (history ++ [(command, ((registerCommand command).run.run hub).1)]) := by
  cases inserted : hub.commands.insert command with
  | ok table =>
    obtain ⟨lines, done⟩ := run_registerCommand_of_ok inserted
    rw [done]
    exact remembers.insert inserted
  | error fault =>
    obtain ⟨lines, done⟩ := run_registerCommand_of_error inserted
    rw [done]
    exact remembers.refuse command fault

theorem remembers_registerEach {history : List (Command × Except Fault Unit)}
    (remembers : hub.commands.Remembers history) (asked : List Command) :
    ((registerEach asked).run hub).2.commands.Remembers (history ++ asked.zip ((registerEach asked).run hub).1) := by
  induction asked generalizing hub history with
  | nil =>
    show hub.commands.Remembers (history ++ [])
    rw [List.append_nil]
    exact remembers
  | cons command rest ih =>
    have later := ih (remembers_registerCommand remembers command)
    rw [List.append_assoc, List.singleton_append] at later
    unfold registerEach at later ⊢
    rw [List.mapM_cons]
    exact later

/-- However many commands are registered, their names stand in the order of their bytes, there are at most twenty of
them, and each name has the command that was last registered under it. One more command takes the place of the one of
its name, or finds a place between two others if there is room, or changes nothing. -/
theorem commands_last_registered {hub : Hub} (empty : hub.commands = .empty) (asked : List Command) :
    ((registerEach asked).run hub).2.commands.Remembers (asked.zip ((registerEach asked).run hub).1) ∧
    ∀ command, Registers ((registerEach asked).run hub).2 command
      ((registerCommand command).run.run ((registerEach asked).run hub).2).1
      ((registerCommand command).run.run ((registerEach asked).run hub).2).2 := by
  have start : hub.commands.Remembers [] := empty ▸ CommandTable.remembers_empty
  exact ⟨remembers_registerEach start asked, fun command => registers _ command⟩

/-- As many commands as there is room for, the last one first. -/
def twenty : List Command :=
  (List.range 20).map fun number => ⟨String.singleton (Char.ofNat ('t'.toNat - number)), "", .inert⟩

/-- A hub with a full table. -/
def crowded : Hub :=
  ((registerEach twenty).run (fresh .standard)).2

theorem commands_last_registered_crowded : crowded.commands.Ordered ∧ crowded.commands.entries.length = 20 ∧
    crowded.findCommand "c" = some ⟨"c", "", .inert⟩ ∧
    ((registerCommand ⟨"c", "again", .led 0⟩).run.run crowded).1 = .ok () ∧
    ((registerCommand ⟨"z", "", .inert⟩).run.run crowded).1 = .error .allocationFailure ∧
    ((registerCommand ⟨"z", "", .inert⟩).run.run crowded).2.commands = crowded.commands := by
  have start : (fresh .standard).commands = .empty := rfl
  obtain ⟨remembers, registers⟩ := commands_last_registered start twenty
  have full : crowded.commands.entries.length = 20 := by decide +kernel
  have present : "c" ∈ crowded.commands.names := by decide +kernel
  have absent : "z" ∉ crowded.commands.names := by decide +kernel
  have found : crowded.findCommand "c" = some ⟨"c", "", .inert⟩ := by decide +kernel
  unfold crowded at full present absent found ⊢
  obtain ⟨again, _⟩ := (registers ⟨"c", "again", .led 0⟩).replaced present
  refine ⟨remembers.ordered, full, found, again, ?_⟩
  have refused := registers ⟨"z", "", .inert⟩
  generalize ((registerCommand ⟨"z", "", .inert⟩).run.run ((registerEach twenty).run (fresh .standard)).2).1 = answer
    at refused ⊢
  cases answer with
  | ok done => exact absurd full (Nat.ne_of_lt ((refused.added_iff absent).mp rfl))
  | error fault =>
    obtain ⟨rfl, same, _⟩ := refused.refused fault rfl
    exact ⟨rfl, same⟩

end Hub

end LeafHub
