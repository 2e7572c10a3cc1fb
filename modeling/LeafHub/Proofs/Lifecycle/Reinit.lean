import LeafHub.Proofs.Hub.Listing
import LeafHub.Proofs.Hub.Outfit
import LeafHub.Proofs.Hub.Respect
import LeafHub.Proofs.Lifecycle.Carried

namespace LeafHub

open Hub Passage

namespace Hub

variable {hub between after : Hub} {leaf : LeafId} {own : CellId}

/-- One cell may hold something else. The others, the event objects, the items and the lists of cells are as they were. -/
structure OnlyCell (own : CellId) (hub after : Hub) : Prop where
  size : after.cells.size = hub.cells.size
  cell : ∀ id ≠ own, after.cell id = hub.cell id
  flags : after.flags = hub.flags
  items : after.items = hub.items
  listed : ∀ catalogue, after.listed catalogue = hub.listed catalogue

theorem passage_onlyCell (own : CellId) : Passage (OnlyCell own) where
  refl := fun _ => ⟨rfl, fun _ _ => rfl, rfl, rfl, fun _ => rfl⟩
  trans := fun first second =>
    { size := second.size.trans first.size
      cell := fun id apart => (second.cell id apart).trans (first.cell id apart)
      flags := second.flags.trans first.flags
      items := second.items.trans first.items
      listed := fun catalogue => (second.listed catalogue).trans (first.listed catalogue) }

theorem Requeued.onlyCell (requeued : hub.Requeued after) : OnlyCell own hub after := by
  obtain ⟨queues, journal, rfl⟩ := requeued
  exact ⟨rfl, fun _ _ => rfl, rfl, rfl, fun _ => rfl⟩

theorem listing_onlyCell (own : CellId) : Listing (OnlyCell own) where
  toPassage := passage_onlyCell own
  logged := fun level line hub => (requeued_log level line hub).onlyCell
  emptied := fun _ => ⟨rfl, fun _ _ => rfl, rfl, rfl, fun _ => rfl⟩
  identified := fun _ _ => ⟨rfl, fun _ _ => rfl, rfl, rfl, fun _ => rfl⟩
  classed := fun _ _ => ⟨rfl, fun _ _ => rfl, rfl, rfl, fun _ => rfl⟩
  joined := fun _ _ _ => ⟨rfl, fun _ _ => rfl, rfl, rfl, fun _ => rfl⟩
  bound := fun _ _ _ _ => ⟨rfl, fun _ _ => rfl, rfl, rfl, fun _ => rfl⟩

theorem onlyCell_store (flag : Bool) : Attempt.Keeps (OnlyCell own) (store own (.bool flag)) := by
  intro hub
  rw [run_store]
  split
  · exact (requeued_log _ _ hub).onlyCell
  · refine (passage_onlyCell own).trans ?_ (requeued_notify own _).onlyCell
    have plain : (Value.bool flag).kind ≠ .event := nofun
    rw [putNoted, put_of_other plain]
    refine ⟨Pool.size_set _ _ _, fun id apart => ?_, rfl, rfl, fun _ => rfl⟩
    exact Pool.get_set_other apart _

/-- A leaf that has been fitted out stays so, and at most its `ok` cell changes. -/
def Settles (leaf : LeafId) (outfit : Outfit) (hub after : Hub) : Prop :=
  hub.outfit? leaf = some outfit → OnlyCell outfit.ok hub after ∧ after.outfit? leaf = some outfit

theorem OnlyCell.settles {outfit : Outfit} (only : OnlyCell outfit.ok hub after) (leaves : after.leaves = hub.leaves) :
    Settles leaf outfit hub after :=
  fun has => ⟨only, (outfit?_of_leaves leaves).trans has⟩

theorem logging_settles (leaf : LeafId) (outfit : Outfit) : Logging (Settles leaf outfit) where
  toPassage := (passage_onlyCell outfit.ok).under fun hub => hub.outfit? leaf = some outfit
  logged := fun level line hub => OnlyCell.settles (requeued_log level line hub).onlyCell rfl

theorem settles_registerCommand (outfit : Outfit) (command : Command) :
    Attempt.Keeps (Settles leaf outfit) (registerCommand command) :=
  fun hub => OnlyCell.settles ((listing_onlyCell outfit.ok).registerCommand command hub)
    (Cataloguing.leaves.registerCommand command hub)

theorem settles_ok (outfit : Outfit) (hub : Hub) :
    Settles leaf outfit hub ((store outfit.ok (.bool true)).run.run hub).2 :=
  OnlyCell.settles (onlyCell_store true hub) (leaves_store _ _ hub)

theorem led_of_outfit? {pin : String} {cells others : LedCells} {lit : Bool}
    (holds : hub.led? leaf = some ⟨pin, some others, lit⟩) (has : hub.outfit? leaf = some (.led cells)) : others = cells := by
  rw [outfit?_of_led holds] at has
  exact Outfit.led.inj (Option.some.inj has)

theorem keypad_of_outfit? {bus : String} {cells others : KeypadCells} {scanning : Bool}
    (holds : hub.keypad? leaf = some ⟨bus, some others, scanning⟩) (has : hub.outfit? leaf = some (.keypad cells)) :
    others = cells := by
  rw [outfit?_of_keypad holds] at has
  exact Outfit.keypad.inj (Option.some.inj has)

/-- What the init of an LED does once there are cells, also where the pin refuses. -/
theorem settles_readyLed (cells : LedCells) : Attempt.Keeps (Settles leaf (.led cells)) (readyLed leaf) := by
  have logging := logging_settles leaf (.led cells)
  have driven : Attempt.Keeps (Settles leaf (.led cells)) (driveLed leaf false) := by
    refine fun hub => keeps_driveLed logging.toPassage logging.logged (fun state _ => ?_) fun state holds has => ?_
    · exact OnlyCell.settles ⟨rfl, fun _ _ => rfl, rfl, rfl, fun _ => rfl⟩ rfl
    refine ⟨⟨rfl, fun _ _ => rfl, rfl, rfl, fun _ => rfl⟩, ?_⟩
    have known : leaf < (hub.asked state.pin false).leaves.size := known_of_context (led?_eq_some.mp holds)
    have still : (hub.asked state.pin false).led? leaf = some state := holds
    rw [outfit?, leaf_setContext known, ← has, outfit?_of_led still]
    rfl
  have marked : Attempt.Keeps (Settles leaf (.led cells)) (markLed leaf) := by
    refine logging.markLed fun hub _ others _ holds has => ?_
    obtain rfl := led_of_outfit? holds has
    exact settles_ok _ hub has
  exact logging.readyLed driven marked (settles_registerCommand _)

theorem settles_configureKeypad (cells : KeypadCells) (name bus : String) :
    Attempt.Keeps (Settles leaf (.keypad cells)) (configureKeypad leaf name bus) := by
  have logging := logging_settles leaf (.keypad cells)
  have written (bus : String) (address : UInt8) : Attempt.Keeps (Settles leaf (.keypad cells)) (writeKeypad bus address) :=
    keeps_writeKeypad logging (fun _ _ _ => OnlyCell.settles ⟨rfl, fun _ _ => rfl, rfl, rfl, fun _ => rfl⟩ rfl)
      fun _ hub => OnlyCell.settles (requeued_note _ hub).onlyCell rfl
  refine logging.configureKeypad written (fun hub _ others _ holds has => ?_) (settles_registerCommand _) name bus
  obtain rfl := keypad_of_outfit? holds has
  exact settles_ok _ hub has

/-- What an init of a leaf makes of what there was before it. -/
structure Inits (leaf : LeafId) (outfit : Outfit) (hub after : Hub) : Prop where
  fitted : after.outfit? leaf = some outfit
  cell : ∀ id < hub.cells.size, id ≠ outfit.ok → after.cell id = hub.cell id
  flags : ∀ flags < hub.flags.size, after.flags.get flags = hub.flags.get flags
  again : ∀ had, hub.outfit? leaf = some had → had = outfit ∧ OnlyCell outfit.ok hub after

theorem Settles.again {outfit : Outfit} (settles : Settles leaf outfit hub after) (has : hub.outfit? leaf = some outfit) :
    Inits leaf outfit hub after := by
  obtain ⟨only, still⟩ := settles has
  exact
    { fitted := still
      cell := fun id _ apart => only.cell id apart
      flags := fun _ _ => by rw [only.flags]
      again := fun had before => ⟨Option.some.inj (before.symm.trans has), only⟩ }

theorem Settles.first {outfit : Outfit} {growth : Growth} {context : Context} (bare : hub.outfit? leaf = none)
    (known : leaf < hub.leaves.size) (grows : hub.Extends leaf growth) (carries : context.outfit? = some outfit)
    (settles : Settles leaf outfit ((setContext leaf context).run (hub.grow growth)).2 after) : Inits leaf outfit hub after := by
  have has : ((setContext leaf context).run (hub.grow growth)).2.outfit? leaf = some outfit := by
    rw [outfit?, @leaf_setContext leaf (hub.grow growth) known]
    exact carries
  obtain ⟨only, still⟩ := settles has
  exact
    { fitted := still
      cell := fun id known apart => (only.cell id apart).trans (grows.cells id known)
      flags := fun flags known => by
        rw [only.flags]
        exact grows.flags flags known
      again := fun had before => by
        rw [bare] at before
        cases before }

theorem inits_led {state : LedState} (holds : hub.led? leaf = some state) :
    ∃ outfit, Inits leaf outfit hub ((ledPhase .init leaf).run.run hub).2 := by
  obtain ⟨pin, cells, lit⟩ := state
  cases cells with
  | none =>
    obtain ⟨lines, ran⟩ := run_first_ledPhase holds
    refine ⟨.led hub.nextLed, ?_⟩
    rw [ran]
    exact Settles.first (outfit?_of_led holds) (known_of_context (led?_eq_some.mp holds)) (extends_led hub leaf lines) rfl
      (settles_readyLed hub.nextLed _)
  | some cells =>
    refine ⟨.led cells, ?_⟩
    rw [run_again_ledPhase holds]
    exact (settles_readyLed cells hub).again (outfit?_of_led holds)

theorem inits_keypad {state : KeypadState} (holds : hub.keypad? leaf = some state) :
    ∃ outfit, Inits leaf outfit hub ((keypadPhase .init leaf).run.run hub).2 := by
  obtain ⟨bus, cells, scanning⟩ := state
  cases cells with
  | none =>
    obtain ⟨lines, ran⟩ := run_first_keypadPhase holds
    refine ⟨.keypad hub.nextKeypad, ?_⟩
    rw [ran]
    exact Settles.first (outfit?_of_keypad holds) (known_of_context (keypad?_eq_some.mp holds))
      (extends_keypad hub leaf lines) rfl (settles_configureKeypad hub.nextKeypad _ _ _)
  | some cells =>
    obtain ⟨lines, ran⟩ := run_again_keypadPhase holds
    refine ⟨.keypad cells, ?_⟩
    rw [ran]
    refine Settles.again ?_ (outfit?_of_keypad holds)
    have logged : OnlyCell (Outfit.keypad cells).ok hub (hub.withLines lines) := ⟨rfl, fun _ _ => rfl, rfl, rfl, fun _ => rfl⟩
    exact (logging_settles leaf (.keypad cells)).trans (logged.settles rfl) (settles_configureKeypad cells _ bus _)

section Around

/-- Nothing that an init makes or looks at is different. -/
structure Alike (leaf : LeafId) (hub after : Hub) : Prop where
  cells : after.cells = hub.cells
  flags : after.flags = hub.flags
  items : after.items = hub.items
  listed : ∀ catalogue, after.listed catalogue = hub.listed catalogue
  commands : after.commands = hub.commands
  context : (after.leaf leaf).context = (hub.leaf leaf).context
  leafClass : (after.leaf leaf).leafClass = (hub.leaf leaf).leafClass

theorem passage_alike (leaf : LeafId) : Passage (Alike leaf) where
  refl := fun _ => ⟨rfl, rfl, rfl, fun _ => rfl, rfl, rfl, rfl⟩
  trans := fun first second =>
    { cells := second.cells.trans first.cells
      flags := second.flags.trans first.flags
      items := second.items.trans first.items
      listed := fun catalogue => (second.listed catalogue).trans (first.listed catalogue)
      commands := second.commands.trans first.commands
      context := second.context.trans first.context
      leafClass := second.leafClass.trans first.leafClass }

theorem alike_log (level : Level) (line : String) : Act.Keeps (Alike leaf) (log level line) :=
  fun _ => ⟨rfl, rfl, rfl, fun _ => rfl, rfl, rfl, rfl⟩

theorem alike_setLeaf (flags : Leaf) (context : flags.context = (hub.leaf leaf).context)
    (leafClass : flags.leafClass = (hub.leaf leaf).leafClass) : Alike leaf hub ((setLeaf leaf flags).run hub).2 := by
  have part {β : Type} (part : Leaf → β) (same : part flags = part (hub.leaf leaf)) :
      part (((setLeaf leaf flags).run hub).2.leaf leaf) = part (hub.leaf leaf) := by
    show part ((hub.leaves.set leaf flags).get leaf) = _
    rw [Pool.get_set]
    split
    · exact same
    · rfl
  exact ⟨rfl, rfl, rfl, fun _ => rfl, rfl, part Leaf.context context, part Leaf.leafClass leafClass⟩

theorem alike_retain : Act.Keeps (Alike leaf) (retain leaf) :=
  fun _ => alike_setLeaf _ rfl rfl

theorem alike_release : Act.Keeps (Alike leaf) (release leaf) :=
  fun _ => alike_setLeaf _ rfl rfl

theorem alike_beginInit : Act.Keeps (Alike leaf) (beginInit leaf) := by
  intro hub
  obtain ⟨lines, began⟩ := run_beginInit hub leaf
  have flags : Alike leaf hub ((setLeaf leaf { hub.leaf leaf with ready := false, running := false }).run hub).2 :=
    alike_setLeaf _ rfl rfl
  rw [began]
  exact ⟨rfl, rfl, rfl, fun _ => rfl, rfl, flags.context, flags.leafClass⟩

theorem alike_endInit (outcome : Except Fault Unit) : Act.Keeps (Alike leaf) (endInit leaf outcome) := by
  intro hub
  cases outcome with
  | ok => exact (passage_alike leaf).trans (alike_log _ _ hub) (alike_setLeaf _ rfl rfl)
  | error fault => exact alike_log _ _ hub

theorem Alike.onlyCell (alike : Alike leaf hub after) (own : CellId) : OnlyCell own hub after where
  size := by rw [alike.cells]
  cell := fun id _ => by rw [Hub.cell, Hub.cell, alike.cells]
  flags := alike.flags
  items := alike.items
  listed := alike.listed

theorem Alike.outfit? (alike : Alike leaf hub after) : after.outfit? leaf = hub.outfit? leaf := by
  rw [Hub.outfit?, Hub.outfit?, alike.context]

theorem Inits.around {outfit : Outfit} {first last : Hub} (before : Alike leaf hub first)
    (inits : Inits leaf outfit first last) (behind : Alike leaf last after) : Inits leaf outfit hub after where
  fitted := behind.outfit?.trans inits.fitted
  cell := fun id known apart => by
    rw [Hub.cell, behind.cells]
    refine (inits.cell id (before.cells.symm ▸ known) apart).trans ?_
    rw [Hub.cell, before.cells]
    rfl
  flags := fun flags known => by
    rw [behind.flags, inits.flags flags (before.flags.symm ▸ known), before.flags]
  again := fun had has => by
    obtain ⟨same, only⟩ := inits.again had (before.outfit?.trans has)
    have passage := passage_onlyCell outfit.ok
    exact ⟨same, passage.trans (passage.trans (before.onlyCell _) only) (behind.onlyCell _)⟩

/-- The leaf is an LED or a keypad, and carries the state of one. -/
def Drives (hub : Hub) (leaf : LeafId) : Prop :=
  (hub.leaf leaf).leafClass.callbacks = .led ∧ (hub.led? leaf).isSome = true ∨
    (hub.leaf leaf).leafClass.callbacks = .keypad ∧ (hub.keypad? leaf).isSome = true

/-- The leaf is an LED or a keypad, but carries something else or nothing. -/
def Mistakes (hub : Hub) (leaf : LeafId) : Prop :=
  (hub.leaf leaf).leafClass.callbacks = .led ∧ hub.led? leaf = none ∨
    (hub.leaf leaf).leafClass.callbacks = .keypad ∧ hub.keypad? leaf = none

end Around

theorem allowsTurns_keepsTidy (leaf : LeafId) : AllowsTurns (Act.Keeps (KeepsTidy leaf)) where
  look := (passage_keepsTidy leaf).get
  log := (conduct_keepsTidy leaf).log
  turn := (conduct_keepsTidy leaf).takeTurn
    (fun _ _ _ => keepsTidy_aside)
    fun _ _ hub => (requeued_note _ hub).keepsTidy
  wait := (conduct_keepsTidy leaf).waitUntil

theorem allowsRequests_keepsTidy (leaf : LeafId) : AllowsRequests (Act.Keeps (KeepsTidy leaf)) where
  make := fun _ => keepsTidy_aside
  makeItem := fun item hub => Retains.steady
    { passage_retains.refl hub with
      items := by
        show hub.items.size ≤ (hub.items.add item).size
        simp
      item := fun id known => Pool.get_add_old known item } rfl
  submit := fun item hub => (requeued_submit item hub).keepsTidy
  schedule := fun item delay hub => (requeued_schedule item delay hub).keepsTidy
  reschedule := fun item delay hub => (requeued_reschedule item delay hub).keepsTidy
  cancel := fun item hub => (requeued_cancel item hub).keepsTidy
  shutdown := fun _ _ => keepsTidy_aside
  retain := fun _ _ => keepsTidy_aside
  release := fun _ _ => keepsTidy_aside

end Hub

namespace Routine

open Hub

variable {σ α : Type} {app : Application σ} {world : World σ} {leaf : LeafId}

/-- An init whose class is the hub's own ends after its one step. What comes before and after that step is not about
what the class does. -/
theorem returns_initLeaf_within {R : Hub → Hub → Prop} (passage : Passage R)
    (leafClass : ∀ {hub after}, R hub after → (after.leaf leaf).leafClass = (hub.leaf leaf).leafClass)
    (retained : Act.Keeps R (Hub.retain leaf)) (released : Act.Keeps R (Hub.release leaf))
    (begun : Act.Keeps R (Hub.beginInit leaf)) (ended : ∀ outcome, Act.Keeps R (Hub.endInit leaf outcome)) {attempt : Attempt Unit}
    (called : calls .init leaf (world.hub.leaf leaf).leafClass.callbacks = (liftM attempt.run : Routine σ (Except Fault Unit))) :
    ∃ between : Hub, R world.hub between ∧ ∃ after, (initLeaf leaf).Returns app world (attempt.run.run between).1 after ∧
      R (attempt.run.run between).2 after.hub := by
  have started : R world.hub ((world.after (Hub.retain leaf)).after (Hub.beginInit leaf)).hub :=
    passage.trans (retained world.hub) (begun _)
  have ends (outcome : Except Fault Unit) (last : World σ) :
      R last.hub ((last.after (Hub.endInit leaf outcome)).after (Hub.release leaf)).hub :=
    passage.trans (ended outcome last.hub) (released _)
  simp only [returns_initLeaf_iff, returns_callClass_iff, leafClass started, called, returns_act_iff]
  generalize (world.after (Hub.retain leaf)).after (Hub.beginInit leaf) = first at started
  exact ⟨first.hub, started, _, ⟨first.after attempt.run, ⟨rfl, rfl⟩, rfl⟩, ends _ (first.after attempt.run)⟩

theorem returns_initLeaf_of_calls {attempt : Attempt Unit}
    (called : calls .init leaf (world.hub.leaf leaf).leafClass.callbacks = (liftM attempt.run : Routine σ (Except Fault Unit))) :
    ∃ between : Hub, Alike leaf world.hub between ∧ ∃ after, (initLeaf leaf).Returns app world (attempt.run.run between).1 after ∧
      Alike leaf (attempt.run.run between).2 after.hub :=
  returns_initLeaf_within (passage_alike leaf) (fun alike => alike.leafClass) alike_retain alike_release alike_beginInit
    alike_endInit called

theorem returns_initLeaf_of_drives (drives : world.hub.Drives leaf) : ∃ outcome after outfit,
    (initLeaf leaf).Returns app world outcome after ∧ Inits leaf outfit world.hub after.hub := by
  obtain ⟨led, has⟩ | ⟨keypad, has⟩ := drives
  · obtain ⟨between, begun, after, returns, ended⟩ := @returns_initLeaf_of_calls σ app world leaf (ledPhase .init leaf) (by rw [led]; rfl)
    obtain ⟨state, holds⟩ := Option.isSome_iff_exists.mp has
    obtain ⟨outfit, inits⟩ := inits_led (led?_eq_some.mpr (begun.context.trans (led?_eq_some.mp holds)))
    exact ⟨_, after, outfit, returns, inits.around begun ended⟩
  · obtain ⟨between, begun, after, returns, ended⟩ := @returns_initLeaf_of_calls σ app world leaf (keypadPhase .init leaf) (by rw [keypad]; rfl)
    obtain ⟨state, holds⟩ := Option.isSome_iff_exists.mp has
    obtain ⟨outfit, inits⟩ := inits_keypad (keypad?_eq_some.mpr (begun.context.trans (keypad?_eq_some.mp holds)))
    exact ⟨_, after, outfit, returns, inits.around begun ended⟩

theorem returns_initLeaf_of_mistakes (mistakes : world.hub.Mistakes leaf) : ∃ after,
    (initLeaf leaf).Returns app world (.error .deviceUnavailable) after ∧ Alike leaf world.hub after.hub := by
  obtain ⟨led, bare⟩ | ⟨keypad, bare⟩ := mistakes
  · obtain ⟨between, begun, after, returns, ended⟩ := @returns_initLeaf_of_calls σ app world leaf (ledPhase .init leaf) (by rw [led]; rfl)
    have ran : (ledPhase .init leaf).run.run between = (.error .deviceUnavailable, between) := by
      refine run_ledOf_of_none ?_ _
      rw [led?, begun.context]
      exact bare
    rw [ran] at returns ended
    exact ⟨after, returns, (passage_alike leaf).trans begun ended⟩
  · obtain ⟨between, begun, after, returns, ended⟩ := @returns_initLeaf_of_calls σ app world leaf (keypadPhase .init leaf) (by rw [keypad]; rfl)
    obtain ⟨lines, ran⟩ : ∃ lines, (keypadPhase .init leaf).run.run between = (.error .deviceUnavailable, between.withLines lines) := by
      refine run_keypadPhase_of_none ?_
      rw [keypad?, begun.context]
      exact bare
    rw [ran] at returns ended
    have logged : Alike leaf between (between.withLines lines) := ⟨rfl, rfl, rfl, fun _ => rfl, rfl, rfl, rfl⟩
    exact ⟨after, returns, (passage_alike leaf).trans ((passage_alike leaf).trans begun logged) ended⟩

/-- However often an LED or a keypad is inited, how these inits end and what is done to the hub in between: what the
first of them made is registered once and stays in use, and of the cells that there are an init changes one. A leaf
without the state of its class gets nothing. -/
theorem fitted_out_once {routine : Routine σ α} (application : app.Uses (Act.Keeps (KeepsTidy leaf)))
    (uses : routine.Uses (Act.Keeps (KeepsTidy leaf))) (start : world.hub.Tidy leaf) :
    (AllowsLife σ (Act.Keeps (KeepsTidy leaf)) ∧ AllowsTurns (Act.Keeps (KeepsTidy leaf)) ∧
      AllowsMutations (Act.Keeps (KeepsTidy leaf)) ∧ AllowsRequests (Act.Keeps (KeepsTidy leaf)) ∧
      Attempt.Keeps (KeepsTidy leaf) initialise ∧
      ∀ command, Attempt.Keeps (KeepsTidy leaf) (registerCommand command)) ∧
    ∀ limit rest hub own, routine.run app limit world = (rest, ⟨hub, own⟩) →
      hub.leafList.count leaf ≤ 1 ∧ hub.commands.names.count (hub.leaf leaf).name ≤ 1 ∧
      (hub.Drives leaf → ∃ outcome after outfit, (initLeaf leaf).Returns app ⟨hub, own⟩ outcome after ∧
        Inits leaf outfit hub after.hub ∧ after.hub.Fitted leaf outfit) ∧
      (hub.Mistakes leaf → ∃ after, (initLeaf leaf).Returns app ⟨hub, own⟩ (.error .deviceUnavailable) after ∧
        Alike leaf hub after.hub) ∧
      ∀ outfit, hub.outfit? leaf = some outfit → ∀ more, ∃ later, (routine.run app (limit + more) world).2.hub = later ∧
        later.outfit? leaf = some outfit ∧ later.Fitted leaf outfit ∧ hub.Retains later := by
  have lifetime := lifetime_keepsTidy leaf
  have turns := allowsTurns_keepsTidy leaf
  have bodies := application.body turns
  have life : AllowsLife σ (Act.Keeps (KeepsTidy leaf)) := lifetime.allowsLife
  refine ⟨⟨life, turns, (conduct_keepsTidy leaf).allowsMutations, allowsRequests_keepsTidy leaf, lifetime.initialise,
    lifetime.registerCommand⟩, ?_⟩
  intro limit rest hub own ran
  have kept := uses.run_hub (passage_keepsTidy leaf) (fun keeps => keeps) bodies world limit
  have left := uses.run bodies world limit
  rw [ran] at kept left
  obtain ⟨_, tidy⟩ := kept start
  refine ⟨tidy.once, tidy.command, fun drives => ?_, fun mistakes => returns_initLeaf_of_mistakes mistakes, ?_⟩
  · obtain ⟨outcome, after, outfit, returns, inits⟩ := @returns_initLeaf_of_drives σ app ⟨hub, own⟩ leaf drives
    obtain ⟨_, still⟩ := returns.keeps (passage_keepsTidy leaf) (fun keeps => keeps) bodies (life.init leaf) tidy
    exact ⟨outcome, after, outfit, returns, inits, still.fitted outfit inits.fitted⟩
  · intro outfit has more
    obtain ⟨⟨retains, stays⟩, still⟩ := left.run_hub (passage_keepsTidy leaf) (fun keeps => keeps) bodies ⟨hub, own⟩ more tidy
    refine ⟨_, rfl, ?_⟩
    rw [run_add, ran]
    exact ⟨stays outfit has, still.fitted outfit (stays outfit has), retains⟩

/-- A hub with one LED, the pin of which refuses once. -/
def faintHub : Hub :=
  { fresh .standard with
    leaves := ⟨#[Leaf.fresh ⟨"lamp", none, .led⟩ "led" (some (.ledOn "pin"))]⟩
    pins := [("pin", ⟨[true], false⟩)] }

def faintWorld : World Unit where
  hub := faintHub
  own := ()

/-- Inits the LED, empties the lists, writes a cell and inits the LED again. -/
def initTwice : Routine Unit (Except Fault Unit) := do
  discard (initLeaf 0)
  discard (executeLine "boot")
  discard (store faintHub.nextLed.duty (.byte 0)).run
  initLeaf 0

theorem fitted_out_once_refused :
    (initTwice.run .silent 6 faintWorld).2.hub.commands.names = [] ∧
      (initTwice.run .silent 15 faintWorld).2.hub.commands.names = ["led"] ∧
      (initTwice.run .silent 15 faintWorld).2.hub.Fitted 0 (.led faintHub.nextLed) := by
  have tidy : faintWorld.hub.Tidy 0 :=
    { known := by decide
      listed := fun catalogue id member => by cases catalogue <;> cases member
      once := by decide
      command := by decide
      fitted := fun outfit has => by cases has }
  have life : AllowsLife Unit (Act.Keeps (KeepsTidy 0)) := (lifetime_keepsTidy 0).allowsLife
  have uses : initTwice.Uses (Act.Keeps (KeepsTidy 0)) := by
    refine uses_bind (uses_bind (life.init 0) fun _ => uses_pure _) fun _ => ?_
    refine uses_bind (uses_bind (life.shell "boot") fun _ => uses_pure _) fun _ => ?_
    refine uses_bind (uses_bind (uses_act ((conduct_keepsTidy 0).store _ _)) fun _ => uses_pure _) fun _ => ?_
    exact life.init 0
  obtain ⟨_, kept⟩ := fitted_out_once Application.uses_silent uses tidy
  have stays (limit more : Nat) (has : (initTwice.run .silent limit faintWorld).2.hub.outfit? 0 = some (.led faintHub.nextLed)) :
      (initTwice.run .silent (limit + more) faintWorld).2.hub.Fitted 0 (.led faintHub.nextLed) := by
    obtain ⟨_, _, _, _, stays⟩ := kept limit _ _ _ rfl
    obtain ⟨_, rfl, _, fitted, _⟩ := stays _ has more
    exact fitted
  refine ⟨by decide +kernel, by decide +kernel, ?_⟩
  rw [show 15 = 6 + 9 from rfl]
  exact stays 6 9 (by decide +kernel)

end Routine

end LeafHub
