import LeafHub.Drain
import LeafHub.Proofs.Hub.Attempt

namespace LeafHub

variable {ε α β : Type}

/-- Every run of the step stays within the relation. -/
def Act.Keeps (R : Hub → Hub → Prop) (act : Act α) : Prop :=
  ∀ hub, R hub (act.run hub).2

/-- As `Act.Keeps`, also when the attempt fails. -/
def Attempt.Keeps (R : Hub → Hub → Prop) (attempt : ExceptT ε Act α) : Prop :=
  Act.Keeps R attempt.run

theorem Act.Keeps.of_run {R : Hub → Hub → Prop} {act : Act α} (keeps : act.Keeps R) {hub after : Hub} {answer : α}
    (done : act.run hub = (answer, after)) : R hub after := by
  have kept := keeps hub
  rwa [done] at kept

/-- The kind of the value that a payload holds. -/
def Payload.kind : Payload → Kind
  | .string _ => .string
  | .bool _ => .bool
  | .byte _ => .byte
  | .uint16 _ => .uint16
  | .int16 _ => .int16
  | .int32 _ => .int32
  | .int64 _ => .int64
  | .event _ => .event

namespace Payload

@[simp] theorem kind_ofValue (flags : FlagsId) (value : Value) : (ofValue flags value).kind = value.kind := by
  cases value <;> rfl

@[simp] theorem kind_value (bits : UInt32) (payload : Payload) : (payload.value bits).kind = payload.kind := by
  cases payload <;> rfl

end Payload

namespace Happening

/-- The cell that was changed, if that is what happened. -/
def changed? : Happening → Option CellId
  | .stored cell .. | .counted cell .. | .posted cell .. => some cell
  | _ => none

/-- Whether it was neither a change of a cell nor the beginning of a run. -/
def isPlain : Happening → Bool
  | .log .. | .pin .. | .bus .. => true
  | _ => false

end Happening

/-- A relation that holds of doing nothing, and of one thing after another. -/
structure Passage (R : Hub → Hub → Prop) : Prop where
  refl : ∀ hub, R hub hub
  trans : ∀ {first second third}, R first second → R second third → R first third

/-- A relation that the elementary changes stay within that come of cells being written, of settings being kept and
of the hub's own handlers. A change of a cell and the submission of its subscriber count as one. -/
structure Conduct (R : Hub → Hub → Prop) : Prop extends Passage R where
  noted : ∀ hub (happening : Happening), happening.isPlain = true →
    R hub { hub with journal := hub.journal.push happening }
  told : ∀ id (happening : Happening), happening.changed? = some id → Act.Keeps R (do
    Hub.note happening
    Hub.notify id)
  filled : ∀ hub id (value : Value), value.kind = (hub.cell id).kind →
    ((hub.cell id).payload.kind = .event → value.kind ≠ .event) →
      R hub { hub with cells := hub.cells.set id { hub.cell id with payload := .ofValue 0 value } }
  counted : ∀ hub id before after, (hub.cell id).payload = .int64 before →
    R hub { hub with cells := hub.cells.set id { hub.cell id with payload := .int64 after } }
  flagged : ∀ hub id bits, R hub { hub with flags := hub.flags.set id bits }
  lit : ∀ hub id state lit, hub.led? id = some state → R hub ((Hub.setContext id (.led { state with lit })).run hub).2
  scheduled : ∀ hub id bus cells delay, hub.keypad? id = some ⟨bus, some cells, true⟩ →
    R hub ((Hub.schedule cells.scan delay).run hub).2
  pinned : ∀ hub pins, R hub { hub with pins }
  bussed : ∀ hub buses, R hub { hub with buses }
  stored : ∀ hub media, R hub { hub with media }
  waited : ∀ hub time, R hub { hub with clock := max hub.clock time }

/-- A relation that all elementary changes stay within. Leaves change their context only: the flags of a leaf are a
matter of its life. -/
structure Frame (R : Hub → Hub → Prop) : Prop extends Conduct R where
  celled : ∀ hub name (initial : Value), initial.kind ≠ .event →
    R hub { hub with cells := hub.cells.add ⟨name, initial.kind, .ofValue 0 initial, none⟩ }
  eventCelled : ∀ hub name bits, R hub { hub with
    flags := hub.flags.add bits
    cells := hub.cells.add ⟨name, .event, .event hub.flags.size, none⟩ }
  subscribed : ∀ hub id subscriber, R hub { hub with cells := hub.cells.set id { hub.cell id with subscriber } }
  flagsMade : ∀ hub bits, R hub { hub with flags := hub.flags.add bits }
  itemMade : ∀ hub item, R hub { hub with items := hub.items.add item }
  rescheduled : ∀ id delay, Act.Keeps R (Hub.reschedule id delay)
  cancelled : ∀ id, Act.Keeps R (Hub.cancel id)
  contexted : ∀ id context, Act.Keeps R (Hub.setContext id context)
  retained : ∀ id, Act.Keeps R (Hub.retain id)
  released : ∀ id, Act.Keeps R (Hub.release id)
  listed : ∀ hub variableList settingList, R hub { hub with variableList, settingList }
  catalogued : ∀ hub classes leafList commands identity initialised,
    R hub { hub with classes, leafList, commands, identity, initialised }

namespace Passage

variable {R : Hub → Hub → Prop} (passage : Passage R)

include passage

protected theorem pure (answer : α) : Act.Keeps R (pure answer) :=
  fun hub => passage.refl hub

protected theorem bind {act : Act α} {next : α → Act β} (first : act.Keeps R) (rest : ∀ answer, (next answer).Keeps R) :
    Act.Keeps R (act >>= next) :=
  fun hub => passage.trans (first hub) (rest _ _)

protected theorem get : Act.Keeps R (get : Act Hub) :=
  fun hub => passage.refl hub

theorem tryPure (answer : α) : Attempt.Keeps R (pure answer : ExceptT ε Act α) :=
  fun hub => passage.refl hub

theorem tryBind {attempt : ExceptT ε Act α} {next : α → ExceptT ε Act β} (first : Attempt.Keeps R attempt)
    (rest : ∀ answer, Attempt.Keeps R (next answer)) : Attempt.Keeps R (attempt >>= next) := by
  intro hub
  rw [Attempt.run_bind]
  have start := first hub
  split
  · rename_i answer after done
    rw [done] at start
    exact passage.trans start (rest answer after)
  · rename_i fault after done
    rwa [done] at start

theorem tryGet : Attempt.Keeps R (get : ExceptT ε Act Hub) :=
  fun hub => passage.refl hub

theorem tryThrow (fault : ε) : Attempt.Keeps R (throw fault : ExceptT ε Act α) :=
  fun hub => passage.refl hub

/-- What would come after a fault does not matter. -/
theorem tryFail (fault : ε) (next : α → ExceptT ε Act β) : Attempt.Keeps R (throw fault >>= next) :=
  fun hub => passage.refl hub

theorem tryCatch {attempt : ExceptT ε Act α} {handler : ε → ExceptT ε Act α} (first : Attempt.Keeps R attempt)
    (rest : ∀ fault, Attempt.Keeps R (handler fault)) : Attempt.Keeps R (MonadExcept.tryCatch attempt handler) := by
  intro hub
  rw [Attempt.run_tryCatch]
  have start := first hub
  split
  · rename_i answer after done
    rwa [done] at start
  · rename_i fault after done
    rw [done] at start
    exact passage.trans start (rest fault after)

omit passage in
theorem tryLift {act : Act α} (first : act.Keeps R) : Attempt.Keeps R (liftM act : ExceptT ε Act α) :=
  fun hub => first hub

omit passage in
protected theorem discard {act : Act α} (first : act.Keeps R) : Act.Keeps R (Functor.discard act) :=
  fun hub => first hub

theorem each {step : α → Act PUnit} (steps : ∀ item, (step item).Keeps R) (items : List α) :
    Act.Keeps R (items.forM step) := by
  induction items with
  | nil => exact passage.pure _
  | cons item rest ih => exact passage.bind (steps item) fun _ => ih

theorem eachOption {step : α → Act PUnit} (steps : ∀ item, (step item).Keeps R) (item : Option α) :
    Act.Keeps R (item.forM step) := by
  cases item with
  | none => exact passage.pure _
  | some item => exact steps item

theorem tryEach {step : α → ExceptT ε Act PUnit} (steps : ∀ item, Attempt.Keeps R (step item)) (items : List α) :
    Attempt.Keeps R (items.forM step) := by
  induction items with
  | nil => exact passage.tryPure _
  | cons item rest ih => exact passage.tryBind (steps item) fun _ => ih

omit passage in
theorem look {next : Hub → Act α} (rest : ∀ hub, R hub ((next hub).run hub).2) : Act.Keeps R (get >>= next) :=
  fun hub => rest hub

omit passage in
/-- An attempt whose first act is to look at the hub. -/
theorem tryLook {next : Hub → ExceptT ε Act α} (rest : ∀ hub, R hub ((next hub).run.run hub).2) :
    Attempt.Keeps R (get >>= next) := by
  intro hub
  rw [Attempt.run_bind]
  exact rest hub

end Passage

namespace Passage

variable {R : Hub → Hub → Prop} (passage : Passage R)

include passage

theorem notify (submitted : ∀ id, Act.Keeps R (Hub.submit id)) (id : CellId) : Act.Keeps R (Hub.notify id) := by
  unfold Hub.notify
  refine passage.bind passage.get fun hub => ?_
  split
  · exact Passage.discard (submitted _)
  · exact passage.pure _

/-- Where a note and a submission stay within a relation one by one, a change of a cell does. -/
theorem told {happening : Happening} (noted : Act.Keeps R (Hub.note happening))
    (submitted : ∀ id, Act.Keeps R (Hub.submit id)) (id : CellId) : Act.Keeps R (do
      Hub.note happening
      Hub.notify id) :=
  passage.bind noted fun _ => passage.notify submitted id

end Passage

namespace Hub

variable {R : Hub → Hub → Prop}

/-- What is read is stored, and a fault in reading it is all that happens else. -/
theorem run_storeText (hub : Hub) (cell : CellId) (text : String) : (storeText cell text).run.run hub =
    match (hub.cell cell).kind.ofText text with
    | .ok value => (store cell value).run.run hub
    | .error fault => (.error fault, hub) := by
  unfold storeText
  rw [Attempt.run_bind_of (Attempt.run_get hub)]
  cases (hub.cell cell).kind.ofText text <;> rfl

theorem run_storeRaw (hub : Hub) (cell : CellId) (raw : Bytes) : (storeRaw cell raw).run.run hub =
    match (hub.cell cell).kind.ofRaw raw with
    | .ok value => (store cell value).run.run hub
    | .error fault => (.error fault, hub) := by
  unfold storeRaw
  rw [Attempt.run_bind_of (Attempt.run_get hub)]
  cases (hub.cell cell).kind.ofRaw raw <;> rfl

theorem keeps_storeText {hub : Hub} {cell : CellId} (passage : Passage R)
    (stored : ∀ value, R hub ((store cell value).run.run hub).2) (text : String) :
    R hub ((storeText cell text).run.run hub).2 := by
  rw [run_storeText]
  split
  · exact stored _
  · exact passage.refl hub

theorem keeps_storeRaw {hub : Hub} {cell : CellId} (passage : Passage R)
    (stored : ∀ value, R hub ((store cell value).run.run hub).2) (raw : Bytes) :
    R hub ((storeRaw cell raw).run.run hub).2 := by
  rw [run_storeRaw]
  split
  · exact stored _
  · exact passage.refl hub

end Hub

namespace Conduct

open Hub Passage

variable {R : Hub → Hub → Prop} (conduct : Conduct R)

include conduct

theorem note (happening : Happening) (plain : happening.isPlain = true) : Act.Keeps R (Hub.note happening) :=
  fun hub => conduct.noted hub happening plain

theorem log (level : Level) (line : String) : Act.Keeps R (Hub.log level line) :=
  conduct.note _ rfl

theorem setFlags (id : FlagsId) (bits : UInt32) : Act.Keeps R (Hub.setFlags id bits) :=
  fun hub => conduct.flagged hub id bits

theorem setMedium (name : String) (medium : Medium) : Act.Keeps R (Hub.setMedium name medium) :=
  fun hub => conduct.stored hub _

theorem waitUntil (time : Nat) : Act.Keeps R (Hub.waitUntil time) :=
  fun hub => conduct.waited hub time

theorem store (id : CellId) (value : Value) : Attempt.Keeps R (Hub.store id value) := by
  unfold Hub.store
  refine tryLook fun hub => ?_
  have told : Attempt.Keeps R ((do
      Hub.note (.stored id (hub.cell id).name value)
      Hub.notify id) : Attempt Unit) :=
    fun hub => conduct.told id (.stored id _ value) rfl hub
  dsimp only
  split
  · exact conduct.tryBind (tryLift (conduct.log _ _)) (fun _ => conduct.tryFail _ _) hub
  · rename_i same
    split
    · exact conduct.tryBind (tryLift (conduct.setFlags _ _)) (fun _ => told) hub
    · rename_i value _ _ apart
      have filled := conduct.filled hub id value (Decidable.of_not_not same) fun event sort => by
        cases value <;> cases sort
        cases payload : (hub.cell id).payload <;> rw [payload] at event <;> cases event
        exact apart _ _ payload rfl
      exact conduct.trans filled (told _)

theorem storeRaw (id : CellId) (raw : Bytes) : Attempt.Keeps R (Hub.storeRaw id raw) :=
  fun hub => keeps_storeRaw conduct.toPassage (fun value => conduct.store id value hub) raw

theorem storeText (id : CellId) (text : String) : Attempt.Keeps R (Hub.storeText id text) :=
  fun hub => keeps_storeText conduct.toPassage (fun value => conduct.store id value hub) text

theorem count (id : CellId) (delta : Int64) : Attempt.Keeps R (Hub.count id delta) := by
  unfold Hub.count
  refine tryLook fun hub => ?_
  dsimp only
  split
  · rename_i n held
    have counted := conduct.counted hub id n (n + delta) held
    exact conduct.trans counted (conduct.told id (.counted id _ (n + delta)) rfl _)
  · exact conduct.refl hub

theorem flagsOf (id : CellId) : Attempt.Keeps R (Hub.flagsOf id) := by
  unfold Hub.flagsOf
  refine conduct.tryBind conduct.tryGet fun hub => ?_
  split
  · exact conduct.tryPure _
  · exact conduct.tryThrow _

theorem post (id : CellId) (bits : UInt32) : Attempt.Keeps R (Hub.post id bits) := by
  unfold Hub.post
  refine conduct.tryBind (conduct.flagsOf id) fun flags => ?_
  refine conduct.tryBind conduct.tryGet fun hub => ?_
  refine conduct.tryBind (tryLift (conduct.setFlags _ _)) fun _ => ?_
  exact fun hub => conduct.told id (.posted id _ bits) rfl hub

theorem waitFlags (flags : FlagsId) (mask : UInt32) (reset : Bool) (limit : Option Nat)
    (arrival : Option (Nat × UInt32)) : Act.Keeps R (Hub.waitFlags flags mask reset limit arrival) := by
  unfold Hub.waitFlags
  refine conduct.bind conduct.get fun hub => ?_
  refine conduct.bind (conduct.setFlags _ _) fun _ => ?_
  exact conduct.bind (conduct.waitUntil _) fun _ => conduct.pure _

theorem waitEvent (id : CellId) (mask : UInt32) (reset : Bool) (limit : Option Nat) :
    Attempt.Keeps R (Hub.waitEvent id mask reset limit) :=
  conduct.tryBind (conduct.flagsOf id) fun _ => tryLift (conduct.waitFlags _ _ _ _ _)

end Conduct

/-- A passage that lines in the log stay within. -/
structure Logging (R : Hub → Hub → Prop) : Prop extends Passage R where
  logged : ∀ level line, Act.Keeps R (Hub.log level line)

/-- A relation that the lists of the hub change within, whatever is registered. -/
structure Cataloguing (R : Hub → Hub → Prop) : Prop extends Logging R where
  catalogued : ∀ hub classes leafList commands identity initialised,
    R hub { hub with classes, leafList, commands, identity, initialised }

/-- A relation that the operations on the lists of classes, leaves and commands stay within. -/
structure Listing (R : Hub → Hub → Prop) : Prop extends Logging R where
  emptied : ∀ hub, R hub { hub with classes := [], leafList := [] }
  identified : ∀ hub identity, R hub { hub with identity, initialised := true }
  classed : ∀ hub leafClass, R hub { hub with classes := hub.classes ++ [leafClass] }
  joined : ∀ hub id, id ∉ hub.leafList → R hub { hub with leafList := hub.leafList ++ [id] }
  bound : ∀ hub command commands, hub.commands.insert command = .ok commands → R hub { hub with commands }

/-- A relation that registering classes and initialising the hub stays within. -/
structure Registering (R : Hub → Hub → Prop) : Prop extends Logging R where
  initialise : Attempt.Keeps R Hub.initialise
  registerClass : ∀ leafClass, Act.Keeps R (Hub.registerClass leafClass)

theorem Logging.subscribe {R : Hub → Hub → Prop} (logging : Logging R) {hub : Hub} {id : CellId} {item : ItemId}
    (subscribed : R hub { hub with cells := hub.cells.set id { hub.cell id with subscriber := some item } }) :
    R hub ((Hub.subscribe id item).run.run hub).2 := by
  unfold Hub.subscribe
  rw [Attempt.run_bind, Attempt.run_get]
  dsimp only
  split
  · exact logging.tryBind (Passage.tryLift (logging.logged _ _)) (fun _ => logging.tryFail _ _) hub
  · exact subscribed

theorem Logging.bindCommand {R : Hub → Hub → Prop} (logging : Logging R)
    (bound : ∀ hub command commands, hub.commands.insert command = .ok commands → R hub { hub with commands })
    (command : Command) : Attempt.Keeps R (Hub.registerCommand command) := by
  intro hub
  have logged := logging.logged .debug s!"command register {command.name}" hub
  unfold Hub.registerCommand Hub.insertCommand
  rw [Attempt.run_bind, Attempt.run_get]
  dsimp only
  rw [Attempt.run_bind, Attempt.run_bind, Attempt.run_lift]
  dsimp only
  cases inserted : hub.commands.insert command with
  | ok after => exact logging.trans logged (bound _ command after inserted)
  | error fault => exact logging.trans logged (logging.logged _ _ _)

namespace Listing

open Passage

variable {R : Hub → Hub → Prop} (lists : Listing R)

include lists

theorem initialise : Attempt.Keeps R Hub.initialise := by
  unfold Hub.initialise
  refine lists.tryBind (tryLift (lists.logged _ _)) fun _ => ?_
  refine lists.tryBind lists.tryGet fun hub => ?_
  dsimp only
  split
  · exact lists.tryBind (tryLift (lists.logged _ _)) fun _ => lists.tryFail _ _
  · refine lists.tryBind (fun hub => lists.emptied hub) fun _ => ?_
    refine lists.tryBind (tryLift (lists.logged _ _)) fun _ => ?_
    refine lists.tryBind (fun hub => lists.identified hub _) fun _ => ?_
    exact tryLift (lists.logged _ _)

theorem registerClass (leafClass : LeafClass) : Act.Keeps R (Hub.registerClass leafClass) := by
  have added : Act.Keeps R (modify fun hub => { hub with classes := hub.classes ++ [leafClass] }) :=
    fun hub => lists.classed hub leafClass
  unfold Hub.registerClass
  refine lists.bind (lists.logged _ _) fun _ => ?_
  refine lists.bind lists.get fun hub => ?_
  split
  · exact lists.bind (lists.logged _ _) fun _ => added
  · exact added

theorem registerLeaf (id : LeafId) : Act.Keeps R (Hub.registerLeaf id) := by
  unfold Hub.registerLeaf
  refine Passage.look fun hub => ?_
  split
  · exact lists.refl hub
  · rename_i absent
    have apart : id ∉ hub.leafList := fun member => absent (List.contains_iff_mem.mpr member)
    dsimp only
    split
    · exact lists.trans (lists.logged _ _ hub) (lists.joined _ id apart)
    · exact lists.joined hub id apart

theorem registerCommand (command : Command) : Attempt.Keeps R (Hub.registerCommand command) :=
  lists.toLogging.bindCommand lists.bound command

theorem registering : Registering R where
  toLogging := lists.toLogging
  initialise := lists.initialise
  registerClass := lists.registerClass

end Listing

namespace Cataloguing

variable {R : Hub → Hub → Prop} (lists : Cataloguing R)

include lists

theorem listing : Listing R where
  toLogging := lists.toLogging
  emptied := fun hub => lists.catalogued hub [] [] _ _ _
  identified := fun hub identity => lists.catalogued hub _ _ _ identity true
  classed := fun hub leafClass => lists.catalogued hub (hub.classes ++ [leafClass]) hub.leafList _ _ _
  joined := fun hub id _ => lists.catalogued hub hub.classes (hub.leafList ++ [id]) _ _ _
  bound := fun hub _ commands _ => lists.catalogued hub hub.classes hub.leafList commands _ _

theorem registerLeaf (id : LeafId) : Act.Keeps R (Hub.registerLeaf id) :=
  lists.listing.registerLeaf id

theorem registerCommand (command : Command) : Attempt.Keeps R (Hub.registerCommand command) :=
  lists.listing.registerCommand command

theorem registering : Registering R :=
  lists.listing.registering

end Cataloguing

namespace Frame

open Passage

variable {R : Hub → Hub → Prop} (frame : Frame R)

include frame

theorem logging : Logging R where
  toPassage := frame.toPassage
  logged := frame.log

theorem newItem (item : WorkItem) : Act.Keeps R (Hub.newItem item) :=
  fun hub => frame.itemMade hub item

theorem subscribe (id : CellId) (item : ItemId) : Attempt.Keeps R (Hub.subscribe id item) :=
  fun hub => frame.logging.subscribe (frame.subscribed hub id (some item))

theorem unsubscribe (id : CellId) : Act.Keeps R (Hub.unsubscribe id) :=
  fun hub => frame.subscribed hub id none

/-- An event cell gets an event object that no other cell has. -/
theorem madeCell (name : String) (initial : Value) : Act.Keeps R (do
    let flags ← match initial with
      | .event bits => Hub.newFlags bits
      | _ => pure 0
    let hub ← get
    set { hub with
      cells := hub.cells.add
        ⟨Cell.boundedName name, initial.kind, .ofValue flags initial, none⟩ }
    return hub.cells.size) := by
  intro hub
  cases initial with
  | event bits => exact frame.eventCelled hub _ bits
  | _ => exact frame.celled hub _ _ fun event => by cases event

theorem newCell (name : String) (initial : Value) : Act.Keeps R (Hub.newCell name initial) := by
  unfold Hub.newCell
  dsimp only
  split
  · exact frame.bind (frame.log _ _) fun _ => frame.madeCell name initial
  · exact frame.madeCell name initial

theorem newDefinedFor (leaf : String) (row : Definition) : Act.Keeps R (Hub.newDefinedFor leaf row) :=
  frame.newCell _ _

theorem register (catalogue : Catalogue) (ids : List CellId) : Act.Keeps R (Hub.register catalogue ids) := by
  suffices each : ∀ total index, Act.Keeps R (Hub.registerFrom catalogue total index ids) from each _ _
  intro total
  induction ids with
  | nil => exact fun _ => frame.pure _
  | cons id rest ih =>
    intro index
    have appended : Act.Keeps R (Hub.append catalogue id) := by
      intro hub
      cases catalogue with
      | runtime => exact frame.listed hub _ hub.settingList
      | persistent => exact frame.listed hub hub.variableList _
    have entered (hub : Hub) : Act.Keeps R (do
        Hub.log .debug s!"register {catalogue.label} {index}/{total}: {(hub.cell id).name} kind={(hub.cell id).kind.name}"
        Hub.append catalogue id
        Hub.registerFrom catalogue total (index + 1) rest) :=
      frame.bind (frame.log _ _) fun _ => frame.bind appended fun _ => ih (index + 1)
    unfold Hub.registerFrom
    refine frame.bind frame.get fun hub => ?_
    dsimp only
    split
    · exact frame.bind (frame.log _ _) fun _ => entered hub
    · exact entered hub

theorem registerVariables (ids : List CellId) : Act.Keeps R (Hub.registerVariables ids) :=
  frame.register _ _

theorem registerSettings (ids : List CellId) : Act.Keeps R (Hub.registerSettings ids) :=
  frame.bind (frame.log _ _) fun _ => frame.register _ _

theorem addSetting (name : String) (initial : Value) : Act.Keeps R (Hub.addSetting name initial) :=
  frame.bind (frame.newCell _ _) fun _ => frame.bind (frame.register _ _) fun _ => frame.pure _

theorem cataloguing : Cataloguing R where
  toLogging := frame.logging
  catalogued := frame.catalogued

theorem initialise : Attempt.Keeps R Hub.initialise :=
  frame.cataloguing.listing.initialise

theorem registerClass (leafClass : LeafClass) : Act.Keeps R (Hub.registerClass leafClass) :=
  frame.cataloguing.listing.registerClass leafClass

theorem registerLeaf (id : LeafId) : Act.Keeps R (Hub.registerLeaf id) :=
  frame.cataloguing.registerLeaf id

theorem registerCommand (command : Command) : Attempt.Keeps R (Hub.registerCommand command) :=
  frame.cataloguing.registerCommand command

end Frame

end LeafHub
