import LeafHub.Hub.Keypad

namespace LeafHub.Hub

/-- Whether the pin of a key is high. -/
def isHigh (pins : UInt8) (key : Nat) : Bool :=
  pins.toBitVec.getLsbD key

/-- The event of a key whose pin has gone high or low. -/
def keyEvent (high : Bool) (key : Nat) : UInt32 :=
  (if high then releaseBit else pressBit) ||| 1 <<< UInt32.ofNat key

/-- The keys whose pins are not the same, in ascending order. -/
def changedKeys (before now : UInt8) : List Nat :=
  (List.range 8).filter fun key => isHigh before key != isHigh now key

/-- The events of a change of the pins. -/
def keyEvents (before now : UInt8) : List UInt32 :=
  (changedKeys before now).map fun key => keyEvent (isHigh now key) key

/-- The pins after an event: a press clears the bit of its key, and a release sets it. -/
def follow (pins : UInt8) (event : UInt32) : UInt8 :=
  if event &&& pressBit ≠ 0 then pins &&& ~~~event.toUInt8
  else if event &&& releaseBit ≠ 0 then pins ||| event.toUInt8
  else pins

/-- The pins after events, one after the other. -/
def replay (pins : UInt8) (events : List UInt32) : UInt8 :=
  events.foldl follow pins

theorem replay_append (pins : UInt8) (events more : List UInt32) :
    replay pins (events ++ more) = replay (replay pins events) more :=
  List.foldl_append

/-- Pins are told apart by their keys. -/
theorem eq_of_isHigh {first second : UInt8} (same : ∀ key < 8, isHigh first key = isHigh second key) : first = second :=
  UInt8.toBitVec_inj.mp (BitVec.eq_of_getLsbD_eq fun key below => same key below)

theorem and_mask (pins : UInt8) {key : Nat} (below : key < 8) :
    pins &&& 1 <<< UInt8.ofNat key = if isHigh pins key then 1 <<< UInt8.ofNat key else 0 := by
  have single : ∀ key < 8, ∀ other < 8, isHigh (1 <<< UInt8.ofNat key) other = decide (other = key) := by decide
  refine eq_of_isHigh fun other within => ?_
  have own : isHigh (pins &&& 1 <<< UInt8.ofNat key) other = (isHigh pins other && decide (other = key)) := by
    rw [← single key below other within]
    simp [isHigh]
  have none : isHigh 0 other = false := by simp [isHigh]
  rw [own, apply_ite (isHigh · other), single key below other within, none]
  by_cases here : other = key
  · subst here
    cases isHigh pins other <;> simp
  · simp [here]

/-- What a mask shows of two readings. -/
theorem and_mask_eq_iff (before now : UInt8) {key : Nat} (below : key < 8) :
    before &&& 1 <<< UInt8.ofNat key = now &&& 1 <<< UInt8.ofNat key ↔ isHigh before key = isHigh now key := by
  have lit : ∀ key < 8, (1 : UInt8) <<< UInt8.ofNat key ≠ 0 := by decide
  rw [and_mask before below, and_mask now below]
  cases isHigh before key <;> cases isHigh now key <;> simp [lit key below, (lit key below).symm]

theorem and_mask_eq_zero_iff (pins : UInt8) {key : Nat} (below : key < 8) :
    pins &&& 1 <<< UInt8.ofNat key = 0 ↔ isHigh pins key = false := by
  have lit : ∀ key < 8, (1 : UInt8) <<< UInt8.ofNat key ≠ 0 := by decide
  rw [and_mask pins below]
  cases isHigh pins key <;> simp [lit key below]

/-- An event moves the bit of its own key and no other. -/
theorem isHigh_follow (pins : UInt8) (high : Bool) {key other : Nat} (below : key < 8) (within : other < 8) :
    isHigh (follow pins (keyEvent high key)) other = if other = key then high else isHigh pins other := by
  have shape : ∀ high, ∀ key < 8, (keyEvent high key &&& pressBit ≠ 0 ↔ high = false) ∧
      (keyEvent high key &&& releaseBit ≠ 0 ↔ high = true) := by decide
  have bits : ∀ high, ∀ key < 8, ∀ other < 8, isHigh (keyEvent high key).toUInt8 other = decide (other = key) := by decide
  obtain ⟨pressed, released⟩ := shape high key below
  have own := bits high key below other within
  cases high with
  | false =>
    rw [follow, if_pos (pressed.mpr rfl)]
    have cleared : isHigh (pins &&& ~~~(keyEvent false key).toUInt8) other =
        (isHigh pins other && !isHigh (keyEvent false key).toUInt8 other) := by
      simp only [isHigh, UInt8.toBitVec_and, UInt8.toBitVec_not, BitVec.getLsbD_and, BitVec.getLsbD_not, within,
        decide_true, Bool.true_and]
    rw [cleared, own]
    split <;> simp_all
  | true =>
    rw [follow, if_neg (mt pressed.mp nofun), if_pos (released.mpr rfl)]
    have set : isHigh (pins ||| (keyEvent true key).toUInt8) other =
        (isHigh pins other || isHigh (keyEvent true key).toUInt8 other) := by
      simp only [isHigh, UInt8.toBitVec_or, BitVec.getLsbD_or]
    rw [set, own]
    split <;> simp_all

/-- After some events of a change, the keys that they are about are as they are now. -/
theorem isHigh_replay (now : UInt8) {keys : List Nat} (below : ∀ key ∈ keys, key < 8) (pins : UInt8) {other : Nat}
    (within : other < 8) : isHigh (replay pins (keys.map fun key => keyEvent (isHigh now key) key)) other =
      if other ∈ keys then isHigh now other else isHigh pins other := by
  induction keys generalizing pins with
  | nil => rfl
  | cons key rest ih =>
    show isHigh (replay (follow pins (keyEvent (isHigh now key) key)) _) other = _
    rw [ih (fun other member => below other (List.mem_cons_of_mem _ member)),
      isHigh_follow pins _ (below key List.mem_cons_self) within]
    by_cases here : other = key
    · simp [here]
    · simp [here]

theorem replay_keyEvents (before now : UInt8) : replay before (keyEvents before now) = now := by
  refine eq_of_isHigh fun key below => ?_
  have keys : ∀ key ∈ changedKeys before now, key < 8 := fun key member =>
    List.mem_range.mp (List.mem_filter.mp member).1
  rw [keyEvents, isHigh_replay now keys before below]
  split
  · rfl
  · rename_i same
    simpa [changedKeys, below] using same

example : keyEvents 0xFF 0xFA = [0x08000001, 0x08000004] := by decide

end LeafHub.Hub
