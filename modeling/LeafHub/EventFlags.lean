namespace LeafHub

/-- The number of an event object. -/
abbrev FlagsId := Nat

namespace EventFlags

/-- Adds bits to the set. -/
def post (current bits : UInt32) : UInt32 :=
  current ||| bits

/-- Drops bits from the set. -/
def clear (current bits : UInt32) : UInt32 :=
  current &&& ~~~bits

/-- What a wait ends with. -/
structure Outcome where
  /-- The bits of the mask that were seen; none of them after a timeout. -/
  matched : UInt32
  /-- The set after the wait. -/
  bits : UInt32
  /-- The time at which the wait ended. -/
  time : Nat

/-- Waits from `now` on until a bit of the mask is set, at most until `deadline`. With `reset` the set is cleared
first. `arrival` is what somebody else posts meanwhile, and when; it is part of the set afterwards in any case. -/
def wait (current mask : UInt32) (reset : Bool) (now : Nat) (deadline : Option Nat)
    (arrival : Option (Nat × UInt32)) : Outcome :=
  let start := if reset then 0 else current
  match arrival with
  | none =>
    if start &&& mask ≠ 0 then ⟨start &&& mask, start, now⟩ else ⟨0, start, deadline.getD now⟩
  | some (time, bits) =>
    let later := post start bits
    if start &&& mask ≠ 0 then ⟨start &&& mask, later, max now time⟩
    else if later &&& mask ≠ 0 ∧ (∀ limit ∈ deadline, time < limit) then ⟨later &&& mask, later, max now time⟩
    else ⟨0, later, max time (deadline.getD time)⟩

end EventFlags

end LeafHub
