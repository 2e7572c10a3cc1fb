import Mathlib.Data.List.Nodup
import LeafHub.Proofs.Hub.MutationEffect
import LeafHub.Proofs.Hub.Saving

namespace LeafHub

/-- A store, as it is seen by those who write to it. -/
structure Port where
  /-- The answer to a write, and the media afterwards. -/
  write : (ns key : String) → Bytes → Directory Medium → Except StorageFault Unit × Directory Medium
  /-- What a write leaves in the log. -/
  lines : (ns key : String) → Bytes → Directory Medium → List (Level × String)
  /-- What the store holds. -/
  bindings : Directory Medium → Bindings
  /-- What is true of a store that nobody tampers with. -/
  Sound : Directory Medium → Prop
  sound_write : ∀ {media} ns key value, Sound media → Sound (write ns key value media).2
  refused : ∀ {media ns key value fault}, Sound media → (write ns key value media).1 = .error fault →
    bindings (write ns key value media).2 = bindings media
  granted : ∀ {media ns key value}, Sound media → (write ns key value media).1 = .ok () →
    bindings (write ns key value media).2 = (bindings media).after (.write ns key value)

namespace Hub

/-- The hub with other media and more lines in the log. -/
def withMedia (hub : Hub) (media : Directory Medium) (lines : List (Level × String)) : Hub :=
  { hub.withLines lines with media }

/-- The media are these, and else nothing but lines in the log is new. -/
def OnlyMedia (hub : Hub) (media : Directory Medium) (after : Hub) : Prop :=
  ∃ lines, after = hub.withMedia media lines

theorem onlyMedia_withMedia (hub : Hub) (media : Directory Medium) (lines : List (Level × String)) :
    hub.OnlyMedia media (hub.withMedia media lines) :=
  ⟨lines, rfl⟩

theorem onlyMedia_withLines (hub : Hub) (lines : List (Level × String)) :
    hub.OnlyMedia hub.media (hub.withLines lines) :=
  ⟨lines, rfl⟩

theorem onlyMedia_refl (hub : Hub) : hub.OnlyMedia hub.media hub :=
  ⟨[], by rw [withMedia, withLines_nil]⟩

theorem OnlyMedia.trans {hub between after : Hub} {media more : Directory Medium} (first : hub.OnlyMedia media between)
    (second : between.OnlyMedia more after) : hub.OnlyMedia more after := by
  obtain ⟨lines, rfl⟩ := first
  obtain ⟨others, rfl⟩ := second
  have joined := (withLines_append hub lines others).symm
  exact ⟨lines ++ others, congrArg (fun hub : Hub => { hub with media := more }) joined⟩

theorem OnlyMedia.logged {hub after : Hub} {media : Directory Medium} (only : hub.OnlyMedia media after)
    (lines : List (Level × String)) : hub.OnlyMedia media (after.withLines lines) := by
  obtain ⟨others, rfl⟩ := only
  exact ⟨others ++ lines, congrArg (fun hub : Hub => { hub with media }) (withLines_append hub others lines).symm⟩

theorem OnlyMedia.media {hub after : Hub} {media : Directory Medium} (only : hub.OnlyMedia media after) :
    after.media = media := by
  obtain ⟨lines, rfl⟩ := only
  rfl

theorem OnlyMedia.sameSettings {hub after : Hub} {media : Directory Medium} (only : hub.OnlyMedia media after) :
    hub.SameSettings after := by
  obtain ⟨lines, rfl⟩ := only
  exact ⟨rfl, rfl, rfl, rfl⟩

end Hub

namespace Port

/-- Asks for a write. -/
def ask (port : Port) (ns key : String) (value : Bytes) : Act (Except StorageFault Unit) := do
  let hub ← get
  set (hub.withMedia (port.write ns key value hub.media).2 (port.lines ns key value hub.media))
  return (port.write ns key value hub.media).1

theorem run_ask (port : Port) (ns key : String) (value : Bytes) (hub : Hub) : (port.ask ns key value).run hub =
    ((port.write ns key value hub.media).1,
      hub.withMedia (port.write ns key value hub.media).2 (port.lines ns key value hub.media)) := rfl

/-- A named medium is a port, whatever its fault plan is. -/
def ofMedium (store : String) : Port where
  write := fun ns key value media =>
    let (answer, after) := ((media.get? store).getD .empty).write ns key value
    (answer, media.put store after)
  lines := fun ns key value media =>
    let medium := (media.get? store).getD .empty
    if (medium.plan.write medium.writes key).isNone && Store.validAddress ns key && medium.store.isTaken ns key then
      [(.warn, s!"NvsAdapter: slot {Slot.nameOf key} for {ns}/{key} is taken")]
    else []
  bindings := fun media => ((media.get? store).getD .empty).store.get?
  Sound := fun media => ((media.get? store).getD .empty).store.Sound
  sound_write := fun {media} ns key value sound => by
    simp only [Directory.get?_put_same, Option.getD_some, Medium.write]
    split
    · exact sound
    · split
      · rename_i granted
        exact (sound.serve (show Store.serve _ (.write ns key value) = .ok _ from granted)).1
      · exact sound
  refused := fun {media ns key value fault} _ refused => by
    simp only [Directory.get?_put_same, Option.getD_some]
    exact congrArg Store.get? (Medium.write_of_error (Prod.ext refused rfl))
  granted := fun {media ns key value} sound granted => by
    simp only [Directory.get?_put_same, Option.getD_some]
    exact (sound.serve (show Store.serve _ (.write ns key value) = .ok _ from Medium.write_of_ok granted)).2

theorem ask_ofMedium (store : String) : (ofMedium store).ask = Hub.writeKey store := by
  funext ns key value hub
  show ((ofMedium store).ask ns key value).run hub = (Hub.writeKey store ns key value).run hub
  unfold Hub.writeKey
  rw [run_ask, Act.run_bind_of (Act.run_get hub)]
  dsimp only [ofMedium, Hub.medium]
  rw [StateT.run_bind]
  split
  · simp only [Hub.withMedia, Hub.withLines, List.map_cons, List.map_nil, Array.append_singleton]
    rfl
  · rw [Hub.withMedia, Hub.withLines_nil]
    rfl

end Port

end LeafHub
