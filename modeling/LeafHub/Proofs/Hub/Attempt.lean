import LeafHub.Hub.Basic

namespace LeafHub

variable {ε α β : Type}

theorem Act.of_run_bind {act : Act α} {next : α → Act β} {hub after : Hub} {answer : β}
    (done : (act >>= next).run hub = (answer, after)) :
    ∃ first between, act.run hub = (first, between) ∧ (next first).run between = (answer, after) :=
  ⟨_, _, rfl, done⟩

theorem Act.run_bind_of {act : Act α} {hub after : Hub} {answer : α} (done : act.run hub = (answer, after))
    (next : α → Act β) : (act >>= next).run hub = (next answer).run after := by
  show (next (act.run hub).1).run (act.run hub).2 = _
  rw [done]

theorem Act.run_get (hub : Hub) : (get : Act Hub).run hub = (hub, hub) := rfl

theorem Act.run_discard (act : Act α) (hub : Hub) : ((Functor.discard act).run hub).2 = (act.run hub).2 := rfl

namespace Attempt

theorem run_get (hub : Hub) : (get : ExceptT ε Act Hub).run.run hub = (.ok hub, hub) := rfl

theorem run_lift (act : Act α) (hub : Hub) :
    (liftM act : ExceptT ε Act α).run.run hub = (.ok (act.run hub).1, (act.run hub).2) := rfl

theorem run_bind (attempt : ExceptT ε Act α) (next : α → ExceptT ε Act β) (hub : Hub) :
    (attempt >>= next).run.run hub = match attempt.run.run hub with
      | (.ok answer, after) => (next answer).run.run after
      | (.error fault, after) => (.error fault, after) := by
  show (ExceptT.bindCont next (attempt.run.run hub).1).run (attempt.run.run hub).2 = _
  cases attempt.run.run hub with
  | mk answer after => cases answer <;> rfl

theorem run_bind_of {attempt : ExceptT ε Act α} {hub after : Hub} {answer : α}
    (done : attempt.run.run hub = (.ok answer, after)) (next : α → ExceptT ε Act β) :
    (attempt >>= next).run.run hub = (next answer).run.run after := by
  rw [run_bind, done]

theorem run_lift_of {act : Act α} {hub after : Hub} {answer : α} (done : act.run hub = (answer, after))
    (next : α → ExceptT ε Act β) : (liftM act >>= next).run.run hub = (next answer).run.run after :=
  run_bind_of (by rw [run_lift, done]) next

theorem of_run_bind {attempt : ExceptT ε Act α} {next : α → ExceptT ε Act β} {hub after : Hub} {answer : β}
    (done : (attempt >>= next).run.run hub = (.ok answer, after)) :
    ∃ first between, attempt.run.run hub = (.ok first, between) ∧
      (next first).run.run between = (.ok answer, after) := by
  rw [run_bind] at done
  split at done
  · rename_i first between start
    exact ⟨first, between, start, done⟩
  · cases done

theorem run_tryCatch (attempt : ExceptT ε Act α) (handler : ε → ExceptT ε Act α) (hub : Hub) :
    (tryCatch attempt handler).run.run hub = match attempt.run.run hub with
      | (.ok answer, after) => (.ok answer, after)
      | (.error fault, after) => (handler fault).run.run after := by
  simp only [tryCatch, tryCatchThe, MonadExceptOf.tryCatch, ExceptT.tryCatch, ExceptT.mk, ExceptT.run,
    StateT.run_bind]
  cases StateT.run attempt hub with
  | mk answer after => cases answer <;> rfl

theorem run_discard (attempt : ExceptT ε Act α) (hub : Hub) :
    ((discard attempt : ExceptT ε Act Unit).run.run hub).2 = (attempt.run.run hub).2 := by
  simp only [discard, Functor.discard, Functor.mapConst, Function.comp, ExceptT.map, ExceptT.mk, ExceptT.run,
    StateT.run_bind]
  cases StateT.run attempt hub with
  | mk answer after => cases answer <;> rfl

end Attempt

end LeafHub
