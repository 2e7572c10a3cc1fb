import LeafHub.Proofs.Routine.Uses

namespace LeafHub

variable {σ α β : Type}

/-- The world after a step of the hub. -/
def World.after (world : World σ) (act : Act α) : World σ :=
  { world with hub := (act.run world.hub).2 }

namespace Routine

variable {app : Application σ}

/-- The routine ends with that answer, in that world. -/
def Returns (app : Application σ) (routine : Routine σ α) (world : World σ) (answer : α) (after : World σ) : Prop :=
  ∃ limit, routine.run app limit world = (.done answer, after)

theorem done_of_run_done {limit : Nat} {answer other : α} {world after : World σ}
    (ended : (Routine.done answer).run app limit world = (.done other, after)) : other = answer ∧ after = world := by
  rw [run_done] at ended
  cases ended
  exact ⟨rfl, rfl⟩

theorem run_eq_of_answer? {routine : Routine σ α} {limit : Nat} {world : World σ} {answer : α}
    (ended : (routine.run app limit world).1.answer? = some answer) :
    routine.run app limit world = (.done answer, (routine.run app limit world).2) := by
  refine Prod.ext ?_ rfl
  cases here : (routine.run app limit world).1 with
  | done other =>
    rw [here] at ended
    exact congrArg _ (Option.some.inj ended)
  | hub | own | call =>
    rw [here] at ended
    cases ended

/-- A point in a run of one routine after another is one of the first, unless that has come to its end. -/
theorem run_bind_cases (app : Application σ) (first : Routine σ α) (second : α → Routine σ β) (limit : Nat) (world : World σ) :
    ((first.run app limit world).1.answer? = none ∧ (first.bind second).run app limit world =
        ((first.run app limit world).1.bind second, (first.run app limit world).2)) ∨
      ∃ used ≤ limit, ∃ middle between, first.run app used world = (.done middle, between) ∧
        (first.bind second).run app limit world = (second middle).run app (limit - used) between := by
  induction limit generalizing first world with
  | zero =>
    cases first with
    | done middle => exact .inr ⟨0, Nat.le_refl _, middle, world, rfl, rfl⟩
    | hub | own | call => exact .inl ⟨rfl, rfl⟩
  | succ limit ih =>
    -- one step of the whole is one step of the first routine, until that is done
    have later {routine : Routine σ α} {start : World σ} (stepped : first.step app world = (routine, start))
        (whole : (first.bind second).step app world = (routine.bind second, start)) :
        ((first.run app (limit + 1) world).1.answer? = none ∧ (first.bind second).run app (limit + 1) world =
            ((first.run app (limit + 1) world).1.bind second, (first.run app (limit + 1) world).2)) ∨
          ∃ used ≤ limit + 1, ∃ middle between, first.run app used world = (.done middle, between) ∧
            (first.bind second).run app (limit + 1) world = (second middle).run app (limit + 1 - used) between := by
      rw [run_succ, run_succ, stepped, whole]
      obtain inside | ⟨used, within, middle, between, here, there⟩ := ih routine start
      · exact .inl inside
      · refine .inr ⟨used + 1, Nat.succ_le_succ within, middle, between, ?_, ?_⟩
        · rw [run_succ, stepped, here]
        · rw [Nat.add_sub_add_right, there]
    cases first with
    | done middle => exact .inr ⟨0, Nat.zero_le _, middle, world, rfl, rfl⟩
    | hub act next => exact later rfl rfl
    | own act next => exact later rfl rfl
    | call c next => exact later rfl (Prod.ext (bind_assoc _ _ _).symm rfl)

/-- When one routine after another has ended, the first one ended on the way. -/
theorem run_bind_done {first : Routine σ α} {second : α → Routine σ β} {limit : Nat} {world after : World σ} {answer : β}
    (ended : (first.bind second).run app limit world = (.done answer, after)) :
    ∃ used ≤ limit, ∃ middle between, first.run app used world = (.done middle, between) ∧
      (second middle).run app (limit - used) between = (.done answer, after) := by
  obtain ⟨unfinished, inside⟩ | ⟨used, within, middle, between, here, there⟩ := run_bind_cases app first second limit world
  · rw [ended] at inside
    have done := congrArg (fun reached => reached.1.answer?) inside
    cases here : (first.run app limit world).1 with
    | done middle =>
      rw [here] at unfinished
      cases unfinished
    | hub | own | call =>
      rw [here] at done
      cases done
  · exact ⟨used, within, middle, between, here, there.symm.trans ended⟩

/-- The steps of the first routine are steps of the whole. -/
theorem run_bind_of_done {first : Routine σ α} {limit : Nat} {world between : World σ} {middle : α}
    (ended : first.run app limit world = (.done middle, between)) (second : α → Routine σ β) :
    ∃ used, (first.bind second).run app used world = (second middle, between) := by
  induction limit generalizing first world with
  | zero =>
    cases ended
    exact ⟨0, rfl⟩
  | succ limit ih =>
    rw [run_succ] at ended
    cases first with
    | done answer =>
      obtain ⟨rfl, rfl⟩ := done_of_run_done ended
      exact ⟨0, rfl⟩
    | hub act next =>
      obtain ⟨used, there⟩ := ih ended
      exact ⟨used + 1, by rw [run_succ]; exact there⟩
    | own act next =>
      obtain ⟨used, there⟩ := ih ended
      exact ⟨used + 1, by rw [run_succ]; exact there⟩
    | call c next =>
      obtain ⟨used, there⟩ := ih ended
      refine ⟨used + 1, ?_⟩
      rw [run_succ]
      show (((app.body c).bind fun reply => (next reply).bind second).run app used world) = _
      rw [← bind_assoc]
      exact there

theorem returns_pure_iff {answer other : α} {world after : World σ} :
    (pure answer : Routine σ α).Returns app world other after ↔ other = answer ∧ after = world := by
  constructor
  · rintro ⟨limit, ended⟩
    exact done_of_run_done ended
  · rintro ⟨rfl, rfl⟩
    exact ⟨0, rfl⟩

theorem returns_bind_iff {first : Routine σ α} {second : α → Routine σ β} {world after : World σ} {answer : β} :
    (first >>= second).Returns app world answer after ↔
      ∃ middle between, first.Returns app world middle between ∧ (second middle).Returns app between answer after := by
  constructor
  · rintro ⟨limit, ended⟩
    obtain ⟨used, _, middle, between, here, there⟩ := run_bind_done ended
    exact ⟨middle, between, ⟨used, here⟩, ⟨limit - used, there⟩⟩
  · rintro ⟨middle, between, ⟨first, here⟩, ⟨second, there⟩⟩
    obtain ⟨used, whole⟩ := run_bind_of_done here _
    refine ⟨used + second, ?_⟩
    show ((_ : Routine σ α).bind _).run app _ _ = _
    rw [run_add, whole, there]

theorem returns_act_iff {act : Act α} {world after : World σ} {answer : α} :
    (liftM act : Routine σ α).Returns app world answer after ↔
      answer = (act.run world.hub).1 ∧ after = world.after act := by
  constructor
  · rintro ⟨limit, ended⟩
    cases limit with
    | zero => cases ended
    | succ limit =>
      rw [run_succ] at ended
      exact done_of_run_done ended
  · rintro ⟨rfl, rfl⟩
    exact ⟨1, rfl⟩

theorem returns_act_bind_iff {act : Act α} {next : α → Routine σ β} {world after : World σ} {answer : β} :
    (liftM act >>= next).Returns app world answer after ↔
      (next (act.run world.hub).1).Returns app (world.after act) answer after := by
  simp only [returns_bind_iff, returns_act_iff]
  constructor
  · rintro ⟨_, _, ⟨rfl, rfl⟩, rest⟩
    exact rest
  · intro rest
    exact ⟨_, _, ⟨rfl, rfl⟩, rest⟩

/-- A routine that looks at the hub first. -/
theorem returns_get_bind_iff {next : Hub → Routine σ α} {world after : World σ} {answer : α} :
    (get >>= next).Returns app world answer after ↔ (next world.hub).Returns app world answer after :=
  returns_act_bind_iff

theorem returns_call_iff {c : Call} {world after : World σ} {reply : c.Reply} :
    (ofCall c : Routine σ c.Reply).Returns app world reply after ↔ (app.body c).Returns app world reply after := by
  have stepped (limit : Nat) : (ofCall c : Routine σ c.Reply).run app (limit + 1) world = (app.body c).run app limit world := by
    rw [run_succ]
    show ((app.body c).bind .done).run app limit world = _
    rw [bind_done]
  constructor
  · rintro ⟨limit, ended⟩
    cases limit with
    | zero => cases ended
    | succ limit => exact ⟨limit, (stepped limit).symm.trans ended⟩
  · rintro ⟨limit, ended⟩
    exact ⟨limit + 1, (stepped limit).trans ended⟩

/-- There is one way to end. -/
theorem Returns.unique {routine : Routine σ α} {world after others : World σ} {answer other : α}
    (one : routine.Returns app world answer after) (two : routine.Returns app world other others) :
    answer = other ∧ after = others := by
  obtain ⟨first, here⟩ := one
  obtain ⟨second, there⟩ := two
  have more := run_add app first second routine world
  rw [here, run_done, Nat.add_comm, run_add, there, run_done] at more
  cases more
  exact ⟨rfl, rfl⟩

/-- What every step keeps is kept to the end. -/
theorem Returns.keeps {allowed : ∀ {β : Type}, Act β → Prop} {R : Hub → Hub → Prop} (passage : Passage R)
    (keeps : ∀ {β : Type} {act : Act β}, allowed act → act.Keeps R) (bodies : ∀ c, (app.body c).Uses allowed)
    {routine : Routine σ α} (uses : routine.Uses allowed) {world after : World σ} {answer : α}
    (returns : routine.Returns app world answer after) : R world.hub after.hub := by
  obtain ⟨limit, ended⟩ := returns
  have kept := uses.run_hub passage keeps bodies world limit
  rwa [ended] at kept

end Routine

end LeafHub
