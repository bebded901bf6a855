import OutboxReplicator.Proofs.Processor.TaskRuns
/-!
# Shutdown of the processor task

*The flag.*  A move sends a value, drops the sender, or at most marks the value seen
(`Task.flag_step`).  The handle only ever sends `true`; while no `false` is sent, every
unseen value is a stop request (`Task.UnseenStops`).  Once a stop request was sent or the
sender is gone, that stays so (`Task.Stopping`).

*One more cycle.*  `Task.budget` counts the cycles the task may still start: one at a look
at the flag that reads `false`, and one for a cycle about to run.  While shutdown is under
way, no move adds to the cycles started and the budget together (`Task.budget_step`): a
look at a stop request returns, and a wait that ends sees the request or the loss of the
sender.  So after a shutdown request the task starts at most one further cycle.

*Join.*  The handle's wait returns only once the task has returned, and a returned task
stays so (`Task.JoinedReturned.exec`).
-/

namespace OutboxReplicator

namespace Processor

variable {opts : OutboxOptions}

namespace StopFlag

/-- `f'` is `f`, or `f` with its value seen. -/
def Seen (f f' : StopFlag) : Prop :=
  f'.value = f.value ∧ f'.senderAlive = f.senderAlive ∧ (f'.unseen = true → f.unseen = true)

theorem Seen.refl (f : StopFlag) : f.Seen f := ⟨rfl, rfl, id⟩

theorem changed_seen {f f' : StopFlag} {p : Phase} (looked : f.changed = some (p, f')) :
    f.Seen f' := by
  unfold changed at looked
  split at looked
  next => cases looked; exact ⟨rfl, rfl, fun seen => Bool.noConfusion seen⟩
  next =>
    split at looked
    next => cases looked
    next => cases looked; exact Seen.refl f

@[simp] theorem send_value (f : StopFlag) (v : Bool) :
    (f.send v).value = if f.senderAlive then v else f.value := by
  unfold send
  split <;> simp [*]

@[simp] theorem send_unseen (f : StopFlag) (v : Bool) :
    (f.send v).unseen = (f.senderAlive || f.unseen) := by
  unfold send
  split <;> simp [*]

@[simp] theorem send_senderAlive (f : StopFlag) (v : Bool) :
    (f.send v).senderAlive = f.senderAlive := by
  unfold send
  split <;> rfl

/-- What a wait finds while shutdown is under way: the stop request, then seen, the loss of
the sender, or nothing yet with the stop request standing. -/
theorem changed_of_stopping {f : StopFlag} (unseen : f.unseen = true → f.value = true)
    (stopping : f.value = true ∨ f.senderAlive = false) :
    (f.changed = some (.top, { f with unseen := false }) ∧ f.value = true) ∨
      f.changed = some (.stopped, f) ∨ (f.changed = none ∧ f.value = true) := by
  unfold changed
  by_cases isUnseen : f.unseen = true
  · exact .inl ⟨by simp [isUnseen], unseen isUnseen⟩
  · by_cases alive : f.senderAlive = true
    · have stop : f.value = true := by simpa [alive] using stopping
      exact .inr (.inr ⟨by simp [isUnseen, alive], stop⟩)
    · exact .inr (.inl (by simp [isUnseen, alive]))

/-- The waits end the task only when the sender is gone. -/
theorem changed_stopped {f f' : StopFlag} (looked : f.changed = some (.stopped, f')) :
    f' = f ∧ f.senderAlive = false := by
  unfold changed at looked
  split at looked
  next => cases looked
  next =>
    split at looked
    next => cases looked
    next alive => cases looked; exact ⟨rfl, by simpa using alive⟩

end StopFlag

/-- The moves that start a shutdown: a stop request, by the sender or by the handle, and
the loss of the sender. -/
def Move.StartsShutdown (m : Move) : Prop :=
  m = .send true ∨ m = .shutdownAndJoin ∨ m = .dropSender

instance : DecidablePred Move.StartsShutdown :=
  fun m => inferInstanceAs (Decidable (m = _ ∨ m = _ ∨ m = _))

namespace Task

/-- What a move does to the flag: a send, the loss of the sender, or at most marking the
value seen. -/
theorem flag_step (t : Task) (m : Move) :
    (∃ v, (m = .send v ∨ m = .shutdownAndJoin ∧ v = true) ∧
        (t.step opts m).flag = t.flag.send v) ∨
      (m = .dropSender ∧ (t.step opts m).flag = { t.flag with senderAlive := false }) ∨
      t.flag.Seen (t.step opts m).flag := by
  cases m with
  | send v => exact .inl ⟨v, .inl rfl, rfl⟩
  | shutdownAndJoin => exact .inl ⟨true, .inr ⟨rfl, rfl⟩, rfl⟩
  | dropSender => exact .inr (.inl ⟨rfl, rfl⟩)
  | joinReturns | check | wakeTimer =>
    refine .inr (.inr ?_)
    simp only [step]
    split <;> exact StopFlag.Seen.refl _
  | runCycle =>
    refine .inr (.inr ?_)
    simp only [step]
    split
    next => split <;> exact StopFlag.Seen.refl _
    next => exact StopFlag.Seen.refl _
  | poll | wakeChanged =>
    refine .inr (.inr ?_)
    simp only [step]
    split
    next =>
      split
      next looked => exact StopFlag.changed_seen looked
      next => exact StopFlag.Seen.refl _
    next => exact StopFlag.Seen.refl _

/-- Every value sent and not yet seen is a stop request. -/
def UnseenStops (t : Task) : Prop :=
  t.flag.unseen = true → t.flag.value = true

/-- Shutdown is under way: a stop request stands, or the sender is gone. -/
def Stopping (t : Task) : Prop :=
  t.flag.value = true ∨ t.flag.senderAlive = false

/-- A sent value is a stop request unless it is `false`. -/
theorem sends_stop {m : Move} {v : Bool} (noClear : m ≠ .send false)
    (sent : m = .send v ∨ m = .shutdownAndJoin ∧ v = true) : v = true := by
  rcases sent with rfl | ⟨-, stop⟩
  · cases v with
    | false => exact absurd rfl noClear
    | true => rfl
  · exact stop

theorem UnseenStops.step {t : Task} (inv : t.UnseenStops) {m : Move}
    (noClear : m ≠ .send false) : (t.step opts m).UnseenStops := by
  intro unseen
  rcases @flag_step opts t m with ⟨v, sent, flag⟩ | ⟨-, flag⟩ | ⟨value, -, seen⟩
  · rw [sends_stop noClear sent] at flag
    rw [flag] at unseen ⊢
    by_cases alive : t.flag.senderAlive = true
    · simp [alive]
    · simp only [StopFlag.send_unseen, alive, Bool.false_or] at unseen
      simpa [alive] using inv unseen
  · rw [flag] at unseen ⊢
    exact inv unseen
  · rw [value]
    exact inv (seen unseen)

theorem Stopping.step {t : Task} (stopping : t.Stopping) {m : Move}
    (noClear : m ≠ .send false) : (t.step opts m).Stopping := by
  rcases @flag_step opts t m with ⟨v, sent, flag⟩ | ⟨-, flag⟩ | ⟨value, alive, -⟩
  · rw [sends_stop noClear sent] at flag
    unfold Stopping
    rw [flag]
    by_cases alive : t.flag.senderAlive = true <;> simp [alive]
  · exact .inr (by rw [flag])
  · unfold Stopping
    rw [value, alive]
    exact stopping

/-- A stop request, by the sender or the handle, or the loss of the sender, starts a
shutdown. -/
theorem stopping_of_request (t : Task) {m : Move} (request : m.StartsShutdown) :
    (t.step opts m).Stopping := by
  unfold Stopping
  rcases request with rfl | rfl | rfl
  · by_cases alive : t.flag.senderAlive = true <;> simp [step, alive]
  · by_cases alive : t.flag.senderAlive = true <;> simp [step, alive]
  · exact .inr rfl

/-- The cycles the task may still start once shutdown is under way: one at a look at the
flag that reads `false`, one for a cycle about to run, none elsewhere. -/
def budget (t : Task) : Nat :=
  match t.phase with
  | .top | .blocked => if t.flag.value then 0 else 1
  | .starting => 1
  | .polling | .stopped => 0

theorem budget_le_one (t : Task) : t.budget ≤ 1 := by
  unfold budget
  split
  all_goals (try split) <;> omega

/-- The budget depends only on the phase and the value of the flag, and falls when a stop
request arrives. -/
theorem budget_le_of_phase {t t' : Task} (phase : t'.phase = t.phase)
    (value : t.flag.value = true → t'.flag.value = true) : t'.budget ≤ t.budget := by
  unfold budget
  rw [phase]
  cases stop : t.flag.value
  · split <;> (try split) <;> simp
  · simp [value stop]

/-- A cycle moves the task from a cycle about to run to a wait or to its end. -/
theorem runCycle_phase {t : Task} (starting : t.phase = .starting) :
    (t.step opts .runCycle).phase = .polling ∨ (t.step opts .runCycle).phase = .stopped := by
  simp only [step, if_pos starting]
  split
  next => exact .inr rfl
  next => exact .inl rfl

/-- Every move but a cycle keeps or lowers the budget while shutdown is under way. -/
theorem budget_step_of_not_cycle {t : Task} (unseen : t.UnseenStops) (stopping : t.Stopping)
    {m : Move} (noClear : m ≠ .send false) (notCycle : m ≠ .runCycle) :
    (t.step opts m).budget ≤ t.budget := by
  cases m with
  | runCycle => exact absurd rfl notCycle
  | send v =>
    obtain rfl : v = true := sends_stop noClear (.inl rfl)
    exact budget_le_of_phase rfl fun stop => by simp [step, stop]
  | shutdownAndJoin => exact budget_le_of_phase rfl fun stop => by simp [step, stop]
  | dropSender => exact budget_le_of_phase rfl id
  | joinReturns =>
    simp only [step]
    split <;> exact Nat.le_refl _
  | check =>
    simp only [step]
    split
    next top => cases stop : t.flag.value <;> simp [budget, top, stop]
    next => exact Nat.le_refl _
  | wakeTimer =>
    simp only [step]
    split
    next blocked => simp [budget, blocked]
    next => exact Nat.le_refl _
  | poll | wakeChanged =>
    -- the wait ends at the stop request, at the end of the task, or not yet
    simp only [step]
    split
    next waiting =>
      rcases StopFlag.changed_of_stopping unseen stopping with
        ⟨looked, stop⟩ | looked | ⟨looked, stop⟩
      · simp [looked, budget, stop]
      · simp [looked, budget]
      · simp [looked, budget, stop, waiting]
    next => exact Nat.le_refl _

/-- While shutdown is under way, no move adds to the cycles started and the budget
together. -/
theorem budget_step {t : Task} (unseen : t.UnseenStops) (stopping : t.Stopping) {m : Move}
    (noClear : m ≠ .send false) :
    (t.step opts m).started + (t.step opts m).budget ≤ t.started + t.budget := by
  by_cases isCycle : m = .runCycle
  · subst isCycle
    by_cases starting : t.phase = .starting
    · obtain ⟨-, started⟩ := @runCycle_of_starting opts _ starting
      have spent : (t.step opts .runCycle).budget = 0 := by
        rcases @runCycle_phase opts _ starting with after | after <;> simp [budget, after]
      have full : t.budget = 1 := by simp [budget, starting]
      omega
    · exact Nat.le_of_eq (by rw [runCycle_of_not_starting starting])
  · obtain ⟨-, started, -⟩ := @step_frame opts t _ isCycle
    rw [started, Nat.add_le_add_iff_left]
    exact budget_step_of_not_cycle unseen stopping noClear isCycle

/-! ## Along a run -/

section
variable {t : Task} {ms : List Move}

/-- What every move but a `false` sent keeps holds after a schedule that sends only stop
requests. -/
theorem exec_of_step_of_onlyStops {P : Task → Prop}
    (keeps : ∀ t m, m ≠ .send false → P t → P (t.step opts m)) (holds : P t)
    (onlyStops : ∀ v, Move.send v ∈ ms → v = true) : P (t.exec opts ms) := by
  induction ms generalizing t with
  | nil => exact holds
  | cons m ms induction =>
    have noClear : m ≠ .send false := by
      rintro rfl
      cases onlyStops false List.mem_cons_self
    exact induction (keeps t m noClear holds) fun v mem =>
      onlyStops v (List.mem_cons_of_mem m mem)

theorem UnseenStops.exec (inv : t.UnseenStops)
    (onlyStops : ∀ v, Move.send v ∈ ms → v = true) : (t.exec opts ms).UnseenStops :=
  exec_of_step_of_onlyStops (fun t _ noClear (inv : t.UnseenStops) => inv.step noClear) inv
    onlyStops

theorem Stopping.exec (stopping : t.Stopping) (onlyStops : ∀ v, Move.send v ∈ ms → v = true) :
    (t.exec opts ms).Stopping :=
  exec_of_step_of_onlyStops (fun t _ noClear (stopping : t.Stopping) => stopping.step noClear)
    stopping onlyStops

/-- While shutdown is under way, a run starts no more cycles than the budget it starts
with. -/
theorem budget_exec (unseen : t.UnseenStops) (stopping : t.Stopping)
    (onlyStops : ∀ v, Move.send v ∈ ms → v = true) :
    (t.exec opts ms).started + (t.exec opts ms).budget ≤ t.started + t.budget := by
  -- the bound travels with the two invariants of the flag that `budget_step` needs
  have keeps : ∀ (t' : Task) (m : Move), m ≠ .send false →
      t'.UnseenStops ∧ t'.Stopping ∧ t'.started + t'.budget ≤ t.started + t.budget →
      (t'.step opts m).UnseenStops ∧ (t'.step opts m).Stopping ∧
        (t'.step opts m).started + (t'.step opts m).budget ≤ t.started + t.budget := by
    rintro t' m noClear ⟨unseen', stopping', within⟩
    exact ⟨unseen'.step noClear, stopping'.step noClear,
      Nat.le_trans (budget_step unseen' stopping' noClear) within⟩
  exact (exec_of_step_of_onlyStops keeps ⟨unseen, stopping, Nat.le_refl _⟩ onlyStops).2.2

/-- A run with a shutdown request in it ends with shutdown under way. -/
theorem Stopping.exec_of_request (request : ∃ m ∈ ms, m.StartsShutdown)
    (onlyStops : ∀ v, Move.send v ∈ ms → v = true) : (t.exec opts ms).Stopping := by
  obtain ⟨m, mem, request⟩ := request
  obtain ⟨before, after, rfl⟩ := List.append_of_mem mem
  rw [exec_append, exec_cons]
  exact (stopping_of_request _ request).exec
    fun v sent => onlyStops v (List.mem_append_right before (List.mem_cons_of_mem m sent))

end

/-- From a task whose flag is a new one, a run that requests shutdown starts at most one
cycle after the end of its part with the request. -/
theorem started_after_request {t : Task} (fresh : t.flag = .fresh) {ms₁ ms₂ : List Move}
    (onlyStops : ∀ v, Move.send v ∈ ms₁ ++ ms₂ → v = true)
    (request : ∃ m ∈ ms₁, m.StartsShutdown) :
    (t.exec opts (ms₁ ++ ms₂)).started ≤ (t.exec opts ms₁).started + 1 := by
  have onlyStops₁ : ∀ v, Move.send v ∈ ms₁ → v = true :=
    fun v mem => onlyStops v (List.mem_append_left ms₂ mem)
  have onlyStops₂ : ∀ v, Move.send v ∈ ms₂ → v = true :=
    fun v mem => onlyStops v (List.mem_append_right ms₁ mem)
  have unseen : (t.exec opts ms₁).UnseenStops :=
    UnseenStops.exec (fun seen => by rw [fresh] at seen; cases seen) onlyStops₁
  have stopping : (t.exec opts ms₁).Stopping := Stopping.exec_of_request request onlyStops₁
  calc (t.exec opts (ms₁ ++ ms₂)).started
      ≤ (t.exec opts (ms₁ ++ ms₂)).started + (t.exec opts (ms₁ ++ ms₂)).budget :=
        Nat.le_add_right _ _
    _ ≤ (t.exec opts ms₁).started + (t.exec opts ms₁).budget := by
        rw [exec_append]
        exact budget_exec unseen stopping onlyStops₂
    _ ≤ (t.exec opts ms₁).started + 1 := Nat.add_le_add_left (budget_le_one _) _

/-! ## Why the task returns -/

/-- Shutdown comes under way only by a stop request or the loss of the sender. -/
theorem stopping_of_step {t : Task} {m : Move} (stopping : (t.step opts m).Stopping) :
    t.Stopping ∨ m.StartsShutdown := by
  rcases @flag_step opts t m with ⟨v, sent, flag⟩ | ⟨rfl, -⟩ | ⟨value, alive, -⟩
  · cases v with
    | true =>
      rcases sent with rfl | ⟨rfl, -⟩
      · exact .inr (.inl rfl)
      · exact .inr (.inr (.inl rfl))
    | false =>
      -- a `false` sent reaches the flag only while the sender is there, and then clears it
      unfold Stopping at stopping
      rw [flag] at stopping
      by_cases present : t.flag.senderAlive = true
      · simp [present] at stopping
      · exact .inl (.inr (by simpa using present))
  · exact .inr (.inr (.inr rfl))
  · unfold Stopping at stopping
    rw [value, alive] at stopping
    exact .inl stopping

/-- How a task returns: by a look at a stop request, by a cycle that aborts, or by a wait
that finds the sender gone. -/
theorem stopped_of_step {t : Task} {m : Move} (stopped : (t.step opts m).phase = .stopped) :
    t.phase = .stopped ∨ (t.step opts m).aborted ≠ none ∨ t.Stopping := by
  cases m with
  | send | dropSender | shutdownAndJoin => exact .inl stopped
  | joinReturns =>
    simp only [step] at stopped
    split at stopped <;> exact .inl stopped
  | wakeTimer =>
    simp only [step] at stopped
    split at stopped
    next => cases stopped
    next => exact .inl stopped
  | check =>
    simp only [step] at stopped
    split at stopped
    next =>
      cases stop : t.flag.value
      · simp [stop] at stopped
      · exact .inr (.inr (.inl stop))
    next => exact .inl stopped
  | runCycle =>
    simp only [step] at stopped ⊢
    split at stopped
    next starting =>
      rw [if_pos starting]
      split at stopped
      next => exact .inr (.inl (by simp))
      next => cases stopped
    next => exact .inl stopped
  | poll =>
    simp only [step] at stopped
    split at stopped
    next =>
      split at stopped
      next looked =>
        cases stopped
        exact .inr (.inr (.inr (StopFlag.changed_stopped looked).2))
      next => cases stopped
    next => exact .inl stopped
  | wakeChanged =>
    simp only [step] at stopped
    split at stopped
    next =>
      split at stopped
      next looked =>
        cases stopped
        exact .inr (.inr (.inr (StopFlag.changed_stopped looked).2))
      next => exact .inl stopped
    next => exact .inl stopped

/-- A task returns only at an abort, a stop request or the loss of the sender. -/
theorem returned_for_cause (t : Task) (ms : List Move)
    (stopped : (t.exec opts ms).phase = .stopped) :
    t.phase = .stopped ∨ (t.exec opts ms).aborted ≠ none ∨ t.Stopping ∨
      ∃ m ∈ ms, m.StartsShutdown := by
  induction ms generalizing t with
  | nil => exact .inl stopped
  | cons m ms induction =>
    rcases induction (t.step opts m) stopped with returned | aborted | stopping | request
    · -- the first move ended the task, which no later move changes
      obtain ⟨-, -, -, same⟩ := @exec_of_stopped opts _ returned ms
      rcases stopped_of_step returned with was | aborted | stopping
      · exact .inl was
      · exact .inr (.inl (by rw [exec_cons, same]; exact aborted))
      · exact .inr (.inr (.inl stopping))
    · exact .inr (.inl aborted)
    · rcases stopping_of_step stopping with stopping | request
      · exact .inr (.inr (.inl stopping))
      · exact .inr (.inr (.inr ⟨m, List.mem_cons_self, request⟩))
    · obtain ⟨m', mem, request⟩ := request
      exact .inr (.inr (.inr ⟨m', List.mem_cons_of_mem m mem, request⟩))

/-- A cycle that does not abort, failing or not, leaves the task waiting; with nothing
sent, the interval brings it to the next cycle. -/
theorem cycle_goes_on {t : Task} (starting : t.phase = .starting) (fresh : t.flag = .fresh)
    (goes : ∀ m, (cycle opts t.stores).1 ≠ .error (.abort m)) :
    (t.exec opts [.runCycle, .poll, .wakeTimer, .check]).phase = .starting ∧
      (t.exec opts [.runCycle, .poll, .wakeTimer, .check]).started = t.started + 1 := by
  rw [exec_cons, runCycle_of_goes starting rfl goes]
  simp [step, fresh, StopFlag.changed, StopFlag.fresh]

/-! ## Join -/

/-- Only the handle's wait sets `joined`. -/
theorem joined_step_of_ne {t : Task} {m : Move} (other : m ≠ .joinReturns) :
    (t.step opts m).joined = t.joined := by
  cases m with
  | joinReturns => exact absurd rfl other
  | check | wakeTimer =>
    simp only [step]
    split <;> rfl
  | runCycle | poll | wakeChanged =>
    simp only [step]
    split
    next => split <;> rfl
    next => rfl
  | _ => rfl

/-- The handle's wait has returned only if the task has. -/
def JoinedReturned (t : Task) : Prop :=
  t.joined = true → t.phase = .stopped

theorem JoinedReturned.step {t : Task} (returned : t.JoinedReturned) (m : Move) :
    (t.step opts m).JoinedReturned := by
  intro joined'
  by_cases joined : t.joined = true
  · exact (@step_of_stopped opts t (returned joined) m).1
  · by_cases isJoin : m = .joinReturns
    · subst isJoin
      simp only [Task.step] at joined' ⊢
      split at joined'
      next ready =>
        rw [if_pos ready]
        exact ready.2
      next => exact absurd joined' joined
    · rw [joined_step_of_ne isJoin] at joined'
      exact absurd joined' joined

/-- The handle's wait returns only once the task has returned. -/
theorem JoinedReturned.exec {t : Task} (returned : t.JoinedReturned) (ms : List Move) :
    (t.exec opts ms).JoinedReturned :=
  exec_of_step (fun t m (returned : t.JoinedReturned) => returned.step m) returned ms

end Task

/-! ## The task's runs -/

/-- The task spawned on `s`, after a schedule of moves. -/
def spawned (opts : OutboxOptions) (s : Stores) (ms : List Move) : Task :=
  (Task.spawn opts s).exec opts ms

/-- The processor task starts cycles only when it may.

* Disabled, it has returned before any move, and runs no cycle.
* Its stores are those of whole cycles run one after another, and each claimed row was
  claimed, as it is, before the task began: a cycle leaves no claim behind.
* It returns only at an abort, a stop request or the loss of the sender, so a cycle that
  fails does not end it; such a cycle leaves it waiting, and with nothing sent, the
  interval brings it to the next cycle.
* After a stop request or the loss of the sender, with only stop requests sent, it starts
  at most one more cycle.
* The handle's wait returns only once the task has returned.
* `run` is the task's run of the schedule its flag and events stand for. -/
theorem processor_starts_cycles_only_when_allowed (opts : OutboxOptions) (s : Stores) :
    (opts.enabled = false → ∀ ms, (spawned opts s ms).phase = .stopped ∧
      (spawned opts s ms).started = 0 ∧ (spawned opts s ms).stores = s) ∧
    (s.outbox.IdsDistinct → ∀ ms,
      (spawned opts s ms).stores = (cycles opts (spawned opts s ms).started s).2 ∧
        s.outbox.ClaimsHeld (spawned opts s ms).stores.outbox) ∧
    (opts.enabled = true → ∀ ms, (spawned opts s ms).phase = .stopped →
      (spawned opts s ms).aborted ≠ none ∨ ∃ m ∈ ms, m.StartsShutdown) ∧
    (∀ t : Task, t.phase = .starting → t.flag = .fresh →
      (∀ m, (cycle opts t.stores).1 ≠ .error (.abort m)) →
        (t.exec opts [.runCycle, .poll, .wakeTimer, .check]).phase = .starting ∧
          (t.exec opts [.runCycle, .poll, .wakeTimer, .check]).started = t.started + 1) ∧
    (∀ ms₁ ms₂, (∀ v, Move.send v ∈ ms₁ ++ ms₂ → v = true) →
      (∃ m ∈ ms₁, m.StartsShutdown) →
        (spawned opts s (ms₁ ++ ms₂)).started ≤ (spawned opts s ms₁).started + 1) ∧
    (∀ ms, (spawned opts s ms).joined = true → (spawned opts s ms).phase = .stopped) ∧
    (∀ stop events, run opts stop events s =
      ((spawned opts s (schedule stop events)).aborted,
        (spawned opts s (schedule stop events)).stores)) := by
  refine ⟨?disabled, ?cycles, ?cause, ?goesOn, ?shutdown, ?join, ?linked⟩
  case disabled =>
    intro disabled ms
    have stopped : (Task.spawn opts s).phase = .stopped := by simp [Task.spawn, disabled]
    obtain ⟨phase, stores, started, -⟩ := @Task.exec_of_stopped opts _ stopped ms
    exact ⟨phase, started, stores⟩
  case cycles =>
    intro distinct ms
    have spawnedOn : Task.CyclesFrom opts s (Task.spawn opts s) := rfl
    have cycled : Task.CyclesFrom opts s (spawned opts s ms) := spawnedOn.exec ms
    refine ⟨cycled, ?_⟩
    rw [cycled]
    exact (cycles_claimsHeld opts _ s distinct).1
  case cause =>
    intro enabled ms stopped
    have top : (Task.spawn opts s).phase = .top := by simp [Task.spawn, enabled]
    rcases Task.returned_for_cause _ ms stopped with returned | aborted | stopping | request
    · rw [top] at returned
      cases returned
    · exact .inl aborted
    · -- a new flag holds no stop request and has its sender
      rcases stopping with stop | gone
      · cases stop
      · cases gone
    · exact .inr request
  case goesOn => exact fun t starting fresh goes => Task.cycle_goes_on starting fresh goes
  case shutdown =>
    exact fun ms₁ ms₂ onlyStops request => Task.started_after_request rfl onlyStops request
  case join => exact Task.JoinedReturned.exec (fun joined => Bool.noConfusion joined)
  case linked => exact fun stop events => run_eq_exec stop events s

/-- On empty stores: disabled, the task runs nothing; enabled, it leaves no claim behind,
returns at a shutdown request, goes on after a cycle that does not abort, starts at most
one more cycle after the request, and the handle's wait returns after the task. -/
theorem processor_on_empty_stores :
    let s := Stores.start ⟨1714557600, 0⟩
    let ms₁ := [Move.check, Move.shutdownAndJoin]
    let ms₂ := [Move.runCycle, Move.poll, Move.check, Move.joinReturns]
    let asked := [Move.shutdownAndJoin, Move.check, Move.joinReturns]
    let waiting : Task := ⟨.starting, .fresh, s, 0, none, false, false⟩
    (spawned { enabled := false } s ms₁).started = 0 ∧
      s.outbox.ClaimsHeld (spawned {} s (ms₁ ++ ms₂)).stores.outbox ∧
      ((spawned {} s asked).aborted ≠ none ∨ ∃ m ∈ asked, m.StartsShutdown) ∧
      (waiting.exec {} [.runCycle, .poll, .wakeTimer, .check]).phase = .starting ∧
      (spawned {} s (ms₁ ++ ms₂)).started ≤ (spawned {} s ms₁).started + 1 ∧
      (spawned {} s asked).phase = .stopped := by
  intro s ms₁ ms₂ asked waiting
  have disabled := processor_starts_cycles_only_when_allowed { enabled := false } s
  have enabled := processor_starts_cycles_only_when_allowed {} s
  have distinct : s.outbox.IdsDistinct := List.nodup_nil
  have goes : ∀ m, (cycle {} waiting.stores).1 ≠ .error (.abort m) := by
    have release : ∀ m, Outbox.cutoff waiting.stores.clock.next
        ({} : OutboxOptions).claimTimeout ≠ .error (.abort m) :=
      Outbox.cutoff_returns_of_recent (by decide) (by decide)
    have requeue : ∀ m, Outbox.cutoff waiting.stores.clock.read.2.next
        ({} : OutboxOptions).retryDelay ≠ .error (.abort m) :=
      Outbox.cutoff_returns_of_recent (by decide) (by decide)
    rw [cycle_of_finished (fun _ found => absurd found List.not_mem_nil) release requeue
      (by decide)]
    intro m aborts
    cases aborts
  have onlyStops : ∀ v, Move.send v ∈ ms₁ ++ ms₂ → v = true := by decide
  have joined : (spawned {} s asked).joined = true := by decide
  exact ⟨(disabled.1 rfl ms₁).2.1, (enabled.2.1 distinct _).2,
    enabled.2.2.1 rfl asked (enabled.2.2.2.2.2.1 asked joined),
    (enabled.2.2.2.1 waiting rfl rfl goes).1,
    enabled.2.2.2.2.1 ms₁ ms₂ onlyStops ⟨.shutdownAndJoin, by decide, .inr (.inl rfl)⟩,
    enabled.2.2.2.2.2.1 asked joined⟩

end Processor

end OutboxReplicator
