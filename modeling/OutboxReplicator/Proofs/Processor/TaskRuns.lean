import OutboxReplicator.Processor.Task
import OutboxReplicator.Proofs.Processor.Quiescence
import OutboxReplicator.Proofs.Processor.KeyFifo
import OutboxReplicator.Proofs.Processor.Housekeeping
/-!
# Runs of the processor task

`Task.exec` runs any interleaving of the task's moves with those of its flag's sender and
its handle.  This file relates such runs to the cycles and to `Processor.run`.

*Cycles.*  Every move but `runCycle` leaves the stores alone (`Task.step_frame`), and a
cycle runs whole as one move, so after any schedule the stores are those of the cycles
started, one after another (`Task.CyclesFrom`).  A cycle leaves no claim of its own
behind: housekeeping only releases claims, and each record it claims it marks completed
or failed before it ends (`Processor.cycle_claimsHeld`).  So a claimed row at any point of
any run was claimed, as it is, before the run began (`Outbox.ClaimsHeld`).

*The loop.*  `Processor.run` with a first flag value and a list of wake-ups is the task's
run of the schedule they stand for (`Processor.run_eq_exec`): the turn of the loop after a
cycle that did not abort is the task's wait followed by the next look at the flag
(`Processor.wake_eq_exec`), and a task that returned is moved by nothing
(`Task.exec_of_stopped`).
-/

namespace OutboxReplicator

namespace Outbox

/-- Every claimed row of `o'` stands in `o` as it is. -/
def ClaimsHeld (o o' : Outbox) : Prop :=
  ∀ row ∈ o'.rows, row.status = OutboxStatus.processing.tag → row ∈ o.rows

theorem ClaimsHeld.refl (o : Outbox) : o.ClaimsHeld o := fun _ mem _ => mem

theorem ClaimsHeld.trans {o o' o'' : Outbox} (first : o.ClaimsHeld o')
    (second : o'.ClaimsHeld o'') : o.ClaimsHeld o'' :=
  fun row mem claimed => first row (second row mem claimed) claimed

/-- Updates that leave claimed only rows they found claimed, and those unchanged. -/
def KeepsClaims (us : List RowUpdate) : Prop :=
  ∀ r, (RowUpdate.applyAll us r).status = OutboxStatus.processing.tag →
    RowUpdate.applyAll us r = r

theorem claimsHeld_update {o : Outbox} {us : List RowUpdate} (keeps : KeepsClaims us) :
    o.ClaimsHeld (o.update us) := by
  intro row mem claimed
  obtain ⟨r, old, rfl⟩ := List.mem_map.mp mem
  rw [keeps r claimed]
  exact old

theorem keepsClaims_release (cutoff : Instant) : KeepsClaims [.release cutoff] := by
  intro r claimed
  simp only [RowUpdate.applyAll, List.foldl_cons, List.foldl_nil, RowUpdate.apply] at claimed ⊢
  split at claimed
  next => simp [OutboxStatus.tag] at claimed
  next stale => simp [stale]

theorem keepsClaims_requeue (maxRetry : Int) (cutoff : Instant) :
    KeepsClaims [.requeue maxRetry cutoff] := by
  intro r claimed
  simp only [RowUpdate.applyAll, List.foldl_cons, List.foldl_nil, RowUpdate.apply] at claimed ⊢
  split at claimed
  next => simp [OutboxStatus.tag] at claimed
  next due => simp [due]

/-- A claim that no pending row answers leaves the table as it was. -/
theorem claim_snd_of_lost {o : Outbox} (distinct : o.IdsDistinct) {now : Instant} {id : Int}
    (lost : (o.claim now id).1 = false) : (o.claim now id).2 = o := by
  have none : ∀ y ∈ o.rows, y.id = id → y.status ≠ OutboxStatus.pending.tag := by
    intro y mem same pending
    have won := (claim_fst_iff distinct now id).mpr ⟨y, mem, same, pending⟩
    rw [lost] at won
    cases won
  rw [claim_snd distinct]
  refine map_fixing fun y mem => ?_
  by_cases same : y.id = id
  · simp [RowUpdate.applyAll, RowUpdate.apply, same, none y mem same]
  · simp [RowUpdate.applyAll, RowUpdate.apply, same]

end Outbox

namespace Stores

/-- Housekeeping whose move of the rows leaves no claim of its own leaves none. -/
theorem housekeep_claimsHeld (s : Stores) (span : Span) {move : Instant → Outbox → Nat × Outbox}
    (keeps : ∀ (c : Instant) (o : Outbox), o.ClaimsHeld (move c o).2) :
    s.outbox.ClaimsHeld (s.housekeep span move).2.outbox := by
  simp only [housekeep, now, Clock.read]
  split
  next => exact Outbox.ClaimsHeld.refl _
  next cutoff _ => exact keeps cutoff _

theorem releaseStale_claimsHeld (s : Stores) (span : Span) :
    s.outbox.ClaimsHeld (s.releaseStale span).2.outbox := by
  rw [releaseStale_eq_housekeep]
  exact housekeep_claimsHeld s span fun cutoff o => by
    rw [Outbox.release_snd]
    exact Outbox.claimsHeld_update (Outbox.keepsClaims_release cutoff)

theorem requeueDue_claimsHeld (s : Stores) (maxRetry : Int) (span : Span) :
    s.outbox.ClaimsHeld (s.requeueDue maxRetry span).2.outbox := by
  rw [requeueDue_eq_housekeep]
  exact housekeep_claimsHeld s span fun cutoff o => by
    rw [Outbox.requeue_snd]
    exact Outbox.claimsHeld_update (Outbox.keepsClaims_requeue maxRetry cutoff)

end Stores

/-- A dispatched row is completed or failed, never claimed. -/
theorem OutboxRow.dispatched_unclaimed (y : OutboxRow) (claimedAt markedAt : Instant)
    (result : Except Failure Outcome) :
    (y.dispatched claimedAt markedAt result).status ≠ OutboxStatus.processing.tag := by
  cases result <;> simp [OutboxRow.dispatched, OutboxStatus.tag]

namespace Processor

/-- Processing a record leaves no claim behind: its row ends completed or failed, or stays
as it was when the claim is lost. -/
theorem processRecord_claimsHeld (s : Stores) (x : OutboxRecord)
    (distinct : s.outbox.IdsDistinct) : s.outbox.ClaimsHeld (processRecord s x).2.outbox := by
  by_cases won : ∃ y ∈ s.outbox.rows, y.id = x.id ∧ y.status = OutboxStatus.pending.tag
  · obtain ⟨y, found, sameId, pending⟩ := won
    rw [processRecord_eq_dispatch distinct found sameId pending]
    intro row mem claimed
    rw [dispatch_rows] at mem
    obtain ⟨z, old, rfl⟩ := List.mem_map.mp mem
    split at claimed
    · exact absurd claimed (OutboxRow.dispatched_unclaimed _ _ _ _)
    · rw [if_neg ‹_›]
      exact old
  · have lost : (s.outbox.claim s.clock.next x.id).1 = false := by
      cases claimed : (s.outbox.claim s.clock.next x.id).1 with
      | false => rfl
      | true => exact absurd ((Outbox.claim_fst_iff distinct _ _).mp claimed) won
    simp only [processRecord, Stores.claim_eq, lost, Bool.not_false, if_true]
    rw [Outbox.claim_snd_of_lost distinct lost]
    exact Outbox.ClaimsHeld.refl _

theorem processAll_claimsHeld (s : Stores) (report : CycleReport) (records : List OutboxRecord)
    (distinct : s.outbox.IdsDistinct) :
    s.outbox.ClaimsHeld (processAll s report records).2.outbox := by
  induction records generalizing s report with
  | nil => exact Outbox.ClaimsHeld.refl _
  | cons x rest induction =>
    obtain ⟨us, first⟩ := processRecord_updates s x distinct
    simp only [processAll]
    exact (processRecord_claimsHeld s x distinct).trans
      (induction (processRecord s x).2 _ (first ▸ distinct.update us))

/-- A cycle leaves no claim behind: housekeeping only releases claims, and every record
it claims it marks. -/
theorem cycle_claimsHeld (opts : OutboxOptions) (s : Stores)
    (distinct : s.outbox.IdsDistinct) : s.outbox.ClaimsHeld (cycle opts s).2.outbox := by
  have released := Stores.releaseStale_claimsHeld s opts.claimTimeout
  have requeued :=
    released.trans (Stores.requeueDue_claimsHeld _ opts.maxRetryCount opts.retryDelay)
  rcases cycle_cases opts s with ended | ended | ⟨report, batch, ended⟩ <;> rw [ended]
  · exact released
  · exact requeued
  · exact requeued.trans (processAll_claimsHeld _ report batch (housekept_idsDistinct distinct))

/-- Cycles one after another leave no claim behind, and keep the table keyed by id. -/
theorem cycles_claimsHeld (opts : OutboxOptions) (k : Nat) (s : Stores)
    (distinct : s.outbox.IdsDistinct) :
    s.outbox.ClaimsHeld (cycles opts k s).2.outbox ∧ (cycles opts k s).2.outbox.IdsDistinct := by
  induction k generalizing s with
  | zero => exact ⟨Outbox.ClaimsHeld.refl _, distinct⟩
  | succ k induction =>
    obtain ⟨us, cycled⟩ := cycle_updates opts s distinct
    obtain ⟨held, distinct'⟩ := induction (cycle opts s).2 (cycled ▸ distinct.update us)
    rw [cycles_succ]
    exact ⟨(cycle_claimsHeld opts s distinct).trans held, distinct'⟩

variable {opts : OutboxOptions}

namespace Task

@[simp] theorem exec_nil (t : Task) : t.exec opts [] = t := rfl

@[simp] theorem exec_cons (t : Task) (m : Move) (ms : List Move) :
    t.exec opts (m :: ms) = (t.step opts m).exec opts ms := rfl

theorem exec_append (t : Task) (ms₁ ms₂ : List Move) :
    t.exec opts (ms₁ ++ ms₂) = (t.exec opts ms₁).exec opts ms₂ :=
  List.foldl_append

/-- What every move keeps holds after every schedule. -/
theorem exec_of_step {P : Task → Prop} (keeps : ∀ t m, P t → P (t.step opts m)) {t : Task}
    (holds : P t) (ms : List Move) : P (t.exec opts ms) := by
  induction ms generalizing t with
  | nil => exact holds
  | cons m ms induction => exact induction (keeps t m holds)

/-- Every move but a cycle leaves the stores, the count of cycles and the abort as they
are. -/
theorem step_frame {t : Task} {m : Move} (notCycle : m ≠ .runCycle) :
    (t.step opts m).stores = t.stores ∧ (t.step opts m).started = t.started ∧
      (t.step opts m).aborted = t.aborted := by
  cases m with
  | runCycle => exact absurd rfl notCycle
  | joinReturns | check | wakeTimer =>
    simp only [step]
    split <;> exact ⟨rfl, rfl, rfl⟩
  | poll | wakeChanged =>
    simp only [step]
    split
    · split <;> exact ⟨rfl, rfl, rfl⟩
    · exact ⟨rfl, rfl, rfl⟩
  | _ => exact ⟨rfl, rfl, rfl⟩

theorem runCycle_of_starting {t : Task} (starting : t.phase = .starting) :
    (t.step opts .runCycle).stores = (cycle opts t.stores).2 ∧
      (t.step opts .runCycle).started = t.started + 1 := by
  simp only [step, if_pos starting]
  split <;> rename_i ran <;> exact ⟨by rw [ran], rfl⟩

theorem runCycle_of_not_starting {t : Task} (idle : t.phase ≠ .starting) :
    t.step opts .runCycle = t := by
  simp only [step, if_neg idle]

/-- The stores are those of the cycles started, run one after another from `s`. -/
def CyclesFrom (opts : OutboxOptions) (s : Stores) (t : Task) : Prop :=
  t.stores = (cycles opts t.started s).2

theorem CyclesFrom.step {s : Stores} {t : Task} (inv : CyclesFrom opts s t) (m : Move) :
    CyclesFrom opts s (t.step opts m) := by
  by_cases isCycle : m = .runCycle
  · subst isCycle
    by_cases starting : t.phase = .starting
    · obtain ⟨stores, started⟩ := @runCycle_of_starting opts _ starting
      rw [CyclesFrom, stores, started, cycles_succ_right, ← inv]
    · rw [runCycle_of_not_starting starting]
      exact inv
  · obtain ⟨stores, started, -⟩ := @step_frame opts t _ isCycle
    rw [CyclesFrom, stores, started]
    exact inv

theorem CyclesFrom.exec {s : Stores} {t : Task} (inv : CyclesFrom opts s t) (ms : List Move) :
    CyclesFrom opts s (t.exec opts ms) :=
  exec_of_step (fun t m (inv : CyclesFrom opts s t) => inv.step m) inv ms

/-- A returned task stays returned, and its stores, count and abort stay. -/
theorem step_of_stopped {t : Task} (stopped : t.phase = .stopped) (m : Move) :
    (t.step opts m).phase = .stopped ∧ (t.step opts m).stores = t.stores ∧
      (t.step opts m).started = t.started ∧ (t.step opts m).aborted = t.aborted := by
  cases m with
  | joinReturns => simp only [step]; split <;> exact ⟨stopped, rfl, rfl, rfl⟩
  | _ => simp [step, stopped]

theorem exec_of_stopped {t : Task} (stopped : t.phase = .stopped) (ms : List Move) :
    (t.exec opts ms).phase = .stopped ∧ (t.exec opts ms).stores = t.stores ∧
      (t.exec opts ms).started = t.started ∧ (t.exec opts ms).aborted = t.aborted := by
  induction ms generalizing t with
  | nil => exact ⟨stopped, rfl, rfl, rfl⟩
  | cons m ms induction =>
    obtain ⟨stopped', stores, started, aborted⟩ := @step_of_stopped opts _ stopped m
    obtain ⟨phase, stores', started', aborted'⟩ := induction stopped'
    exact ⟨phase, stores'.trans stores, started'.trans started, aborted'.trans aborted⟩

/-- A cycle that aborts ends the task with the abort's message. -/
theorem runCycle_of_abort {t : Task} (starting : t.phase = .starting) {m : String} {s : Stores}
    (ran : cycle opts t.stores = (.error (.abort m), s)) :
    t.step opts .runCycle =
      { t with phase := .stopped, stores := s, started := t.started + 1, aborted := some m } := by
  simp only [step, if_pos starting, ran]

/-- A cycle that does not abort, failing or not, leaves the task waiting. -/
theorem runCycle_of_goes {t : Task} (starting : t.phase = .starting)
    {result : Except Fault CycleReport} {s : Stores} (ran : cycle opts t.stores = (result, s))
    (goes : ∀ m, result ≠ .error (.abort m)) :
    t.step opts .runCycle =
      { t with phase := .polling, stores := s, started := t.started + 1 } := by
  rw [step, if_pos starting, ran]
  split
  next =>
    rename_i m _ same
    exact absurd (Prod.mk.inj same).1 (goes m)
  next =>
    rename_i same
    cases same
    rfl

end Task

theorem loop_of_abort {events : List LoopEvent} {s s' : Stores} {m : String}
    (ran : cycle opts s = (.error (.abort m), s')) : loop opts false events s = (some m, s') := by
  rw [loop.eq_2, ran]

/-- What the loop does after a cycle that did not abort: wait for the next event. -/
def wake (opts : OutboxOptions) (s : Stores) : List LoopEvent → Option String × Stores
  | [] => (none, s)
  | .elapsed :: rest => loop opts false rest s
  | .signal stop :: rest => loop opts stop rest s
  | .closed :: _ => (none, s)

theorem loop_of_goes {events : List LoopEvent} {s s' : Stores} {result : Except Fault CycleReport}
    (ran : cycle opts s = (result, s')) (goes : ∀ m, result ≠ .error (.abort m)) :
    loop opts false events s = wake opts s' events := by
  rw [loop.eq_2, ran]
  split
  next =>
    rename_i m _ same
    exact absurd (Prod.mk.inj same).1 (goes m)
  next =>
    rename_i same
    cases same
    cases events with
    | nil => rfl
    | cons e rest => cases e <;> rfl

/-- The run of a task at the top of a turn, with the flag of `run`: a look at the flag, a
cycle, then the moves of the events. -/
def turn (opts : OutboxOptions) (t : Task) (events : List LoopEvent) : Task :=
  t.exec opts (.check :: .runCycle :: events.flatMap LoopEvent.moves)

/-- A turn of the loop is a turn of the task, given that what follows the cycle is. -/
theorem loop_eq_turn {events : List LoopEvent}
    (waits : ∀ t : Task, t.phase = .polling → t.flag = .fresh → t.aborted = none →
      wake opts t.stores events = ((t.exec opts (events.flatMap LoopEvent.moves)).aborted,
        (t.exec opts (events.flatMap LoopEvent.moves)).stores))
    (stop : Bool) (t : Task) (top : t.phase = .top) (flag : t.flag = ⟨stop, false, true⟩)
    (notAborted : t.aborted = none) :
    loop opts stop events t.stores =
      ((turn opts t events).aborted, (turn opts t events).stores) := by
  cases stop with
  | true =>
    -- the first look sees the flag set, and nothing moves the returned task
    have looked : (t.step opts .check).phase = .stopped := by simp [Task.step, top, flag]
    obtain ⟨-, stores, -, aborted⟩ := @Task.exec_of_stopped opts _ looked
      (.runCycle :: events.flatMap LoopEvent.moves)
    rw [turn, Task.exec_cons, stores, aborted, loop.eq_1]
    simp [Task.step, top, notAborted]
  | false =>
    have looked : t.step opts .check = { t with phase := .starting } := by
      simp [Task.step, top, flag]
    rw [turn, Task.exec_cons, looked, Task.exec_cons]
    have starting : ({ t with phase := .starting } : Task).phase = .starting := rfl
    rcases ran : cycle opts t.stores with ⟨result, s'⟩
    by_cases aborts : ∃ m, result = .error (.abort m)
    · -- the cycle aborts and ends the task
      obtain ⟨m, rfl⟩ := aborts
      rw [Task.runCycle_of_abort starting ran, loop_of_abort ran]
      have stopped : ({ t with phase := .stopped, stores := s', started := t.started + 1,
                               aborted := some m } : Task).phase = .stopped := rfl
      obtain ⟨-, stores, -, aborted⟩ := @Task.exec_of_stopped opts _ stopped
        (events.flatMap LoopEvent.moves)
      rw [stores, aborted]
    · -- the cycle, failing or not, leaves the task waiting for the events
      have goes : ∀ m, result ≠ .error (.abort m) := fun m same => aborts ⟨m, same⟩
      rw [Task.runCycle_of_goes starting ran goes, loop_of_goes ran goes]
      exact waits { t with phase := .polling, stores := s', started := t.started + 1 } rfl
        (by rw [flag]; rfl) notAborted

/-- After a cycle that did not abort, the loop's wait for the events is the task's run of
the moves they stand for. -/
theorem wake_eq_exec (events : List LoopEvent) : ∀ t : Task, t.phase = .polling →
    t.flag = .fresh → t.aborted = none →
    wake opts t.stores events = ((t.exec opts (events.flatMap LoopEvent.moves)).aborted,
      (t.exec opts (events.flatMap LoopEvent.moves)).stores) := by
  induction events with
  | nil =>
    intro t _ _ notAborted
    simp [wake, notAborted]
  | cons e rest induction =>
    intro t polling flag notAborted
    rw [List.flatMap_cons]
    cases e with
    | elapsed =>
      -- nothing was sent: the wait blocks, and the interval wakes the task at the top
      have woken : (t.step opts .poll).step opts .wakeTimer = { t with phase := .top } := by
        simp [Task.step, polling, flag, StopFlag.changed, StopFlag.fresh]
      simp only [LoopEvent.moves, List.cons_append, List.nil_append, Task.exec_cons, woken, wake]
      exact loop_eq_turn induction false { t with phase := .top } rfl flag notAborted
    | signal stop =>
      -- the value sent is waiting, so the wait returns at once with it, now seen
      have woken : (t.step opts (.send stop)).step opts .poll =
          { t with phase := .top, flag := ⟨stop, false, true⟩ } := by
        simp [Task.step, polling, flag, StopFlag.send, StopFlag.changed, StopFlag.fresh]
      simp only [LoopEvent.moves, List.cons_append, List.nil_append, Task.exec_cons, woken, wake]
      exact loop_eq_turn induction stop { t with phase := .top, flag := ⟨stop, false, true⟩ }
        rfl rfl notAborted
    | closed =>
      -- with the sender gone and nothing sent, the wait fails and the task returns
      have ended : ((t.step opts .dropSender).step opts .poll).phase = .stopped := by
        simp [Task.step, polling, flag, StopFlag.changed, StopFlag.fresh]
      obtain ⟨-, stores, -, aborted⟩ :=
        @Task.exec_of_stopped opts _ ended (rest.flatMap LoopEvent.moves)
      simp only [LoopEvent.moves, List.cons_append, List.nil_append, Task.exec_cons, stores,
        aborted, wake]
      simp [Task.step, polling, flag, StopFlag.changed, StopFlag.fresh, notAborted]

/-- `run` is the task's run of the schedule its flag and events stand for. -/
theorem run_eq_exec (stop : Bool) (events : List LoopEvent) (s : Stores) :
    run opts stop events s = (((Task.spawn opts s).exec opts (schedule stop events)).aborted,
      ((Task.spawn opts s).exec opts (schedule stop events)).stores) := by
  by_cases enabled : opts.enabled
  · have top : (Task.spawn opts s).phase = .top := by simp [Task.spawn, enabled]
    rw [run, if_pos enabled]
    cases stop with
    | true =>
      -- the flag is set before the first look, which sees it and returns
      have looked : (((Task.spawn opts s).step opts (.send true)).step opts .check).phase =
          .stopped := by
        simp [Task.step, Task.spawn, enabled, StopFlag.send, StopFlag.fresh]
      obtain ⟨-, stores, -, aborted⟩ := @Task.exec_of_stopped opts _ looked
        (.runCycle :: events.flatMap LoopEvent.moves)
      rw [schedule, if_pos rfl, List.singleton_append, Task.exec_cons, Task.exec_cons, stores,
        aborted, loop.eq_1]
      simp [Task.step, Task.spawn, enabled, StopFlag.send, StopFlag.fresh]
    | false =>
      exact loop_eq_turn (wake_eq_exec events) false (Task.spawn opts s) top rfl rfl
  · -- a disabled processor's task has returned before any move
    have stopped : (Task.spawn opts s).phase = .stopped := by simp [Task.spawn, enabled]
    obtain ⟨-, stores, -, aborted⟩ :=
      @Task.exec_of_stopped opts _ stopped (schedule stop events)
    rw [run, if_neg enabled, stores, aborted]
    rfl

end Processor

end OutboxReplicator
