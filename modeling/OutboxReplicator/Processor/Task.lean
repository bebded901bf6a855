import OutboxReplicator.Processor.Loop
/-!
# The processor task and its stop flag

`Processor.run` is given the loop's wake-ups as a list of events.  Here the same loop is
a task that moves one step at a time, beside the two parties that act on it: the sender
of its stop flag, and the handle that spawned it and may wait for it to return.  Any
interleaving of their moves is a `Move` list, and `Task.exec` runs it.

The stop flag is a channel that holds one value.  The sender replaces the value and
marks it unseen; a value sent after the sender is gone reaches nobody.  The task reads
the value at the top of each turn of the loop, without marking it seen.  After a cycle
the task waits for a change of the flag or for the polling interval, whichever comes
first:

* waiting for a change returns at once when an unseen value is there, marking it seen,
  and fails at once when the sender is gone and nothing is unseen;
* the interval is longer than zero, so it has not elapsed when the wait starts: a change
  that is ready then wins (`poll`);
* once the task is blocked, either a change or the interval may wake it (`wakeChanged`,
  `wakeTimer`).

A cycle is one move: what the other parties do while it runs is seen after it.  A move
that cannot be taken in the task's state changes nothing, so every list of moves is a
schedule.  Waiting takes no reading of the clock: the time that passes while the task
waits shows as the gap between the last reading of one cycle and the first of the next.
-/

namespace OutboxReplicator

namespace Processor

/-- Where the task is. -/
inductive Phase where
  /-- About to read the flag. -/
  | top
  /-- The flag read `false`: a cycle is about to run. -/
  | starting
  /-- A cycle ended; the wait for a change or the interval begins. -/
  | polling
  /-- Waiting for a change of the flag or for the interval. -/
  | blocked
  /-- The task returned. -/
  | stopped
  deriving DecidableEq, Repr

/-- The stop flag as the task's receiver sees it. -/
structure StopFlag where
  /-- The value last sent, or the first one. -/
  value : Bool
  /-- Whether a value was sent that the task has not waited for. -/
  unseen : Bool
  /-- Whether the sender still exists. -/
  senderAlive : Bool
  deriving DecidableEq, Repr

namespace StopFlag

/-- The flag of a new channel: `false`, seen, with its sender. -/
def fresh : StopFlag := ⟨false, false, true⟩

/-- The flag after the sender sends a value; nothing, once the sender is gone. -/
def send (f : StopFlag) (v : Bool) : StopFlag :=
  if f.senderAlive then { f with value := v, unseen := true } else f

/-- What a wait for a change gives when it looks: the top of the loop with the value
marked seen, the end of the task when the sender is gone, or nothing yet. -/
def changed (f : StopFlag) : Option (Phase × StopFlag) :=
  if f.unseen then some (.top, { f with unseen := false })
  else if f.senderAlive then none
  else some (.stopped, f)

end StopFlag

/-- A move of the task, of the sender of its flag, or of its handle. -/
inductive Move where
  /-- The sender sets the flag; a shutdown request sets it to `true`. -/
  | send (stop : Bool)
  /-- The sender goes away. -/
  | dropSender
  /-- The handle requests shutdown and starts waiting for the task. -/
  | shutdownAndJoin
  /-- The handle's wait returns, once the task has returned. -/
  | joinReturns
  /-- The task reads the flag at the top of the loop. -/
  | check
  /-- The task runs one cycle. -/
  | runCycle
  /-- The task starts waiting after a cycle. -/
  | poll
  /-- A change of the flag, or the sender going away, wakes the blocked task. -/
  | wakeChanged
  /-- The polling interval elapses and wakes the blocked task. -/
  | wakeTimer
  deriving DecidableEq, Repr

/-- The task with its flag and stores, and its handle. -/
structure Task where
  /-- Where the task is. -/
  phase : Phase
  /-- The stop flag. -/
  flag : StopFlag
  /-- The stores the cycles work on. -/
  stores : Stores
  /-- The cycles started so far. -/
  started : Nat
  /-- The message of the cycle that aborted, which ended the task. -/
  aborted : Option String
  /-- Whether the handle waits for the task. -/
  joining : Bool
  /-- Whether the handle's wait returned. -/
  joined : Bool

namespace Task

/-- The task as spawned with a new flag: at the top of the loop when enabled, returned
at once otherwise. -/
def spawn (opts : OutboxOptions) (s : Stores) : Task where
  phase := if opts.enabled then .top else .stopped
  flag := .fresh
  stores := s
  started := 0
  aborted := none
  joining := false
  joined := false

/-- The task after one move; a move that cannot be taken changes nothing. -/
def step (opts : OutboxOptions) (t : Task) : Move → Task
  | .send v => { t with flag := t.flag.send v }
  | .dropSender => { t with flag := { t.flag with senderAlive := false } }
  | .shutdownAndJoin => { t with flag := t.flag.send true, joining := true }
  | .joinReturns => if t.joining ∧ t.phase = .stopped then { t with joined := true } else t
  | .check =>
    if t.phase = .top then { t with phase := if t.flag.value then .stopped else .starting }
    else t
  | .runCycle =>
    if t.phase = .starting then
      match cycle opts t.stores with
      | (.error (.abort m), s) =>
        { t with phase := .stopped, stores := s, started := t.started + 1, aborted := some m }
      | (_, s) => { t with phase := .polling, stores := s, started := t.started + 1 }
    else t
  | .poll =>
    if t.phase = .polling then
      match t.flag.changed with
      | some (p, f) => { t with phase := p, flag := f }
      | none => { t with phase := .blocked }
    else t
  | .wakeChanged =>
    if t.phase = .blocked then
      match t.flag.changed with
      | some (p, f) => { t with phase := p, flag := f }
      | none => t
    else t
  | .wakeTimer => if t.phase = .blocked then { t with phase := .top } else t

/-- The task after a schedule of moves. -/
def exec (opts : OutboxOptions) (t : Task) (ms : List Move) : Task :=
  ms.foldl (step opts) t

end Task

/-- The moves by which an event wakes the task after a cycle, followed by the next look
at the flag and cycle. -/
def LoopEvent.moves : LoopEvent → List Move
  | .elapsed => [.poll, .wakeTimer, .check, .runCycle]
  | .signal stop => [.send stop, .poll, .check, .runCycle]
  | .closed => [.dropSender, .poll]

/-- The schedule that `run` with a first flag value and events stands for: the flag set
before the first look, the first cycle, then each event's moves. -/
def schedule (stop : Bool) (events : List LoopEvent) : List Move :=
  (if stop then [.send true] else []) ++ .check :: .runCycle :: events.flatMap LoopEvent.moves

end Processor

end OutboxReplicator
