import OutboxReplicator.Processor.Cycle
/-!
# The polling loop

A processor that is enabled runs cycles until it is told to stop.  Before each cycle
it looks at its stop flag; after each cycle it waits for the next event: the polling
interval elapsing, a new value of the stop flag, or the sender of the flag going away,
which ends the loop.  A failing cycle does not stop the loop; an aborting one does.

The events are given as a list; when it runs out the processor is left waiting, and
the run ends there.
-/

namespace OutboxReplicator

/-- What wakes a waiting processor. -/
inductive LoopEvent where
  /-- The polling interval elapsed. -/
  | elapsed
  /-- The stop flag was set to a value. -/
  | signal (stop : Bool)
  /-- The sender of the stop flag went away. -/
  | closed
  deriving DecidableEq, Repr

namespace Processor

/-- Cycles from a stop flag and a list of events; an abort's message if one ended it. -/
def loop (opts : OutboxOptions) : Bool → List LoopEvent → Stores → Option String × Stores
  | true, _, s => (none, s)
  | false, events, s =>
    match cycle opts s with
    | (.error (.abort m), s) => (some m, s)
    | (_, s) =>
      match events with
      | [] => (none, s)
      | .elapsed :: rest => loop opts false rest s
      | .signal stop :: rest => loop opts stop rest s
      | .closed :: _ => (none, s)

/-- Run a processor: nothing when disabled, else the loop. -/
def run (opts : OutboxOptions) (stop : Bool) (events : List LoopEvent) (s : Stores) :
    Option String × Stores :=
  if opts.enabled then loop opts stop events s else (none, s)

end Processor

end OutboxReplicator
