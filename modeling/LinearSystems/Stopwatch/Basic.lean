/-!
# Stopwatches

A stopwatch times a whole run between a start and a stop, and named blocks inside or outside it.
Blocks of one name add up, in the order in which they are left; blocks may overlap and need not be
nested, so a block is represented by the time at which it was entered, and leaving it is an operation
of its own.

The clock is not read here: every operation is given the time at which it happens.
-/

namespace LinearSystems

/-- Why a stopwatch cannot answer. -/
inductive StopwatchFault where
  | stoppedBeforeStart
  | readBeforeStop
deriving DecidableEq

def StopwatchFault.message : StopwatchFault → String
  | stoppedBeforeStart => "Timer.stop() called before start()"
  | readBeforeStop => "Timer.result() called before stop()"

/-- `startedAt` is the latest start; `total` the time to the latest stop since then. -/
structure Stopwatch (T : Type) where
  startedAt : Option T := none
  total : Option T := none
  sections : List (String × T) := []

/-- A block under way. -/
structure Block (T : Type) where
  name : String
  enteredAt : T

namespace Stopwatch

variable {T : Type}

/-- Started, and not stopped since. -/
def isRunning (w : Stopwatch T) : Bool := w.startedAt.isSome && w.total.isNone

def start (now : T) (w : Stopwatch T) : Stopwatch T :=
  { w with startedAt := some now, total := none }

/-- Stopping again measures from the same start to the later time. -/
def stop [Sub T] (now : T) (w : Stopwatch T) : Except StopwatchFault (Stopwatch T) :=
  match w.startedAt with
  | none => .error .stoppedBeforeStart
  | some started => .ok { w with total := some (now - started) }

/-- Adds a time to the entry of a name; a new name goes to the end. -/
def accumulate [Zero T] [Add T] (name : String) (spent : T) :
    List (String × T) → List (String × T)
  | [] => [(name, 0 + spent)]
  | (n, t) :: rest =>
    if n = name then (n, t + spent) :: rest else (n, t) :: accumulate name spent rest

/-- Leaves a block. -/
def leave [Zero T] [Add T] [Sub T] (now : T) (block : Block T) (w : Stopwatch T) :
    Stopwatch T :=
  { w with sections := accumulate block.name (now - block.enteredAt) w.sections }

/-- The name under which the whole run is listed. -/
def totalName : String := "total_seconds"

/-- The whole run, then every section.  A section of the whole run's name takes its place. -/
def result (w : Stopwatch T) : Except StopwatchFault (List (String × T)) :=
  match w.total with
  | none => .error .readBeforeStop
  | some total =>
    let own := (w.sections.find? fun s => s.1 == totalName).map Prod.snd
    .ok ((totalName, own.getD total) :: w.sections.filter fun s => s.1 != totalName)

end Stopwatch

end LinearSystems
