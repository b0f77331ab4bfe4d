import LinearSystems.Stopwatch.Basic

/-!
# A bench of stopwatches

Stopwatches under one clock that stands still until it is set: a history of actions and what each of
them answers.  There is always a current stopwatch.  A *timed run* takes a fresh one, starts it and
makes it current; leaving the run stops that stopwatch, however the run ended.  A block belongs to the
stopwatch that was current when it was entered.
-/

namespace LinearSystems

/-- How a block is left.  The time counts in either case. -/
inductive Leaving where
  | normally
  | byFailure
deriving DecidableEq

inductive BenchAction (T : Type) where
  /-- Sets the clock. -/
  | at (time : T)
  | start
  | stop
  | result
  | enter (handle name : String)
  | leave (handle : String) (how : Leaving)
  | beginTimed
  | endTimed

/-- What an action answers when it succeeds. -/
inductive BenchReading (T : Type) where
  | nothing
  /-- The failure that ended a block goes on: a stopwatch does not swallow it. -/
  | escaped
  | times (entries : List (String × T))

def Leaving.reading {T : Type} : Leaving → BenchReading T
  | .normally => .nothing
  | .byFailure => .escaped

/-- Stopwatches by number, the number of the current one, the open blocks with their handles and
stopwatches, and the stopwatches of the open timed runs, innermost first. -/
structure Bench (T : Type) where
  now : T
  watches : List (Stopwatch T)
  current : Nat
  blocks : List (String × Nat × Block T)
  timed : List Nat

namespace Bench

variable {T : Type}

/-- One fresh stopwatch, and the clock at its beginning. -/
def fresh (now : T) : Bench T := ⟨now, [{}], 0, [], []⟩

def watch (b : Bench T) (number : Nat) : Stopwatch T := b.watches.getD number {}

def isRunning (b : Bench T) : Bool := (b.watch b.current).isRunning

def setWatch (b : Bench T) (number : Nat) (w : Stopwatch T) : Bench T :=
  { b with watches := b.watches.set number w }

variable [Zero T] [Add T] [Sub T]

/-- Stops a stopwatch by number. -/
def stopWatch (b : Bench T) (number : Nat) : Except StopwatchFault (Bench T) := do
  return b.setWatch number (← (b.watch number).stop b.now)

/-- Leaves the open block of a handle; the block belongs to the stopwatch it was entered on, current or
not. -/
def close (b : Bench T) (handle : String) : Option (Bench T) :=
  (b.blocks.find? fun block => block.1 == handle).map fun (_, number, block) =>
    let left := b.setWatch number ((b.watch number).leave b.now block)
    { left with blocks := b.blocks.eraseP fun other => other.1 == handle }

/-- The bench after an action, and its answer.  Leaving what is not open changes nothing, and a handle
that is taken for a new block leaves its old one. -/
def act (b : Bench T) : BenchAction T → Bench T × Except StopwatchFault (BenchReading T)
  | .at time => ({ b with now := time }, .ok .nothing)
  | .start => (b.setWatch b.current ((b.watch b.current).start b.now), .ok .nothing)
  | .stop =>
    match b.stopWatch b.current with
    | .ok stopped => (stopped, .ok .nothing)
    | .error fault => (b, .error fault)
  | .result => (b, (b.watch b.current).result.map .times)
  | .enter handle name =>
    let free := (b.close handle).getD b
    ({ free with blocks := (handle, b.current, ⟨name, b.now⟩) :: free.blocks }, .ok .nothing)
  | .leave handle how =>
    match b.close handle with
    | none => (b, .ok .nothing)
    | some left => (left, .ok how.reading)
  | .beginTimed =>
    let number := b.watches.length
    ({ b with
        watches := b.watches ++ [Stopwatch.start b.now {}]
        current := number
        timed := number :: b.timed }, .ok .nothing)
  | .endTimed =>
    match b.timed with
    | [] => (b, .ok .nothing)
    | number :: outer =>
      match b.stopWatch number with
      | .ok stopped => ({ stopped with timed := outer }, .ok .nothing)
      | .error fault => ({ b with timed := outer }, .error fault)

/-- A history: for every action its answer and whether the current stopwatch then runs. -/
def run (b : Bench T) : List (BenchAction T) →
    List (Except StopwatchFault (BenchReading T) × Bool)
  | [] => []
  | action :: rest =>
    let (next, answer) := b.act action
    (answer, next.isRunning) :: next.run rest

end Bench

end LinearSystems
