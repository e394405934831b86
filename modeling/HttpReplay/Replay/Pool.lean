import HttpReplay.Replay.Worker

/-!
A pool of workers that replay the payloads of a queue.

The pool is a machine like its workers (`Pool.step`), with those who write to it, a coordinator that
starts workers, and whoever reads responses back. A writer first puts its payload into the queue,
then looks how long the queue is, then at the number of workers, and asks for more workers last;
each of these is a step of its own. Only one request for workers can wait at a time.

While the pool is being opened the coordinator stands for whoever opens it: it starts the first
workers one by one, and those that have been started may already run. A pool of fixed size has no
coordinator afterwards.
-/

set_option autoImplicit false

namespace HttpReplay

namespace Pool

/-- What a writer has still to do once its payload is in the queue. -/
inductive Writer where
  /-- Look how long the queue is. -/
  | measuring
  /-- Compare that with the number of workers. -/
  | comparing (length : Nat)
  /-- Ask for more workers. -/
  | asking (length : Nat)
  deriving DecidableEq, Repr

inductive Coordinator where
  /-- The pool is being opened, and so many of the first workers are to be started yet. -/
  | opening (left : Nat)
  | waiting
  | deciding (requested : Nat)
  /-- It has so many workers to start. -/
  | hiring (left : Nat)
  | off
  deriving DecidableEq, Repr

end Pool

structure Pool where
  shared : Pool.Shared
  /-- The workers, by number. -/
  workers : List Worker
  coordinator : Pool.Coordinator
  /-- The writers that are not done yet. -/
  writers : List Pool.Writer
  deriving DecidableEq, Repr

namespace Pool

/-- What may happen to a pool. -/
inductive Event where
  | write (payload : Bytes)
  | writer (i : Nat)
  | worker (k : Nat) (event : Worker.Event)
  | coordinator
  | stopCoordinator
  | read
  | stop
  /-- Whoever writes and reads goes away. -/
  | drop
  deriving DecidableEq, Repr

/-- A pool about to be opened. -/
def initial (s : Settings) : Pool where
  shared :=
    { queue := [], line := [], responses := [], resize := none, counters := Counters.zero
      stopped := false, held := true, log := [] }
  workers := []
  coordinator := .opening s.initialWorkers
  writers := []

def isOpen (p : Pool) : Bool :=
  match p.coordinator with
  | .opening _ => false
  | _ => true

def spawn (s : Settings) (target : Target) (p : Pool) : Pool :=
  { p with
    shared := { p.shared with counters := p.shared.counters.register }
    workers := p.workers ++ [Worker.fresh s target] }

/-! ## Steps -/

/-- A payload that is a request goes into the queue if there is room; any other is passed over. -/
def write (s : Settings) (p : Pool) (payload : Bytes) : Option Pool :=
  if ¬ p.isOpen ∨ ¬ p.shared.held then none
  else if Payload.isRequest payload then
    if p.shared.queue.length < s.queueRoom then
      some { p with
        shared := { p.shared with queue := p.shared.queue ++ [payload] }.noting (.accepted payload)
        writers := p.writers ++ [.measuring] }
    else none
  else some p

/-- Writer `i` goes on. -/
def advanceWriter (s : Settings) (p : Pool) (i : Nat) : Option Pool :=
  match p.writers[i]? with
  | none => none
  | some .measuring =>
    let length := p.shared.queue.length
    some { p with
      shared := if s.stats then p.shared.noting (.depth length) else p.shared
      writers := if s.isDynamic then p.writers.set i (.comparing length) else p.writers.eraseIdx i }
  | some (.comparing length) =>
    some { p with
      writers :=
        if p.shared.counters.active < length then p.writers.set i (.asking length)
        else p.writers.eraseIdx i }
  | some (.asking length) =>
    some { p with
      shared := (p.shared.ask length).noting (.asked length)
      writers := p.writers.eraseIdx i }

/-- Something happens to worker `k`. -/
def advanceWorker (s : Settings) (target : Target) (p : Pool) (k : Nat) (e : Worker.Event) :
    Option Pool :=
  match p.workers[k]? with
  | none => none
  | some w => (w.step s target k p.shared e).map fun (shared, w) =>
    { p with shared, workers := p.workers.set k w }

def coordinate (s : Settings) (target : Target) (p : Pool) : Option Pool :=
  match p.coordinator with
  | .opening (left + 1) => some { p.spawn s target with coordinator := .opening left }
  | .opening 0 => some { p with coordinator := if s.isDynamic then .waiting else .off }
  | .waiting =>
    match p.shared.resize with
    | none => none
    | some requested =>
      some { p with
        shared := { p.shared with resize := none }.noting (.resized requested)
        coordinator := .deciding requested }
  | .deciding requested =>
    some { p with coordinator := .hiring (s.growth requested p.shared.counters.idle) }
  | .hiring (left + 1) => some { p.spawn s target with coordinator := .hiring left }
  | .hiring 0 => some { p with coordinator := .waiting }
  | .off => none

/-- **One step of a pool.** There is none where the event cannot happen. -/
def step (s : Settings) (target : Target) (p : Pool) : Event → Option Pool
  | .write payload => p.write s payload
  | .writer i => p.advanceWriter s i
  | .worker k e => p.advanceWorker s target k e
  | .coordinator => p.coordinate s target
  | .stopCoordinator =>
    if p.coordinator = .waiting ∧ p.shared.stopped then some { p with coordinator := .off }
    else none
  | .read =>
    match p.shared.responses with
    | [] => none
    | response :: responses =>
      some { p with shared := { p.shared with responses }.noting (.readBack response) }
  | .stop => some { p with shared := { p.shared with stopped := true } }
  | .drop =>
    if p.isOpen then some { p with shared := { p.shared with held := false, responses := [] } }
    else none

/-- All steps of a list of events, while they can happen. -/
def run (s : Settings) (target : Target) (p : Pool) : List Event → Option Pool
  | [] => some p
  | e :: events => (p.step s target e).bind fun q => q.run s target events

/-- Whether a pool can come about. -/
def Reachable (s : Settings) (target : Target) (p : Pool) : Prop :=
  ∃ events, (initial s).run s target events = some p

/-! ## What can be seen of a pool -/

/-- How many tasks of the pool would be told to stop. -/
def subscribers (p : Pool) : Nat :=
  (p.workers.filter fun w => w.phase != .gone).length +
    (match p.coordinator with
      | .off | .opening _ => 0
      | .waiting | .deciding _ | .hiring _ => 1)

/-- The pool right after it was opened, before any of its workers has run. -/
def opened (s : Settings) (target : Target) : Pool :=
  { Nat.repeat (spawn s target) s.initialWorkers (initial s) with
    coordinator := if s.isDynamic then .waiting else .off }

def name (target : Target) : String := "HTTP output: " ++ target.baseUrl

end Pool
end HttpReplay
