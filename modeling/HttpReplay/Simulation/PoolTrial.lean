import HttpReplay.Replay.Pool
import HttpReplay.Simulation.ClientTrial

/-!
A pool on a simulated network, taken through a list of steps.

The machine of a pool says what may happen; a trial picks one thing after the other, the way a
single thread would that takes tasks from a queue. A task runs until it has to wait, but not for
ever: a turn is a limited number of operations, and after a limited number of turns those who used
theirs up line up again and whoever drives the trial may go on. What a task makes possible for
another puts that one at the end of the queue, and requests to the network are looked after when the
queue is empty. Every change of the pool is a step of the machine, so whatever holds of all its runs
holds of a trial.
-/

set_option autoImplicit false

namespace HttpReplay.Simulation

inductive PoolTask where
  | worker (k : Nat)
  | coordinator
  deriving DecidableEq, Repr

/-- A request that is being replayed. -/
structure Errand where
  started : Instant
  /-- Whether the network has been asked at all. -/
  begun : Bool
  session : Session (Client × Reply)

/-- What belongs to a worker beyond what its pool knows of it. -/
structure Seat where
  /-- The number of its client's connection. -/
  connection : Option Nat
  /-- Which of its clients that is. -/
  rotations : Nat
  /-- When its wait ends. -/
  deadline : Instant
  /-- Whether it has found itself at the front of the line in this wait. -/
  admitted : Bool
  /-- The request it is replaying. -/
  errand : Option Errand

/-- How many operations make a turn. To get to the front of the line, to take a payload and to hand
over a response are one operation each, and so are what whoever drives the trial does. -/
def turnLength : Nat := 128

/-- How many turns make a round. -/
def roundLength : Nat := 61

def workerWait : Duration := Duration.ofMillis 100

/-- How long whoever writes waits for room before giving up. -/
def writerWait : Duration := Duration.ofMillis 50

/-- How long whoever reads waits for a response before giving up. -/
def readerWait : Duration := Duration.ofMillis 1000

structure PoolTrial where
  /-- The settings. -/
  settings : Pool.Settings
  /-- Where the pool replays to. -/
  target : Target
  /-- The pool. -/
  pool : Pool
  /-- The network. -/
  net : Network
  /-- The clock. -/
  now : Instant
  /-- The tasks that can run, in order. -/
  ready : List PoolTask
  /-- The tasks that have used up their turns in this round, in order. -/
  yielded : List PoolTask
  /-- How many operations are left to whoever drives the trial in this turn. -/
  credit : Nat
  /-- The workers' seats, by number. -/
  seats : List Seat
  /-- The workers that wait for room to hand over a response, in order. -/
  senders : List Nat
  /-- The workers that use the network, in the order in which they began to. -/
  errands : List Nat

namespace PoolTrial

def start (settings : Pool.Settings) (target : Target) (net : Network) : PoolTrial :=
  let pool := Pool.opened settings target
  let workers := (List.range pool.workers.length).map PoolTask.worker
  { settings, target, pool, net, now := 0
    ready := if settings.isDynamic then workers ++ [.coordinator] else workers
    yielded := []
    credit := turnLength
    seats := pool.workers.map fun _ => ⟨none, 0, 0, false, none⟩
    senders := []
    errands := [] }

/-- Puts a task at the end of the queue, unless it is there already. -/
def wake (task : PoolTask) (t : PoolTrial) : PoolTrial :=
  if task ∈ t.ready then t else { t with ready := t.ready ++ [task] }

/-- Wakes a worker, if there is one to wake. -/
def wakeWorker (k : Option Nat) (t : PoolTrial) : PoolTrial :=
  match k with
  | some k => t.wake (.worker k)
  | none => t

/-- Ends the turn of worker `k`, which has more to do. -/
def yieldTurn (k : Nat) (t : PoolTrial) : PoolTrial :=
  { t with yielded := t.yielded ++ [.worker k] }

def apply (e : Pool.Event) (t : PoolTrial) : PoolTrial :=
  match t.pool.step t.settings t.target e with
  | some pool => { t with pool }
  | none => t

/-- One step of worker `k`. Whoever comes to the front of the line by it is woken. -/
def applyWorker (k : Nat) (e : Worker.Event) (t : PoolTrial) : PoolTrial :=
  let front := t.pool.shared.line.head?
  let t := t.apply (.worker k e)
  let front' := t.pool.shared.line.head?
  if front = front' ∨ front' = some k then t else t.wakeWorker front'

/-- Changes the seat of worker `k`. -/
def setSeat (k : Nat) (f : Seat → Seat) (t : PoolTrial) : PoolTrial :=
  match t.seats[k]? with
  | some seat => { t with seats := t.seats.set k (f seat) }
  | none => t

def hangUp (connection : Option Nat) (t : PoolTrial) : PoolTrial :=
  match connection.bind fun k => t.net.connections[k]?.map (k, ·) with
  | some (k, c) =>
    { t with net := t.net.setConnection k ({ c with abandoned := true }.play t.now) }
  | none => t

/-- Drops the connection of a client that worker `k` does not have any more. -/
def tidy (k : Nat) (t : PoolTrial) : PoolTrial :=
  match t.pool.workers[k]?, t.seats[k]? with
  | some w, some seat =>
    if w.rotations = seat.rotations ∧ w.phase ≠ .gone then t
    else (t.hangUp seat.connection).setSeat k fun s =>
      { s with connection := none, rotations := w.rotations }
  | _, _ => t

/-! ## Tasks -/

/-- The errand of worker `k`, begun if there is none. -/
def errandOf (k : Nat) (w : Worker) (payload : Bytes) (t : PoolTrial) : Errand :=
  match t.seats[k]? with
  | some ⟨_, _, _, _, some errand⟩ => errand
  | some ⟨connection, _, _, _, none⟩ =>
    ⟨t.now, false, w.client.send (Payload.message payload), connection⟩
  | none => ⟨t.now, false, w.client.send (Payload.message payload), none⟩

/-- Takes the errand of worker `k` as far as it gets. -/
def runErrand (k : Nat) (errand : Errand) (t : PoolTrial) : PoolTrial × Bool :=
  let p := errand.session.run t.net t.now
  let t := { t with net := p.net, now := p.now }
  match p.session.result? with
  | some (client, reply) =>
    let t := { t with errands := t.errands.erase k }.setSeat k fun s =>
      { s with connection := p.session.connection, errand := none }
    let roundTrip := (p.now - errand.started).toNat
    (t.applyWorker k (.replied client reply t.net.today t.net.today roundTrip), true)
  | none =>
    (t.setSeat k fun s =>
      { s with
        connection := p.session.connection
        errand := some { errand with begun := true, session := p.session } }, false)

/-- Runs worker `k` until it has to wait, or until it has done `credit` operations. -/
def runWorker : Nat → Nat → Nat → PoolTrial → PoolTrial
  | 0, _, _, t => t
  | fuel + 1, credit, k, t =>
    match t.pool.workers[k]? with
    | none => t
    | some w =>
      let shared := t.pool.shared
      match w.phase with
      | .resting =>
        let t := (t.applyWorker k .proceed).setSeat k fun s =>
          { s with deadline := t.now + workerWait, admitted := false }
        runWorker fuel credit k t
      | .waiting =>
        if credit = 0 then t.yieldTurn k
        else if shared.stopped then runWorker fuel (credit - 1) k (t.applyWorker k .stop)
        else
          let t := if k ∈ shared.line then t else t.applyWorker k .lineUp
          let first := t.pool.shared.line.head? = some k
          let admitted := t.seats[k]?.any (·.admitted)
          let credit := if first ∧ ¬ admitted then credit - 1 else credit
          let t := if first then t.setSeat k fun s => { s with admitted := true } else t
          if credit = 0 then t.yieldTurn k
          else if first ∧ shared.queue ≠ [] then
            runWorker fuel (credit - 1) k (t.applyWorker k .take)
          else if first ∧ ¬ shared.held then runWorker fuel (credit - 1) k (t.applyWorker k .stop)
          else if t.seats[k]?.any (·.deadline ≤ t.now) then
            runWorker fuel (credit - 1) k (t.applyWorker k .expire)
          else t
      | .replaying payload =>
        let errand := t.errandOf k w payload
        if errand.begun || !t.net.reaches t.target.dialAddress then
          let (t, finished) := t.runErrand k errand
          if finished then runWorker fuel credit k t else t
        else { t with errands := t.errands ++ [k] }.setSeat k fun s =>
          { s with errand := some errand }
      | .handingOver _ =>
        if credit = 0 then t.yieldTurn k
        else if shared.stopped ∨ ¬ shared.held then
          runWorker fuel (credit - 1) k
            ({ t with senders := t.senders.erase k }.applyWorker k .giveUp)
        else if shared.responses.length + t.senders.idxOf k < t.settings.responseRoom then
          runWorker fuel (credit - 1) k
            ({ t with senders := t.senders.erase k }.applyWorker k .deliver)
        else if k ∈ t.senders then t
        else { t with senders := t.senders ++ [k] }
      | .swapping _ _ => runWorker fuel credit k ((t.applyWorker k .swap).tidy k)
      | .reporting => runWorker fuel credit k ((t.applyWorker k .proceed).wake .coordinator)
      | .gone => t.tidy k
      | .woken _ | .holding _ | .served | .retiring _ | .checking | .stopping =>
        runWorker fuel credit k ((t.applyWorker k .proceed).tidy k)

/-- Runs the coordinator until it has to wait. -/
def runCoordinator : Nat → PoolTrial → PoolTrial
  | 0, t => t
  | fuel + 1, t =>
    match t.pool.coordinator with
    | .waiting =>
      if t.pool.shared.stopped then t.apply .stopCoordinator
      else match t.pool.shared.resize with
        | some _ => runCoordinator fuel (t.apply .coordinator)
        | none => t
    | .hiring (_ + 1) =>
      let k := t.pool.workers.length
      let t := t.apply .coordinator
      let seat : Seat := ⟨none, 0, t.now, false, none⟩
      runCoordinator fuel ({ t with seats := t.seats ++ [seat] }.wake (.worker k))
    | .opening _ | .deciding _ | .hiring 0 => runCoordinator fuel (t.apply .coordinator)
    | .off => t

/-- Runs tasks that can run, at most so many. -/
def runTasks : Nat → PoolTrial → PoolTrial
  | 0, t => t
  | turns + 1, t =>
    match t.ready with
    | [] => t
    | task :: ready =>
      let t := { t with ready }
      runTasks turns (match task with
        | .worker k => t.runWorker patience turnLength k
        | .coordinator => t.runCoordinator patience)

/-- Runs one round. Then those who used up their turns in it line up again. -/
def runRound (t : PoolTrial) : PoolTrial :=
  let t := t.runTasks roundLength
  t.yielded.foldl (fun t task => t.wake task) { t with yielded := [] }

/-- Runs all tasks that can run. -/
def runReady : Nat → PoolTrial → PoolTrial
  | 0, t => t
  | fuel + 1, t =>
    let t := t.runRound
    if t.ready.isEmpty then t else runReady fuel t

/-- Looks after the request of worker `k` to the network, if it has one. -/
def attendTo (k : Nat) (t : PoolTrial) : PoolTrial :=
  match t.seats[k]?.bind (·.errand) with
  | some errand =>
    let t := t.setSeat k fun s => { s with errand := some { errand with begun := true } }
    t.runWorker patience turnLength k
  | none => t

/-- Looks after all requests to the network. -/
def attend (t : PoolTrial) : PoolTrial :=
  t.errands.foldl (fun t k => t.attendTo k) t

/-- Whether some request has not reached the network yet. -/
def hasNewErrand (t : PoolTrial) : Bool :=
  t.seats.any fun seat => seat.errand.any fun errand => !errand.begun

/-- Runs everything that can run at this instant. -/
def runNow : Nat → PoolTrial → PoolTrial
  | 0, t => t
  | fuel + 1, t =>
    let t := t.runReady patience
    if t.hasNewErrand then runNow fuel t.attend else t

/-! ## Time -/

/-- When the next thing happens by itself. -/
def nextEvent (t : PoolTrial) : Option Instant :=
  let waits := (t.pool.workers.zip t.seats).filterMap fun (w, seat) =>
    if w.phase = .waiting then some seat.deadline
    else seat.errand.bind fun errand => errand.session.limit?
  match t.net.nextWake with
  | some wake => (wake :: waits).min?
  | none => waits.min?

/-- Wakes whoever waits for this instant. Those who wait are in line, and who came first wakes
first. -/
def awaken (t : PoolTrial) : PoolTrial :=
  let due := t.pool.shared.line.filter fun k => t.seats[k]?.any (·.deadline ≤ t.now)
  (due.foldl (fun t k => t.wake (.worker k)) t).attend

/-- Lets time pass until `enough` holds, at most until `limit`. Those who have waited for that
instant are awake then, but have not run. -/
def waitFor (enough : PoolTrial → Bool) (limit : Instant) : Nat → PoolTrial → PoolTrial
  | 0, t => t
  | fuel + 1, t =>
    let t := t.runRound
    if enough t then t
    else if !t.ready.isEmpty then waitFor enough limit fuel t
    else if t.hasNewErrand then waitFor enough limit fuel t.attend
    else match t.nextEvent with
      | some next =>
        if next < limit then waitFor enough limit fuel { t with now := max next t.now }.awaken
        else { t with now := max limit t.now }.awaken
      | none => { t with now := max limit t.now }

/-- Lets time pass. -/
def sleep (d : Duration) (t : PoolTrial) : PoolTrial :=
  (t.waitFor (fun _ => false) (t.now + d) patience).runNow patience

/-- When the next thing happens that is not worth calling a wait: a request that is given up, or a
server that goes on, no later than a pause from now. -/
def nextStir (t : PoolTrial) : Option Instant :=
  let limits := t.seats.filterMap fun seat =>
    seat.errand.bind fun errand => errand.session.limit?
  let stirs := match t.net.nextWake with
    | some wake => wake :: limits
    | none => limits
  (stirs.filter fun stir => decide (stir ≤ t.now + pauseLength)).min?

/-- Runs everything until all wait. -/
def settle : Nat → PoolTrial → PoolTrial
  | 0, t => t
  | fuel + 1, t =>
    let t := t.runNow patience
    match t.nextStir with
    | none => t
    | some stir =>
      settle fuel (t.waitFor (fun _ => false) stir patience)

/-! ## Steps -/

inductive Step where
  /-- Writes payloads. -/
  | write (payloads : List Bytes)
  /-- Reads a response back. -/
  | read
  /-- Waits until everything waits. -/
  | settle
  /-- Lets time pass. -/
  | sleep (d : Duration)
  /-- Tells everything to stop. -/
  | shutdown
  /-- Looks at the counts. -/
  | stats
  /-- Lets go of the pool. -/
  | drop
  deriving DecidableEq, Repr

/-- What a step comes to. -/
inductive Answer where
  /-- How many bytes each write took, if it took any. -/
  | written (counts : List (Option Nat))
  /-- What was read back, if anything. -/
  | payload (data : Option Bytes)
  | stats (active idle queued spawned : Nat)
  | nothing
  deriving DecidableEq, Repr

def hasRoom (t : PoolTrial) : Bool :=
  decide (t.pool.shared.queue.length < t.settings.queueRoom)

def finishWriter : Nat → PoolTrial → PoolTrial
  | 0, t => t
  | fuel + 1, t =>
    match t.pool.writers with
    | [] => t
    | .asking _ :: _ => finishWriter fuel ((t.apply (.writer 0)).wake .coordinator)
    | _ :: _ => finishWriter fuel (t.apply (.writer 0))

/-- Gives a new turn to whoever drives the trial. -/
def newTurn (t : PoolTrial) : PoolTrial := { t with credit := turnLength }

/-- One operation of whoever drives the trial. Without credit for it, others go first. -/
def spend (t : PoolTrial) : PoolTrial :=
  let t := if t.credit = 0 then t.runRound.newTurn else t
  { t with credit := t.credit - 1 }

def writeOne (payload : Bytes) (t : PoolTrial) : PoolTrial × Option Nat :=
  if !Payload.isRequest payload then (t, some payload.length)
  else
    let t := if t.hasRoom then t.spend
      else (t.waitFor hasRoom (t.now + writerWait) patience).newTurn.spend
    if t.hasRoom then
      let t := (t.apply (.write payload)).wakeWorker t.pool.shared.line.head?
      (t.finishWriter 3, some payload.length)
    else (t, none)

/-- Writes payloads, one after the other. -/
def writeAll : List Bytes → PoolTrial → PoolTrial × List (Option Nat)
  | [], t => (t, [])
  | payload :: rest, t =>
    let (t, count) := t.writeOne payload
    let (t, counts) := writeAll rest t
    (t, count :: counts)

/-- Whether there is a response to read back. -/
def hasResponse (t : PoolTrial) : Bool := !t.pool.shared.responses.isEmpty

/-- Wakes the workers for whose responses there is room. -/
def wakeSenders (t : PoolTrial) : PoolTrial :=
  let room := t.settings.responseRoom - t.pool.shared.responses.length
  (t.senders.take room).foldl (fun t k => t.wake (.worker k)) t

/-- Reads one response back. -/
def readOne (t : PoolTrial) : PoolTrial × Option Bytes :=
  let t := t.spend
  let t := if t.hasResponse then t.spend
    else (t.waitFor hasResponse (t.now + readerWait) patience).newTurn.spend
  match t.pool.shared.responses with
  | [] => (t, none)
  | response :: _ => ((t.apply .read).wakeSenders, some (response.payload t.net.today))

/-- Wakes every worker and the coordinator. -/
def wakeAll (t : PoolTrial) : PoolTrial :=
  ((List.range t.seats.length).foldl (fun t k => t.wake (.worker k)) t).wake .coordinator

def step (t : PoolTrial) : Step → PoolTrial × Answer
  | .write payloads => let (t, counts) := t.writeAll payloads; (t, .written counts)
  | .read => let (t, data) := t.readOne; (t, .payload data)
  | .settle => ((t.settle patience).newTurn, .nothing)
  | .sleep d => ((t.sleep d).newTurn, .nothing)
  | .shutdown => (((t.apply .stop).wakeAll.settle patience).newTurn, .nothing)
  | .stats =>
    let s := t.pool.shared
    (t, .stats s.counters.active s.counters.idle s.queue.length s.counters.spawned)
  | .drop =>
    let t := t.apply .drop
    let t := t.senders.foldl (fun t k => t.wake (.worker k)) (t.wakeWorker t.pool.shared.line.head?)
    ((t.settle patience).newTurn, .nothing)

def run (t : PoolTrial) : List Step → PoolTrial × List Answer
  | [] => (t, [])
  | s :: rest =>
    let (t, answer) := t.step s
    let (t, answers) := t.run rest
    (t, answer :: answers)

/-! ## What is known afterwards -/

/-- The log, the oldest entry first. -/
def log (t : PoolTrial) : List Pool.Entry := t.pool.shared.log.reverse

def analyzed (t : PoolTrial) : List Exchange :=
  t.log.filterMap fun
    | .analyzed e => some e
    | _ => none

def replies (t : PoolTrial) : List Reply :=
  t.log.filterMap fun
    | .replayed _ _ reply => some reply
    | _ => none

/-- The lengths of the queue that were published. -/
def depths (t : PoolTrial) : List Nat :=
  t.log.filterMap fun
    | .depth n => some n
    | _ => none

end PoolTrial
end HttpReplay.Simulation
