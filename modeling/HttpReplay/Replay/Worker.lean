import HttpReplay.Client.Basic
import HttpReplay.Http.Framing
import HttpReplay.Payload.Header
import HttpReplay.Replay.Counters
import HttpReplay.Replay.Exchange
import HttpReplay.Replay.Settings

/-!
One worker of a pool, as a machine that shares a state with the others.

A worker waits for a payload, replays it, hands the response on and waits again; now and then it
leaves. `Worker.step` is cut so finely that each step looks at the shared state or changes it at
most once. Any interleaving of the workers' steps is therefore a run of the machine, and there is no
interleaving that it leaves out: a worker that has found too many others idle and its attempt to
leave are separate steps, and that attempt looks at the counters, then tries to replace what it
saw, and looks again if that has changed.

Which worker moves, and when a wait ends for lack of work, is not decided here: time is whatever
picks the events.
-/

set_option autoImplicit false

namespace HttpReplay

/-- A response that waits to be read back, under the correlation id of its request. -/
structure TrackedResponse where
  id : Bytes
  response : Bytes
  roundTrip : Duration
  deriving DecidableEq, Repr

namespace TrackedResponse

/-- The payload that is read back at a certain time. -/
def payload (r : TrackedResponse) (now : Moment) : Bytes :=
  Payload.encode ⟨.replayedResponse, r.id, now.stamp, some (Int64.ofNat r.roundTrip)⟩ r.response

end TrackedResponse

namespace Pool

/-- Whether a worker that has taken a payload replays it: the header reads back and the message is
a request. -/
def isServable (payload : Bytes) : Bool :=
  (Payload.Header.decode? payload).isSome && Http.isRequest (Payload.message payload)

/-- Whether a payload that is written is going to be replayed. -/
def isReplayable (payload : Bytes) : Bool := Payload.isRequest payload && isServable payload

/-- What happened in a pool, as far as anybody outside can tell. -/
inductive Entry where
  /-- A payload was put into the queue. -/
  | accepted (payload : Bytes)
  /-- The length of the queue was published. -/
  | depth (length : Nat)
  /-- A writer found the queue longer than the number of workers and asked for that many. -/
  | asked (length : Nat)
  /-- The coordinator took a request for workers. -/
  | resized (requested : Nat)
  /-- A worker took a payload to use one of its clients for it. -/
  | taken (worker client : Nat) (payload : Bytes)
  /-- A worker replayed a payload. -/
  | replayed (worker : Nat) (payload : Bytes) (reply : Reply)
  /-- An exchange was analysed. -/
  | analyzed (exchange : Exchange)
  /-- A response was handed over to be read back. -/
  | tracked (response : TrackedResponse)
  /-- A response was read back. -/
  | readBack (response : TrackedResponse)
  deriving DecidableEq, Repr

/-- What the workers of a pool share. -/
structure Shared where
  /-- The payloads that wait, the oldest first. -/
  queue : List Bytes
  /-- The workers that wait for a turn at the queue. Only the first may take a payload. -/
  line : List Nat
  /-- The responses that wait to be read back, the oldest first. -/
  responses : List TrackedResponse
  /-- The request for workers that the coordinator has not taken yet. -/
  resize : Option Nat
  /-- The counters. -/
  counters : Counters
  /-- Whether everything has been told to stop. -/
  stopped : Bool
  /-- Whether whoever writes to the pool and reads from it is still there. -/
  held : Bool
  /-- What has happened, the latest first. -/
  log : List Entry
  deriving DecidableEq, Repr

namespace Shared

def noting (s : Shared) (e : Entry) : Shared := { s with log := e :: s.log }

/-- Asks for workers. A request that has not been taken absorbs this one. -/
def ask (s : Shared) (requested : Nat) : Shared :=
  { s with resize := some (s.resize.getD requested) }

/-- The state after a worker left the line. -/
def leaveLine (s : Shared) (k : Nat) : Shared := { s with line := s.line.erase k }

end Shared
end Pool

open Pool (Shared Entry)

namespace Worker

/-- How a wait ended. -/
inductive Wake where
  | payload (data : Bytes)
  | timedOut
  | stopped
  deriving DecidableEq, Repr

/-- Why a worker wants to leave. -/
inductive Motive where
  /-- It has used its client often enough. -/
  | recycled
  /-- It has had nothing to do for long. -/
  | unused
  /-- Too many others wait. -/
  | surplus
  deriving DecidableEq, Repr

/-- What a worker is about to do, or in the middle of. -/
inductive Phase where
  /-- It is about to wait. -/
  | resting
  /-- It waits, and counts as idle. -/
  | waiting
  /-- Its wait is over, but it still counts as idle. -/
  | woken (wake : Wake)
  /-- It has a payload to look at. -/
  | holding (payload : Bytes)
  /-- It has sent a request and waits for the response. -/
  | replaying (payload : Bytes)
  /-- It has a response to hand over. -/
  | handingOver (response : TrackedResponse)
  /-- It is done with a payload. -/
  | served
  /-- It wants to leave, and is about to look at the counters. -/
  | retiring (why : Motive)
  /-- It may leave if the counters still are what it saw. -/
  | swapping (why : Motive) (seen : UInt64)
  /-- It is about to see whether too many others wait. -/
  | checking
  /-- It has left, and is about to let the coordinator know. -/
  | reporting
  /-- It has to stop, and is about to give back its slot. -/
  | stopping
  /-- It is no more. -/
  | gone
  deriving DecidableEq, Repr

/-- What may happen to a worker. -/
inductive Event where
  /-- It goes on, in a phase in which nothing else can happen to it. -/
  | proceed
  /-- It lines up for the queue. -/
  | lineUp
  /-- It takes a payload. -/
  | take
  /-- Its wait has taken long enough. -/
  | expire
  /-- It finds that it has to stop, or that nothing more will come. -/
  | stop
  /-- Its client is answered, and is left in some state. -/
  | replied (client : Client) (reply : Reply) (started stopped : Moment) (roundTrip : Duration)
  /-- It hands over a response. -/
  | deliver
  /-- It cannot hand over a response any more. -/
  | giveUp
  /-- It replaces the counters that it saw. -/
  | swap
  /-- It finds other counters than it saw, or believes so. -/
  | reload
  deriving DecidableEq, Repr

/-- After how many waits in a row without work a worker wants to leave. -/
def maxEmptyWaits : Nat := 20

end Worker

structure Worker where
  /-- What it is doing. -/
  phase : Worker.Phase
  /-- Its client. -/
  client : Client
  /-- How many clients it had before this one. -/
  rotations : Nat
  /-- How many payloads it has taken with this client. -/
  handled : Nat
  /-- How many waits in a row were without work. -/
  emptyWaits : Nat
  deriving DecidableEq, Repr

namespace Worker

def fresh (s : Pool.Settings) (target : Target) : Worker where
  phase := .resting
  client := Client.create target s.client
  rotations := 0
  handled := 0
  emptyWaits := 0

def goTo (w : Worker) (phase : Phase) : Worker := { w with phase }

/-- The worker with a new client. -/
def rotate (s : Pool.Settings) (target : Target) (w : Worker) : Worker :=
  { w with client := Client.create target s.client, rotations := w.rotations + 1, handled := 0 }

/-- What a worker does that must not leave. -/
def stay (s : Pool.Settings) (target : Target) (w : Worker) : Motive → Worker
  | .recycled => (w.rotate s target).goTo .checking
  | .unused => { w with emptyWaits := 0, phase := .checking }
  | .surplus => w.goTo .resting

def leave (w : Worker) : Motive → Worker
  | .recycled | .surplus => w.goTo .reporting
  | .unused => w.goTo .gone

/-- What a worker makes of the counters when it wants to leave. -/
def consider (s : Pool.Settings) (target : Target) (w : Worker) (why : Motive) (word : UInt64) :
    Worker :=
  if Counters.mayRetire word then w.goTo (.swapping why word) else w.stay s target why

/-- A worker whose wait is over, having stopped counting as idle. -/
def afterWait (s : Pool.Settings) (w : Worker) : Wake → Worker
  | .payload data => { w with emptyWaits := 0, phase := .holding data }
  | .stopped => w.goTo .stopping
  | .timedOut =>
    if s.isDynamic && s.idleWorkers == 0 then
      if maxEmptyWaits < w.emptyWaits + 1 then
        { w with emptyWaits := w.emptyWaits + 1, phase := .retiring .unused }
      else { w with emptyWaits := w.emptyWaits + 1, phase := .checking }
    else w.goTo .checking

def afterPayload (s : Pool.Settings) (target : Target) (w : Worker) : Worker :=
  let w := { w with handled := w.handled + 1 }
  if 0 < s.recycle && s.recycle ≤ w.handled then
    if s.isDynamic then w.goTo (.retiring .recycled)
    else (w.rotate s target).goTo .checking
  else w.goTo .checking

/-- A worker whose client was answered: it notes the exchange and hands the response over if
responses are tracked. -/
def afterReply (s : Pool.Settings) (k : Nat) (payload : Bytes) (client : Client) (reply : Reply)
    (started stopped : Moment) (roundTrip : Duration) (shared : Shared) (w : Worker) :
    Shared × Worker :=
  let shared := shared.noting (.replayed k payload reply)
  let exchange : Exchange := ⟨Payload.message payload, reply.response, started, stopped⟩
  let shared := if s.analytics then shared.noting (.analyzed exchange) else shared
  let w := { w with client }
  match s.trackResponses, Payload.Header.decode? payload with
  | true, some header => (shared, w.goTo (.handingOver ⟨header.id, reply.response, roundTrip⟩))
  | _, _ => (shared, w.goTo .served)

/-- Going on in a phase in which nothing else can happen. -/
def proceed (s : Pool.Settings) (target : Target) (shared : Shared) (w : Worker) :
    Option (Shared × Worker) :=
  match w.phase with
  | .resting =>
    some ({ shared with counters := shared.counters.enterIdle }, w.goTo .waiting)
  | .woken wake =>
    some ({ shared with counters := shared.counters.leaveIdle }, w.afterWait s wake)
  | .holding payload =>
    some (shared, w.goTo (if Pool.isServable payload then .replaying payload else .served))
  | .served => some (shared, w.afterPayload s target)
  | .retiring why => some (shared, w.consider s target why shared.counters.word)
  | .checking =>
    some (shared, w.goTo
      (if s.isDynamic && 0 < s.idleWorkers && s.idleCeiling < shared.counters.idle then
        .retiring .surplus else .resting))
  | .reporting => some (shared.ask 0, w.goTo .gone)
  | .stopping => some ({ shared with counters := shared.counters.retire }, w.goTo .gone)
  | .waiting | .replaying _ | .handingOver _ | .swapping _ _ | .gone => none

/-- **One step of worker `k`.** There is none where the event cannot happen. -/
def step (s : Pool.Settings) (target : Target) (k : Nat) (shared : Shared) (w : Worker) :
    Event → Option (Shared × Worker)
  | .proceed => w.proceed s target shared
  | .lineUp =>
    if w.phase = .waiting ∧ k ∉ shared.line then
      some ({ shared with line := shared.line ++ [k] }, w)
    else none
  | .take =>
    match w.phase, shared.line, shared.queue with
    | .waiting, first :: line, payload :: queue =>
      if first = k then
        some ({ shared with queue, line }.noting (.taken k w.rotations payload),
          w.goTo (.woken (.payload payload)))
      else none
    | _, _, _ => none
  | .expire =>
    if w.phase = .waiting then some (shared.leaveLine k, w.goTo (.woken .timedOut)) else none
  | .stop =>
    if w.phase = .waiting ∧
        (shared.stopped ∨ (¬ shared.held ∧ shared.queue = [] ∧ shared.line.head? = some k)) then
      some (shared.leaveLine k, w.goTo (.woken .stopped))
    else none
  | .replied client reply started stopped roundTrip =>
    match w.phase with
    | .replaying payload =>
      some (w.afterReply s k payload client reply started stopped roundTrip shared)
    | _ => none
  | .deliver =>
    match w.phase with
    | .handingOver response =>
      if shared.held ∧ shared.responses.length < s.responseRoom then
        let shared := { shared with responses := shared.responses ++ [response] }
        some (shared.noting (.tracked response), w.goTo .served)
      else none
    | _ => none
  | .giveUp =>
    match w.phase with
    | .handingOver _ =>
      if shared.stopped ∨ ¬ shared.held then some (shared, w.goTo .served) else none
    | _ => none
  | .swap =>
    match w.phase with
    | .swapping why seen =>
      if shared.counters.word = seen then
        some ({ shared with counters := shared.counters.retire }, w.leave why)
      else none
    | _ => none
  | .reload =>
    match w.phase with
    | .swapping why _ => some (shared, w.consider s target why shared.counters.word)
    | _ => none

end Worker
end HttpReplay
