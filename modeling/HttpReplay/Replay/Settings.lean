import HttpReplay.Client.Settings
import HttpReplay.Text.Numeral

/-!
How a pool replays.

A pool whose number of workers is given keeps that number. Otherwise it is dynamic: with an idle
floor it tries to keep that many workers waiting, without one it grows with its backlog and lets go
of workers that have nothing to do.

The idle floor is multiplied in machine words, and what becomes of a product that does not fit
depends on how the program was built (`Arithmetic`). Pools are told here with products that wrap.
That covers both kinds of programs: three times the floor is the largest product and the first,
formed before a worker is started, so a program that checks its products either opens no pool
(`Settings.opens`) or never meets one in it that does not fit.
-/

set_option autoImplicit false

namespace HttpReplay

/-- What becomes of a product of machine words that does not fit into one. -/
inductive Arithmetic where
  /-- The program breaks off. -/
  | checked
  /-- What is over is dropped. -/
  | wrapping
  deriving DecidableEq, Repr

namespace Pool

structure Settings where
  /-- How many redirects a request may be led through. -/
  redirectLimit : Nat := 0
  /-- Whether to log more. -/
  debug : Bool := false
  /-- Whether requests keep the Host field that they were captured with. -/
  originalHost : Bool := false
  /-- How long connecting may take; zero stands for the other limit. -/
  connectTimeoutMillis : Nat := 0
  /-- How long a request may take. -/
  timeoutMillis : Nat := 5000
  /-- The capacity of each client's response buffer. -/
  responseBufferSize : Nat := 102400
  /-- The number of workers; zero makes the pool dynamic. -/
  workers : Nat := 0
  /-- The idle floor of a dynamic pool; zero stands for none. -/
  idleWorkers : Nat := 0
  /-- After how many payloads a worker is done with its client; zero stands for never. -/
  recycle : Nat := 0
  /-- Whether responses can be read back. -/
  trackResponses : Bool := false
  /-- How many payloads may wait to be replayed. -/
  queueCapacity : Nat := 1000
  /-- How many responses may wait to be read back. -/
  responseCapacity : Nat := 1000
  /-- Whether the length of the queue is published. -/
  stats : Bool := false
  /-- Whether exchanges are analysed. -/
  analytics : Bool := false
  deriving DecidableEq, Repr

namespace Settings

/-- Whether the number of workers may change. -/
def isDynamic (s : Settings) : Bool := s.workers == 0

def client (s : Settings) : Client.Settings where
  redirectLimit := s.redirectLimit
  originalHost := s.originalHost
  connectTimeout := Duration.ofMillis s.connectTimeoutMillis
  timeout := Duration.ofMillis s.timeoutMillis
  capacity := s.responseBufferSize

/-- How many payloads the queue holds. -/
def queueRoom (s : Settings) : Nat := max s.queueCapacity 1

def responseRoom (s : Settings) : Nat := max s.responseCapacity 1

/-- How many workers a pool with an idle floor aims at: half as many again. The product is that of a
machine word. -/
def idleAim (s : Settings) : Nat := s.idleWorkers * 3 % (Numeral.maxSize + 1) / 2

/-- More idle workers than this are too many. The product is that of a machine word. -/
def idleCeiling (s : Settings) : Nat := s.idleWorkers * 2 % (Numeral.maxSize + 1)

/-- How many workers to start when `requested` are asked for and `idle` are waiting. -/
def growth (s : Settings) (requested idle : Nat) : Nat :=
  if s.idleWorkers = 0 then requested
  else if s.idleWorkers ≤ idle then 0
  else max requested (s.idleAim - idle)

/-- How many workers a dynamic pool without an idle floor starts with. -/
def defaultStart : Nat := 10

/-- How many workers a pool starts with. -/
def initialWorkers (s : Settings) : Nat :=
  if !s.isDynamic then s.workers
  else if s.idleWorkers = 0 then defaultStart
  else s.growth s.idleAim 0

/-- Whether a pool can be opened. Programs that check their products break off over an idle floor
that is too large, unless the number of workers is given and the floor is not looked at. -/
def opens (s : Settings) : Arithmetic → Bool
  | .checked => !s.isDynamic || s.idleWorkers * 3 ≤ Numeral.maxSize
  | .wrapping => true

end Settings
end Pool
end HttpReplay
