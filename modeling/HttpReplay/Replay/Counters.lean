/-!
The two counts of a pool of workers in one word.

The upper half of the word counts the workers that hold a slot, the lower half those of them that
wait for work, so that one atomic operation changes either and one look sees both. All arithmetic
is that of the word: that no carry ever crosses the halves is not built in but follows from how
workers use the counters.
-/

set_option autoImplicit false

namespace HttpReplay

structure Counters where
  word : UInt64
  /-- How many workers there have ever been. -/
  spawned : Nat
  deriving DecidableEq, Repr

namespace Counters

/-- The counters of a pool without workers. -/
def zero : Counters := ⟨0, 0⟩

/-- One worker in the upper half. -/
def oneActive : UInt64 := 0x100000000

/-- The upper half of a word. -/
def activeOf (word : UInt64) : Nat := (word >>> 32).toNat

/-- The lower half of a word. -/
def idleOf (word : UInt64) : Nat := (word &&& 0xFFFFFFFF).toNat

/-- How many workers hold a slot. -/
def active (c : Counters) : Nat := activeOf c.word

/-- How many workers wait for work. -/
def idle (c : Counters) : Nat := idleOf c.word

/-- Gives a slot to a new worker, whose number is then `spawned`. -/
def register (c : Counters) : Counters := ⟨c.word + oneActive, c.spawned + 1⟩

/-- A worker begins to wait. -/
def enterIdle (c : Counters) : Counters := { c with word := c.word + 1 }

/-- A worker waits no longer. -/
def leaveIdle (c : Counters) : Counters := { c with word := c.word - 1 }

/-- A worker gives back its slot. -/
def retire (c : Counters) : Counters := { c with word := c.word - oneActive }

/-- Whether a worker that sees this word may give back its slot of its own accord: the last one may
not. -/
def mayRetire (word : UInt64) : Bool := 1 < activeOf word

/-- A worker gives back its slot unless it is the last. -/
def tryRetire (c : Counters) : Option Counters := if mayRetire c.word then some c.retire else none

end Counters
end HttpReplay
