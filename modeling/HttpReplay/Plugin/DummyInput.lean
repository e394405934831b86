import HttpReplay.Payload.Generated
import HttpReplay.Time.Duration

/-!
An input that makes up one request after the other.

A payload is due one interval after the input was set up, and then one interval after the previous
one was read. An input that nobody reads for long does not catch up.
-/

set_option autoImplicit false

namespace HttpReplay

structure DummyInput where
  /-- The time between two payloads. -/
  interval : Duration
  /-- When the next payload is due. -/
  next : Instant
  deriving DecidableEq, Repr

namespace DummyInput

def request : Bytes :=
  Bytes.ofText "GET / HTTP/1.1\r\nHost: localhost\r\nUser-Agent: traffic-replay\r\n\r\n"

def create (interval : Duration) (now : Instant) : DummyInput := ⟨interval, now + interval⟩

/-- When a read that begins now has its payload. -/
def due (d : DummyInput) (now : Instant) : Instant := max now d.next

/-- The input after a payload was read from it. -/
def advance (d : DummyInput) (now : Instant) : DummyInput := { d with next := now + d.interval }

def name (interval : Duration) : String := "Dummy input: every " ++ interval.text

end DummyInput
end HttpReplay
