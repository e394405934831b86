import HttpReplay.Client.Task
import HttpReplay.Http.Framing
import HttpReplay.Time.Duration

/-!
Reading one response into a bounded buffer.

The loop ends for one of six reasons, and the reason decides whether the connection can be used
again. A full buffer ends it even where the response would fit exactly, because a full buffer
cannot tell whether more is coming. After `trailingThreshold` bytes each read gets little time, so
that a peer which trickles does not hold up the client for its whole limit.

The buffer is used again and again and keeps what earlier responses left in it; only the first
bytes, up to the count the loop returns, belong to the response.
-/

set_option autoImplicit false

namespace HttpReplay

/-- Why reading stopped. -/
inductive ReadEnd where
  /-- The response is whole. -/
  | framed
  /-- The response does not say where it ends, and all that was there has been read. -/
  | drained
  /-- The buffer is full. -/
  | bufferFull
  /-- The peer ended the stream. -/
  | peerClosed
  /-- Nothing more came in time. -/
  | timedOut
  /-- Reading failed. -/
  | failed (reason : String)
  deriving DecidableEq, Repr

namespace Reading

/-- From this many bytes on, reads get little time. -/
def trailingThreshold : Nat := 4096

/-- The time that a read gets from then on. -/
def trailingLimit : Duration := Duration.ofMillis 100

/-- The buffer with `data` written over it from position `n` on. -/
def overwrite (buffer : Bytes) (n : Nat) (data : Bytes) : Bytes :=
  buffer.take n ++ data ++ buffer.drop (n + data.length)

/-- When the next read is given up. -/
def readLimit (deadline now : Instant) (n : Nat) : Instant :=
  if trailingThreshold ≤ n then min (now + trailingLimit) deadline else deadline

/-- What a finished loop returns. -/
structure Result where
  /-- The buffer. -/
  buffer : Bytes
  /-- How many of its bytes belong to the response. -/
  count : Nat
  /-- Why the loop ended. -/
  reason : ReadEnd
  deriving DecidableEq, Repr

def Result.response (r : Result) : Bytes := r.buffer.take r.count

/-- Reads on with `n` bytes in the buffer. -/
def loop (capacity : Nat) (deadline : Instant) (headRequest : Bool) (buffer : Bytes) (n : Nat) :
    Task Result :=
  .now fun now =>
  .read capacity (readLimit deadline now n) fun
    | .timedOut => .done ⟨buffer, n, .timedOut⟩
    | .failed reason => .done ⟨buffer, n, .failed reason⟩
    | .ended => .done ⟨buffer, n, .peerClosed⟩
    | .received first more =>
      let data := (first :: more).take (capacity - n)
      let buffer' := overwrite buffer n data
      if full : capacity ≤ n + data.length then .done ⟨buffer', n + data.length, .bufferFull⟩
      else
        have : capacity - (n + data.length) < capacity - n := by
          have : 0 < data.length := by
            simp only [data, List.length_take, List.length_cons]
            omega
          omega
        match Http.framing headRequest (buffer'.take (n + data.length)) with
        | .complete => .done ⟨buffer', n + data.length, .framed⟩
        | .unframed =>
          -- A read that could have brought more has brought all that was there.
          if (first :: more).length < capacity then .done ⟨buffer', n + data.length, .drained⟩
          else loop capacity deadline headRequest buffer' (n + data.length)
        | .incomplete => loop capacity deadline headRequest buffer' (n + data.length)
termination_by capacity - n

/-- **Reads one response** into a buffer of the given capacity. -/
def readResponse (capacity : Nat) (deadline : Instant) (headRequest : Bool) (buffer : Bytes) :
    Task Result :=
  loop capacity deadline headRequest buffer 0

end Reading
end HttpReplay
