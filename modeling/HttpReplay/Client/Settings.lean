import HttpReplay.Time.Duration

/-!
How a client behaves.
-/

set_option autoImplicit false

namespace HttpReplay.Client

structure Settings where
  /-- How many redirects one request may be led through. -/
  redirectLimit : Nat
  /-- Whether requests keep the Host field that they were captured with. -/
  originalHost : Bool
  /-- How long connecting may take; zero stands for `timeout`. -/
  connectTimeout : Duration
  /-- How long writing a request and reading its response may take together. -/
  timeout : Duration
  /-- The capacity of the response buffer. -/
  capacity : Nat
  deriving DecidableEq, Repr

namespace Settings

/-- The limit of clients that are given none. -/
def defaultTimeout : Duration := 5 * Duration.second

/-- The capacity of clients that are given none. -/
def defaultCapacity : Nat := 100 * 1024

/-- The settings with the defaults in place of a zero limit and of a zero capacity. -/
def completed (s : Settings) : Settings :=
  { s with
    timeout := if s.timeout = 0 then defaultTimeout else s.timeout
    capacity := if s.capacity = 0 then defaultCapacity else s.capacity }

/-- How long connecting may take. -/
def dialLimit (s : Settings) : Duration :=
  if s.connectTimeout = 0 then s.timeout else s.connectTimeout

end Settings
end HttpReplay.Client
