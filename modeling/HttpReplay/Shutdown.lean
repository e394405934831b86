/-!
Telling everything to stop.

A signal can be listened to by any number of tasks, and one that begins to listen late still learns
of it. Whoever gives the signal may also just go away, which tells those who listen to stop as well.
-/

set_option autoImplicit false

namespace HttpReplay

/-- A shutdown signal and those who listen to it. -/
structure Shutdown where
  /-- Whether the signal has been given. -/
  triggered : Bool
  /-- Whether whoever gives the signal is still there. -/
  held : Bool
  /-- For each listener there has ever been, whether it still listens. -/
  listeners : List Bool
  deriving DecidableEq, Repr

namespace Shutdown

/-- A new signal, which nobody listens to. -/
def create : Shutdown := ⟨false, true, []⟩

/-- Gives the signal, while there is somebody to give it. -/
def trigger (s : Shutdown) : Shutdown := { s with triggered := s.triggered || s.held }

/-- One more listener. There is nothing to listen to once the giver has gone. -/
def subscribe (s : Shutdown) : Shutdown := { s with listeners := s.listeners ++ [s.held] }

/-- Whether listener `i` still listens. -/
def isListening (s : Shutdown) (i : Nat) : Bool := s.listeners[i]?.getD false

/-- One more listener, if `i` is one. -/
def clone (s : Shutdown) (i : Nat) : Shutdown :=
  { s with listeners := s.listeners ++ [s.isListening i] }

/-- Listener `i` goes away. -/
def unsubscribe (s : Shutdown) (i : Nat) : Shutdown :=
  { s with listeners := s.listeners.set i false }

/-- The giver goes away. -/
def release (s : Shutdown) : Shutdown := { s with held := false }

/-- Whether a listener need not wait any longer. -/
def resolves (s : Shutdown) : Bool := s.triggered || !s.held

def listenerCount (s : Shutdown) : Nat := s.listeners.count true

end Shutdown
end HttpReplay
