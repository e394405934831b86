/-!
Numbers that tell connections apart in what is logged of them.
-/

set_option autoImplicit false

namespace HttpReplay.Net

structure ConnectionId where
  number : Nat
  deriving DecidableEq, Repr

namespace ConnectionId

def first : ConnectionId := ⟨1⟩

def next (id : ConnectionId) : ConnectionId := ⟨id.number + 1⟩

def text (id : ConnectionId) : String := "conn-" ++ toString id.number

end ConnectionId
end HttpReplay.Net
