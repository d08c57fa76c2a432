import SignalBoard.Node.Kind

/-!
# Lights

A light shows the signal of the node wired to its one input.
-/

namespace SignalBoard

set_option autoImplicit false

structure Light where
  slot : Option NodeId
  /-- What was read when the light was last refreshed. -/
  lit : Bool
  deriving DecidableEq

namespace Light

def radius : Float32 := 20

def initial : Light := ⟨none, false⟩

/-- Refreshes the light from the signal of its source; an unwired light stays dark. -/
def refresh (l : Light) (reading : Option Bool) : Light :=
  { l with lit := l.slot.isSome && reading.getD false }

end Light

end SignalBoard
