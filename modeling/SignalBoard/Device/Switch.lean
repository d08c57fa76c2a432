import SignalBoard.Geometry

/-!
# Switches

A switch is a source of one signal that is flipped by hand, at a square area inside its body.
-/

namespace SignalBoard

set_option autoImplicit false

structure Switch where
  on : Bool
  deriving DecidableEq

namespace Switch

def side : Float32 := 40

/-- How far the toggle area keeps from the edges of the body. -/
def toggleMargin : Float32 := 8

def initial : Switch := ⟨false⟩

def toggle (s : Switch) : Switch := ⟨!s.on⟩

def toggleRect (bounds : Rect) : Rect := bounds.inset toggleMargin

end Switch

end SignalBoard
