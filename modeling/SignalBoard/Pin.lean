import SignalBoard.Geometry
import SignalBoard.Node.Kind

/-!
# Pins

A pin is the place on the canvas where a wire meets a node.  It reacts to the pointer within the
square around its centre whose half side is the radius of its marker.
-/

namespace SignalBoard

set_option autoImplicit false

inductive Side
  | input
  | output
  deriving DecidableEq

structure Pin where
  owner : NodeId
  side : Side
  index : Nat
  position : Point
  radius : Float32
  deriving DecidableEq

namespace Pin

def inputRadius : Float32 := 5

def outputRadius : Float32 := 6

def hitRect (p : Pin) : Rect := .ofCenterSize p.position (.square (p.radius * 2))

def contains (p : Pin) (point : Point) : Bool := p.hitRect.contains point

end Pin

/-- The pins of a node: one for each input, and one for the output of a node that has one. -/
structure Pins where
  inputs : List Pin
  output : Option Pin
  deriving DecidableEq

namespace Pins

def input? (pins : Pins) (index : Nat) : Option Pin := pins.inputs[index]?

/-- The first input whose pin reacts at `point`. -/
def inputAt? (pins : Pins) (point : Point) : Option Nat :=
  pins.inputs.findIdx? fun p => p.contains point

def outputContains (pins : Pins) (point : Point) : Bool :=
  pins.output.any fun p => p.contains point

end Pins

end SignalBoard
