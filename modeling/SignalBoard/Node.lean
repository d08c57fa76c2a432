import SignalBoard.Device
import SignalBoard.Geometry.Floor
import SignalBoard.Pin

/-!
# Nodes

A node is a device with a body on the canvas.  Its pins are laid out from its bounds and the number
of its inputs (`Node.layout`): inputs on the left edge, evenly spaced and moved down to whole steps
below the top edge, the output in the middle of the right edge.  A node remembers the layout it was
last given, and `Node.refresh` brings it up to date.
-/

namespace SignalBoard

set_option autoImplicit false

structure Node where
  id : NodeId
  bounds : Rect
  device : Device
  /-- The pins as they were last laid out. -/
  pins : Pins
  deriving DecidableEq

namespace Node

/-! ## Layout of the pins -/

/-- Where the inputs of a device lie on the left edge of its body. -/
def inputPositions (bounds : Rect) : Device → List Point
  | .switch _ => []
  | .perceptron p =>
    let spacing := bounds.height / Float32.ofNat (p.inputCount + 1)
    (List.range p.inputCount).map fun i =>
      ⟨bounds.left - Pin.inputRadius, bounds.top + floor (spacing * Float32.ofNat (i + 1))⟩
  | .light _ => [⟨bounds.left - Pin.inputRadius, bounds.center.y⟩]

def outputPosition (bounds : Rect) : Point := ⟨bounds.right + Pin.outputRadius, bounds.center.y⟩

def layout (id : NodeId) (bounds : Rect) (device : Device) : Pins where
  inputs := (inputPositions bounds device).mapIdx fun i position =>
    ⟨id, .input, i, position, Pin.inputRadius⟩
  output :=
    if device.hasOutput then some ⟨id, .output, 0, outputPosition bounds, Pin.outputRadius⟩
    else none

def make (id : NodeId) (bounds : Rect) (device : Device) : Node :=
  ⟨id, bounds, device, layout id bounds device⟩

def refresh (n : Node) : Node := { n with pins := layout n.id n.bounds n.device }

/-- The node with its top left corner at `corner`; its size is that of its corners before. -/
def moveTo (n : Node) (corner : Point) : Node :=
  { n with bounds := .ofMinSize corner n.bounds.size }.refresh

def grip (n : Node) (point : Point) : Offset := point - n.bounds.min

/-- The node with its device changed and its pins as they were. -/
def mapDevice (f : Device → Device) (n : Node) : Node := { n with device := f n.device }

def output? (n : Node) : Option Bool := n.device.output?

/-! ## Regions -/

inductive Region
  | grow
  | shrink
  | output
  | input (index : Nat)
  | toggle
  | body
  deriving DecidableEq

/-- The count button at `point`; only perceptrons have any. -/
def buttonAt? (n : Node) (point : Point) : Option Region :=
  match n.device with
  | .perceptron _ =>
    if (Perceptron.growRect n.bounds).contains point then some .grow
    else if (Perceptron.shrinkRect n.bounds).contains point then some .shrink
    else none
  | _ => none

/-- The pin at `point`, the output before the inputs. -/
def pinAt? (n : Node) (point : Point) : Option Region :=
  if n.pins.outputContains point then some .output
  else (n.pins.inputAt? point).map .input

/-- The toggle area at `point`; only switches have one. -/
def toggleAt? (n : Node) (point : Point) : Option Region :=
  match n.device with
  | .switch _ => if (Switch.toggleRect n.bounds).contains point then some .toggle else none
  | _ => none

/-- The region at `point`: buttons lie over pins, pins over the toggle area, and all of them over
the body. -/
def regionAt? (n : Node) (point : Point) : Option Region :=
  n.buttonAt? point <|> n.pinAt? point <|> n.toggleAt? point <|>
    if n.bounds.contains point then some .body else none

end Node

end SignalBoard
