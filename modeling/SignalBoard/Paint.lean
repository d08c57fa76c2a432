import SignalBoard.Workbench

/-!
# Painting

The scene is a list of shapes in painting order: the background, the wires, the wire that is being
drawn, and the nodes from the bottommost up.  A node paints its body first and its pins and buttons
over it.
-/

namespace SignalBoard

set_option autoImplicit false

structure Color where
  red : UInt8
  green : UInt8
  blue : UInt8
  alpha : UInt8
  deriving DecidableEq

namespace Color

/-- A colour that hides what is under it. -/
def rgb (red green blue : UInt8) : Color := ⟨red, green, blue, 255⟩

def transparent : Color := ⟨0, 0, 0, 0⟩
def white : Color := rgb 255 255 255
def outline : Color := rgb 0 0 0
def background : Color := white

def active : Color := rgb 0 200 0

/-- The body of a switch that is off. -/
def switchOff : Color := rgb 255 0 0

/-- The body of a perceptron or a light whose signal is false. -/
def idle : Color := rgb 150 150 150

/-- The body of a light that is lit. -/
def lit : Color := rgb 200 200 0

def wire : Color := rgb 0 0 255

def pendingWire : Color := rgb 200 200 0

def button : Color := rgb 100 100 200

end Color

structure Stroke where
  width : Float32
  color : Color
  deriving DecidableEq

/-- What is painted, as far as it differs from shape to shape.  What all shapes of a kind have in
common is left out: the stroke of a rectangle lies inside its bounds, and a text is set in the
proportional font of 12 points and centred on the button that is painted right before it, so its
place on the screen is that of this button. -/
inductive Shape
  | line (start finish : Point) (stroke : Stroke)
  | circle (center : Point) (radius : Float32) (fill : Color) (stroke : Option Stroke)
  | rect (bounds : Rect) (corner : Float32) (fill : Color) (stroke : Option Stroke)
  | text (content : String) (color : Color)
  deriving DecidableEq

namespace Paint

/-! ## Parts of nodes -/

def bodyColor : Device → Color
  | .switch s => if s.on then .active else .switchOff
  | .perceptron p => if p.firing then .active else .idle
  | .light l => if l.lit then .lit else .idle

def pinFill (value : Bool) : Color := if value then .active else .white

def box (bounds : Rect) (corner : Float32) (fill outline : Color) : List Shape :=
  [.rect bounds corner fill none, .rect bounds corner .transparent (some ⟨1, outline⟩)]

/-- The marker of a pin: a ring around a disc that shows the signal. -/
def marker (pin : Pin) (value : Bool) : List Shape :=
  [.circle pin.position pin.radius .outline none,
    .circle pin.position (pin.radius - 2) (pinFill value) none]

def outputMarker (pins : Pins) (value : Bool) : List Shape :=
  pins.output.toList.flatMap fun pin => marker pin value

/-- The square body of a switch or a perceptron. -/
def body (n : Node) : List Shape := box n.bounds 0 (bodyColor n.device) .outline

def button (bounds : Rect) (label : String) : List Shape :=
  box bounds 2 .button .white ++ [.text label .white]

/-! ## Nodes -/

def switch (n : Node) (s : Switch) : List Shape :=
  body n ++ box (Switch.toggleRect n.bounds) 0 .outline .white ++ outputMarker n.pins s.on

/-- The markers of a perceptron's inputs, each with the value last read. -/
def inputMarkers (n : Node) (p : Perceptron) : List Shape :=
  n.pins.inputs.flatMap fun pin => marker pin (p.values[pin.index]?.getD false)

def perceptron (n : Node) (p : Perceptron) : List Shape :=
  body n ++ inputMarkers n p ++ outputMarker n.pins p.firing ++
    button (Perceptron.growRect n.bounds) "+" ++ button (Perceptron.shrinkRect n.bounds) "-"

def light (n : Node) (l : Light) : List Shape :=
  [.circle n.bounds.center Light.radius (bodyColor n.device) none,
    .circle n.bounds.center Light.radius .transparent (some ⟨1, .outline⟩)] ++
    (n.pins.input? 0).toList.flatMap fun pin => marker pin l.lit

def node (n : Node) : List Shape :=
  match n.device with
  | .switch s => switch n s
  | .perceptron p => perceptron n p
  | .light l => light n l

/-! ## The scene -/

/-- A clean area. -/
def ground (area : Rect) : Shape := .rect area 0 .background none

/-- A line for each wire of the table, in its order. -/
def wires (b : Board) : List Shape :=
  b.segments.map fun (start, finish) => .line start finish ⟨2, .wire⟩

def pendingWire (w : Workbench) : List Shape :=
  w.pendingWire?.toList.map fun (start, finish) => .line start finish ⟨2, .pendingWire⟩

/-- All that is to be seen of a workbench within `area`. -/
def scene (area : Rect) (w : Workbench) : List Shape :=
  ground area :: (wires w.board ++ pendingWire w ++ w.board.nodes.flatMap node)

end Paint

end SignalBoard
