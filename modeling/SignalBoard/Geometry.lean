/-!
# Points and rectangles of the canvas

Coordinates are binary32 numbers, `x` to the right and `y` downwards.  A `Rect` is its two corners
and is never normalised: nothing asks `min` to lie above and to the left of `max`, and the size is
the difference of the corners as they were rounded.  `Rect.contains` includes all four edges and is
false as soon as a `NaN` takes part.
-/

namespace SignalBoard

set_option autoImplicit false

structure Point where
  x : Float32
  y : Float32
  deriving DecidableEq

/-- A displacement, or the size of a rectangle. -/
structure Offset where
  dx : Float32
  dy : Float32
  deriving DecidableEq

def Offset.square (side : Float32) : Offset := ⟨side, side⟩

def Offset.half (v : Offset) : Offset := ⟨v.dx * 0.5, v.dy * 0.5⟩

instance : HAdd Point Offset Point := ⟨fun p v => ⟨p.x + v.dx, p.y + v.dy⟩⟩
instance : HSub Point Offset Point := ⟨fun p v => ⟨p.x - v.dx, p.y - v.dy⟩⟩
instance : HSub Point Point Offset := ⟨fun p q => ⟨p.x - q.x, p.y - q.y⟩⟩

/-- A rectangle given by two opposite corners. -/
structure Rect where
  min : Point
  max : Point
  deriving DecidableEq

namespace Rect

/-- The rectangle of the given size whose `min` corner is `corner`. -/
def ofMinSize (corner : Point) (size : Offset) : Rect := ⟨corner, corner + size⟩

def ofCenterSize (center : Point) (size : Offset) : Rect :=
  ⟨center - size.half, center + size.half⟩

def left (r : Rect) : Float32 := r.min.x
def top (r : Rect) : Float32 := r.min.y
def right (r : Rect) : Float32 := r.max.x

def size (r : Rect) : Offset := r.max - r.min

def height (r : Rect) : Float32 := r.max.y - r.min.y

def center (r : Rect) : Point := ⟨(r.min.x + r.max.x) / 2, (r.min.y + r.max.y) / 2⟩

/-- The rectangle with both corners moved inwards by `margin` along both axes. -/
def inset (r : Rect) (margin : Float32) : Rect :=
  ⟨r.min + Offset.square margin, r.max - Offset.square margin⟩

/-- Whether `p` lies between the corners, edges included. -/
def contains (r : Rect) (p : Point) : Bool :=
  r.min.x ≤ p.x && p.x ≤ r.max.x && r.min.y ≤ p.y && p.y ≤ r.max.y

end Rect

end SignalBoard
