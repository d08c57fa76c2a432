import SignalBoard.Geometry

/-!
# Pointer events

The workbench reacts to two mouse buttons, to movement and to the wish to quit.  A host delivers
more than that; `RawEvent.toEvent?` picks out what matters.
-/

namespace SignalBoard

set_option autoImplicit false

/-- The mouse buttons that the workbench reacts to. -/
inductive Button
  | primary
  | secondary
  deriving DecidableEq

inductive Event
  | press (button : Button) (pos : Point)
  | release (button : Button) (pos : Point)
  | move (pos : Point)
  | quit
  deriving DecidableEq

/-- The mouse buttons that a host knows. -/
inductive MouseButton
  | primary
  | secondary
  | middle
  | extra1
  | extra2
  deriving DecidableEq

def MouseButton.toButton? : MouseButton → Option Button
  | primary => some .primary
  | secondary => some .secondary
  | middle | extra1 | extra2 => none

inductive RawEvent
  | moved (pos : Point)
  | button (button : MouseButton) (pos : Point) (pressed : Bool)
  | other
  deriving DecidableEq

def RawEvent.toEvent? : RawEvent → Option Event
  | moved pos => some (.move pos)
  | button b pos pressed =>
    b.toButton?.map fun b => if pressed then .press b pos else .release b pos
  | other => none

end SignalBoard
