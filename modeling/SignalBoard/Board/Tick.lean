import SignalBoard.Board

/-!
# Ticks

A tick evaluates a board once, in two passes over the nodes in the order of creation.

* `fireAt` is a node's turn in the first pass.  It evaluates a perceptron on the signals as they
  stand then: a source created earlier has been evaluated in this tick already, any other source,
  itself included, still shows the signal of the tick before.
* `shineAt` is its turn in the second pass, which refreshes a light.

Both are a `turn`, and both count what they visit.  The passes are bounded by the number of nodes
whatever the wiring, cycles included.
-/

namespace SignalBoard

set_option autoImplicit false

namespace Node

def fire (read : NodeId → Bool) (n : Node) : Node := n.mapDevice (Device.fire read)

def shine (read : NodeId → Bool) (n : Node) : Node := n.mapDevice (Device.shine read)

end Node

structure TickReport where
  perceptrons : Nat
  lights : Nat
  /-- The perceptrons whose number of weights was put right. -/
  repaired : Nat
  deriving DecidableEq

namespace TickReport

def zero : TickReport := ⟨0, 0, 0⟩

def addPerceptron (r : TickReport) (p : Perceptron) : TickReport :=
  { r with
    perceptrons := r.perceptrons + 1
    repaired := r.repaired + p.needsRepair.toNat }

def addLight (r : TickReport) (_ : Light) : TickReport := { r with lights := r.lights + 1 }

end TickReport

/-! ## The two passes -/

/-- The turn of node `id`: a device that `view` finds is changed by `step` on the signals as they
stand, counted and reported. -/
def turn {α : Type} (view : Device → Option α) (step : (NodeId → Bool) → Node → Node)
    (count : TickReport → α → TickReport) (notices : α → List Notice)
    (o : Outcome (List Node) TickReport) (id : NodeId) : Outcome (List Node) TickReport :=
  match o.state[id]?.bind fun n => view n.device with
  | none => o
  | some found =>
    ⟨o.state.modify id (step (signalOf o.state)), count o.answer found, o.notices ++ notices found⟩

def fireAt : Outcome (List Node) TickReport → NodeId → Outcome (List Node) TickReport :=
  turn Device.perceptron? Node.fire TickReport.addPerceptron Perceptron.repairNotices

def shineAt : Outcome (List Node) TickReport → NodeId → Outcome (List Node) TickReport :=
  turn Device.light? Node.shine TickReport.addLight fun _ => []

/-- Gives every node its turn, in the order of creation. -/
def pass (turn : Outcome (List Node) TickReport → NodeId → Outcome (List Node) TickReport)
    (o : Outcome (List Node) TickReport) : Outcome (List Node) TickReport :=
  (List.range o.state.length).foldl turn o

namespace Board

/-- One tick, with what it counts and reports. -/
def evaluate (b : Board) : Outcome Board TickReport :=
  (pass shineAt (pass fireAt (.quiet b.nodes .zero))).mapState fun nodes =>
    { b with nodes := nodes }

def tick (b : Board) : Board := b.evaluate.state

/-- The lights and perceptrons that the next tick visits, and the repairs it makes. -/
def tickReport (b : Board) : TickReport := b.evaluate.answer

def tickNotices (b : Board) : List Notice := b.evaluate.notices

end Board

end SignalBoard
