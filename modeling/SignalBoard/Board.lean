import SignalBoard.Node

/-!
# Boards

A board is its nodes in the order of creation, which is also the order in which they lie on top of
each other, the wires between them, and the sampler that unchosen weights come from.  What is wired
to a node's inputs is recorded twice, in the node itself and in the table of wires.

`Board.outputOf` is total: an unknown node and a node without output read as false.
-/

namespace SignalBoard

set_option autoImplicit false

/-- Nodes in the order of creation, the wires between them, and the source of unchosen weights. -/
structure Board where
  nodes : List Node
  wires : WireTable
  sampler : Sampler
  deriving DecidableEq

/-- The signal of node `id` in a list of nodes; whatever has no signal reads as false. -/
def signalOf (nodes : List Node) (id : NodeId) : Bool := (nodes[id]?.bind Node.output?).getD false

namespace Board

def empty (seed : UInt64) : Board := ⟨[], .empty, .ofSeed seed⟩

def size (b : Board) : Nat := b.nodes.length

def isEmpty (b : Board) : Bool := b.nodes.isEmpty

def node? (b : Board) (id : NodeId) : Option Node := b.nodes[id]?

theorem isSome_node?_iff {b : Board} {id : NodeId} : (b.node? id).isSome ↔ id < b.size := by
  unfold node? size
  by_cases h : id < b.nodes.length
  · simp [h]
  · simp [h]

theorem lt_size_of_node? {b : Board} {id : NodeId} {n : Node} (h : b.node? id = some n) :
    id < b.size := isSome_node?_iff.1 (by rw [h]; rfl)

theorem map_node?_range (b : Board) : (List.range b.size).map b.node? = b.nodes.map some := by
  apply List.ext_getElem
  · simp [size]
  · intro i hi hi'
    have hlt : i < b.nodes.length := by simpa using hi'
    simp [node?, hlt]

def perceptron? (b : Board) (id : NodeId) : Option Perceptron :=
  (b.node? id).bind fun n => n.device.perceptron?

/-- What is wired to a socket; absent when there is no such input. -/
def slot? (b : Board) (socket : Socket) : Option (Option NodeId) :=
  (b.node? socket.node).bind fun n => n.device.slot? socket.index

def source? (b : Board) (socket : Socket) : Option NodeId := (b.slot? socket).join

def outputOf (b : Board) (id : NodeId) : Bool := signalOf b.nodes id

def modifyNode (b : Board) (id : NodeId) (f : Node → Node) : Board :=
  { b with nodes := b.nodes.modify id f }

theorem node?_modifyNode (b : Board) (id : NodeId) (f : Node → Node) (j : NodeId) :
    (b.modifyNode id f).node? j = if j = id then (b.node? j).map f else b.node? j := by
  unfold modifyNode node?
  by_cases hj : j = id
  · subst hj
    rw [if_pos rfl, List.getElem?_modify_eq]
    rfl
  · rw [if_neg hj, List.getElem?_modify_ne _ _ (Ne.symm hj)]

theorem node?_modifyNode_self {b : Board} {id : NodeId} {n : Node} (h : b.node? id = some n)
    (f : Node → Node) : (b.modifyNode id f).node? id = some (f n) := by
  rw [node?_modifyNode, if_pos rfl, h]
  rfl

/-! ## Adding nodes -/

/-- Adds a node, which takes the next free name. -/
def add (b : Board) (bounds : Rect) (device : Device) : Board :=
  { b with nodes := b.nodes ++ [Node.make b.size bounds device] }

def addSwitch (b : Board) (corner : Point) : Board :=
  b.add (.ofMinSize corner (.square Switch.side)) (.switch .initial)

def addLight (b : Board) (center : Point) : Board :=
  b.add (.ofCenterSize center (.square (Light.radius * 2))) (.light .initial)

/-- Adds a perceptron whose top left corner is `corner`, and answers with its name. -/
def addPerceptron (b : Board) (corner : Point) (inputs : Nat) (weights? : Option (List Float32))
    (bias? : Option Float32) : Outcome Board (Except Fault NodeId) :=
  let made := Perceptron.create inputs weights? bias? b.sampler
  match made.answer with
  | .error fault => ⟨b, .error fault, made.notices⟩
  | .ok unit =>
    ⟨{ b with sampler := made.state }.add
        (.ofMinSize corner ⟨Perceptron.width, Perceptron.height⟩) (.perceptron unit),
      .ok b.size, made.notices⟩

/-! ## What lies where -/

/-- The first socket in the order of creation whose pin reacts at `point`. -/
def socketAt? (b : Board) (point : Point) : Option Socket :=
  b.nodes.findSome? fun n => (n.pins.inputAt? point).map fun index => ⟨n.id, index⟩

def outputPosition? (b : Board) (id : NodeId) : Option Point :=
  (b.node? id).bind fun n => n.pins.output.map Pin.position

def socketPosition? (b : Board) (socket : Socket) : Option Point :=
  (b.node? socket.node).bind fun n => (n.pins.input? socket.index).map Pin.position

def segment? (b : Board) (w : Wire) : Option (Point × Point) :=
  match b.outputPosition? w.source, b.socketPosition? w.socket with
  | some start, some finish => some (start, finish)
  | _, _ => none

def segments (b : Board) : List (Point × Point) := b.wires.toList.filterMap b.segment?

/-! ## The starting scene -/

/-- Two switches, two perceptrons and two lights, with nothing wired. -/
def startingScene (seed : UInt64) : Outcome Board Unit :=
  let b := ((empty seed).addSwitch ⟨50, 50⟩).addSwitch ⟨50, 150⟩
  let b := (b.addPerceptron ⟨200, 100⟩ 2 none none).state
  let b := (b.addPerceptron ⟨400, 200⟩ 1 none none).state
  let b := (b.addLight ⟨600, 100⟩).addLight ⟨600, 250⟩
  ⟨b, (), [.sceneCreated b.size]⟩

end Board

end SignalBoard
