import SignalBoard.Wire

/-!
# Why an edit is refused
-/

namespace SignalBoard

set_option autoImplicit false

inductive Fault
  /-- A perceptron was given weights, but not one for each input. -/
  | weightCount (expected actual : Nat)
  | unknownNode (id : NodeId)
  /-- A wire cannot start at a node without output. -/
  | noOutput (id : NodeId)
  /-- A wire cannot end in an input that does not exist. -/
  | noInput (socket : Socket)
  deriving DecidableEq

def Fault.message : Fault → String
  | weightCount expected actual => s!"initial weights length ({actual}) != num_inputs ({expected})"
  | unknownNode id => s!"no entity with id {id.label}"
  | noOutput id => s!"entity {id.label} has no output port"
  | noInput socket => s!"entity {socket.node.label} has no input port {socket.index}"

end SignalBoard
