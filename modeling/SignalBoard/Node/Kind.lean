/-!
# Naming nodes

A node is named by its place in the order of creation, counted from zero, and is one of three kinds.
-/

namespace SignalBoard

set_option autoImplicit false

/-- The name of a node: its place in the order of creation. -/
abbrev NodeId := Nat

def NodeId.label (id : NodeId) : String := s!"#{id}"

inductive Kind
  | switch
  | perceptron
  | light
  deriving DecidableEq

def Kind.title : Kind → String
  | switch => "Switch"
  | perceptron => "Perceptron"
  | light => "Light"

end SignalBoard
