import SignalBoard.Board

/-!
# Changing the number of a perceptron's inputs

Inputs are added and taken away at the end.  An added input gets the next sample as its weight; an
input that goes away takes its wire with it.  The pins are laid out anew each time.
-/

namespace SignalBoard.Board

set_option autoImplicit false

/-- What became of an attempt to change the number of inputs. -/
inductive Resized
  | changed (count : Nat)
  | atLimit
  | notAPerceptron
  deriving DecidableEq

/-- The board with the device of node `id` replaced and its pins laid out anew. -/
def withDevice (b : Board) (id : NodeId) (device : Device) : Board :=
  b.modifyNode id fun n => (n.mapDevice fun _ => device).refresh

def incrementInputs (b : Board) (id : NodeId) : Outcome Board Resized :=
  match b.perceptron? id with
  | none => .quiet b .notAPerceptron
  | some p =>
    match p.grow? b.sampler with
    | none => ⟨b, .atLimit, [.inputsAtMost id Perceptron.maxInputs]⟩
    | some (grown, sampler) =>
      ⟨{ b with sampler := sampler }.withDevice id (.perceptron grown),
        .changed grown.inputCount, [.inputsGrown id grown.inputCount]⟩

def dropsWire (b : Board) (socket : Socket) (source : Option NodeId) : Bool :=
  source.isSome && (b.wires.get? socket).isSome

def decrementInputs (b : Board) (id : NodeId) : Outcome Board Resized :=
  match b.perceptron? id with
  | none => .quiet b .notAPerceptron
  | some p =>
    match p.shrink? with
    | none => ⟨b, .atLimit, [.inputsAtLeast id Perceptron.minInputs]⟩
    | some (shrunk, removed) =>
      let socket : Socket := ⟨id, removed.index⟩
      let resized := b.withDevice id (.perceptron shrunk)
      ⟨if removed.source.isSome then { resized with wires := b.wires.erase socket } else resized,
        .changed shrunk.inputCount,
        (if b.dropsWire socket removed.source then [.wireDropped socket] else []) ++
          [.inputsShrunk id shrunk.inputCount]⟩

end SignalBoard.Board
