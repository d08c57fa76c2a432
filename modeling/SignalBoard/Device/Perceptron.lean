import SignalBoard.Geometry
import SignalBoard.Outcome
import SignalBoard.Random.Sampler

/-!
# Perceptrons

A perceptron adds the weights of its true inputs and its bias, from left to right in binary32, and
fires when the sum is not negative.  It has between one and eight inputs, `weights`, `slots` and
`values` being indexed alike; inputs come and go at the end only, so the others keep their numbers.

`Perceptron.evaluate` first makes the number of weights equal to the number of inputs (`repair`),
because the weights can be set to a list of any length.
-/

namespace SignalBoard

set_option autoImplicit false

structure Perceptron where
  weights : List Float32
  bias : Float32
  slots : List (Option NodeId)
  /-- What each input read at the last evaluation. -/
  values : List Bool
  firing : Bool
  deriving DecidableEq

namespace Perceptron

def width : Float32 := 60
def height : Float32 := 80

def minInputs : Nat := 1
def maxInputs : Nat := 8

def inputCount (p : Perceptron) : Nat := p.slots.length

/-! ## Making a perceptron -/

def clampInputs (requested : Nat) : Nat := max minInputs (min requested maxInputs)

/-- A perceptron that nothing is wired to and that has not been evaluated. -/
def ofWeights (weights : List Float32) (bias : Float32) : Perceptron where
  weights := weights
  bias := bias
  slots := List.replicate weights.length none
  values := List.replicate weights.length false
  firing := false

def capNotices (requested : Nat) : List Notice :=
  if maxInputs < requested then [.inputsCapped requested maxInputs] else []

/-- Makes a perceptron.  Weights that are not given are drawn in order, and after them the bias;
given weights must be as many as the inputs, and if they are not, nothing is drawn. -/
def create (requested : Nat) (weights? : Option (List Float32)) (bias? : Option Float32)
    (sampler : Sampler) : Outcome Sampler (Except Fault Perceptron) :=
  let count := clampInputs requested
  let (weights, afterWeights) := match weights? with
    | some weights => (weights, sampler)
    | none => (sampler.upcoming count, sampler.advance count)
  if weights.length = count then
    match bias? with
    | some bias => ⟨afterWeights, .ok (ofWeights weights bias), capNotices requested⟩
    | none =>
      ⟨afterWeights.advance 1, .ok (ofWeights weights afterWeights.next), capNotices requested⟩
  else
    ⟨sampler, .error (.weightCount count weights.length), capNotices requested⟩

/-! ## Changing the number of inputs -/

def canGrow (p : Perceptron) : Bool := p.inputCount < maxInputs

def canShrink (p : Perceptron) : Bool := minInputs < p.inputCount

def grow (p : Perceptron) (weight : Float32) : Perceptron :=
  { p with
    weights := p.weights ++ [weight]
    slots := p.slots ++ [none]
    values := p.values ++ [false] }

def shrink (p : Perceptron) : Perceptron :=
  { p with
    weights := p.weights.dropLast
    slots := p.slots.dropLast
    values := p.values.take (p.inputCount - 1) }

def lastSource (p : Perceptron) : Option NodeId := p.slots.getLast?.join

/-- The input that `shrink` takes away. -/
structure Removed where
  index : Nat
  source : Option NodeId
  deriving DecidableEq

def grow? (p : Perceptron) (sampler : Sampler) : Option (Perceptron × Sampler) :=
  if p.canGrow then some (p.grow sampler.next, sampler.advance 1) else none

def shrink? (p : Perceptron) : Option (Perceptron × Removed) :=
  if p.canShrink then some (p.shrink, ⟨p.inputCount - 1, p.lastSource⟩) else none

/-! ## Evaluation -/

/-- The first `count` weights, padded with zeros. -/
def resize (count : Nat) (weights : List Float32) : List Float32 :=
  weights.take count ++ List.replicate (count - weights.length) 0

def needsRepair (p : Perceptron) : Bool := p.weights.length ≠ p.inputCount

/-- Makes the number of weights equal to the number of inputs. -/
def repair (p : Perceptron) : Perceptron :=
  if p.needsRepair then { p with weights := resize p.inputCount p.weights } else p

def repairNotices (p : Perceptron) : List Notice :=
  if p.needsRepair then [.weightsRepaired p.weights.length p.inputCount] else []

def contribution (weight : Float32) (value : Bool) : Float32 := if value then weight else 0

/-- The contributions added from left to right, starting from negative zero, and then the bias. -/
def weightedSum (p : Perceptron) (values : List Bool) : Float32 :=
  (List.zipWith contribution p.weights values).foldl (· + ·) (-0.0) + p.bias

/-- Whether a sum makes a perceptron fire; `NaN` does not. -/
def fires (sum : Float32) : Bool := 0 ≤ sum

def evaluate (p : Perceptron) (values : List Bool) : Perceptron :=
  { p.repair with
    firing := fires (p.repair.weightedSum values)
    values := values }

/-! ## Buttons -/

def buttonSide : Float32 := 15

/-- The gap between the buttons, and between a button and the edges of the body. -/
def buttonMargin : Float32 := 3

def buttonRect (x y : Float32) : Rect := .ofMinSize ⟨x - buttonSide, y⟩ (.square buttonSide)

/-- The button that adds an input, in the top right corner. -/
def growRect (bounds : Rect) : Rect :=
  buttonRect (bounds.right - buttonMargin) (bounds.top + buttonMargin)

/-- The button that takes an input away, to the left of the other one. -/
def shrinkRect (bounds : Rect) : Rect :=
  buttonRect ((growRect bounds).left - buttonMargin) (growRect bounds).top

end Perceptron

end SignalBoard
