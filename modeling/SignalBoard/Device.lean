import SignalBoard.Device.Light
import SignalBoard.Device.Perceptron
import SignalBoard.Device.Switch

/-!
# Devices

A device is what a node does: a switch has an output and no inputs, a perceptron has an output and
several inputs, a light has one input and no output.  `Device.sources?` lists what is wired to the
inputs of a device, and `Device.wire` changes one of them.
-/

namespace SignalBoard

set_option autoImplicit false

inductive Device
  | switch (s : Switch)
  | perceptron (p : Perceptron)
  | light (l : Light)
  deriving DecidableEq

namespace Device

def kind : Device → Kind
  | switch _ => .switch
  | perceptron _ => .perceptron
  | light _ => .light

def output? : Device → Option Bool
  | switch s => some s.on
  | perceptron p => some p.firing
  | light _ => none

def hasOutput (d : Device) : Bool := d.output?.isSome

/-- The nodes wired to the inputs of a device that has inputs, in order. -/
def sources? : Device → Option (List (Option NodeId))
  | switch _ => none
  | perceptron p => some p.slots
  | light l => some [l.slot]

def sources (d : Device) : List (Option NodeId) := d.sources?.getD []

/-- What is wired to input `index`; absent when there is no such input. -/
def slot? (d : Device) (index : Nat) : Option (Option NodeId) := d.sources[index]?

def source? (d : Device) (index : Nat) : Option NodeId := (d.slot? index).join

/-- Wires `source` to input `index`, or frees that input; without such an input nothing changes. -/
def wire (d : Device) (index : Nat) (source : Option NodeId) : Device :=
  match d with
  | switch s => switch s
  | perceptron p => perceptron { p with slots := p.slots.set index source }
  | light l => if index = 0 then light { l with slot := source } else light l

def perceptron? : Device → Option Perceptron
  | perceptron p => some p
  | _ => none

def light? : Device → Option Light
  | light l => some l
  | _ => none

/-- Flips a switch; no other device is changed. -/
def toggle : Device → Device
  | switch s => switch s.toggle
  | d => d

/-- A perceptron evaluated on what `read` says of its sources; free inputs read false. -/
def fire (read : NodeId → Bool) : Device → Device
  | perceptron p => perceptron (p.evaluate (p.slots.map fun slot => slot.elim false read))
  | d => d

def shine (read : NodeId → Bool) : Device → Device
  | light l => light (l.refresh (l.slot.map read))
  | d => d

end Device

end SignalBoard
