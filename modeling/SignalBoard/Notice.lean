import SignalBoard.Fault
import SignalBoard.Text.Numeral
import SignalBoard.Text.Quoted

/-!
# Notices

Whatever is worth reporting is a `Notice`: a cause with the names and numbers that belong to it.
`Notice.level` says how serious it is and `Notice.text` how it is worded.
-/

namespace SignalBoard

set_option autoImplicit false

inductive Level
  | debug
  | info
  | warn
  deriving DecidableEq

def Level.label : Level → String
  | debug => "DEBUG"
  | info => "INFO"
  | warn => "WARN"

inductive Notice
  | settingUnread (name raw : String) (fault : Text.NumeralFault)
  | settingZero (name : String)
  | inputsCapped (requested limit : Nat)
  /-- A perceptron had more or fewer weights than inputs. -/
  | weightsRepaired (weights inputs : Nat)
  | sceneCreated (nodes : Nat)
  /-- A wire took the place of the one from `previous`. -/
  | wireReplaced (socket : Socket) (previous : NodeId)
  | wireAdded (wire : Wire)
  /-- An occupied input had no wire in the table. -/
  | wireUnlisted (socket : Socket)
  | wireRemoved (wire : Wire)
  | inputsAtMost (id : NodeId) (limit : Nat)
  | inputsAtLeast (id : NodeId) (limit : Nat)
  | inputsGrown (id : NodeId) (count : Nat)
  /-- The input that went away took its wire with it. -/
  | wireDropped (socket : Socket)
  | inputsShrunk (id : NodeId) (count : Nat)
  | switchFlipped (id : NodeId) (on : Bool)
  | dragStarted (kind : Kind) (id : NodeId)
  | dragStopped (id : NodeId)
  | wiringStarted (source : NodeId)
  | wiringCancelled
  | wiringRefused (fault : Fault)
  | inputUnwired (socket : Socket)
  | tickRepaired (tick repaired perceptrons : Nat)
  | quit (ticks : Nat)
  deriving DecidableEq

namespace Notice

def level : Notice → Level
  | settingUnread .. | settingZero _ | inputsCapped .. | weightsRepaired .. | wireReplaced ..
  | wireUnlisted _ | wiringRefused _ => .warn
  | sceneCreated _ | wireAdded _ | wireRemoved _ | inputsGrown .. | inputsShrunk ..
  | quit _ => .info
  | inputsAtMost .. | inputsAtLeast .. | wireDropped _ | switchFlipped .. | dragStarted ..
  | dragStopped _ | wiringStarted _ | wiringCancelled | inputUnwired _ | tickRepaired .. => .debug

def text : Notice → String
  | settingUnread name raw fault => s!"Ignoring {name}={Text.quote raw}: {fault.message}"
  | settingZero name => s!"Ignoring {name}=0"
  | inputsCapped requested limit =>
    s!"Requested {requested} perceptron inputs, limiting to {limit}"
  | weightsRepaired weights inputs =>
    s!"Weight count ({weights}) != input count ({inputs}); repairing"
  | sceneCreated nodes => s!"Created default scene with {nodes} nodes"
  | wireReplaced socket previous =>
    s!"Input {socket.index} of {socket.node.label} already connected to {previous.label}; " ++
      "overwriting"
  | wireAdded wire =>
    s!"Connected {wire.source.label} output -> {wire.socket.node.label} input {wire.socket.index}"
  | wireUnlisted socket => s!"Input {socket.index} of {socket.node.label} had no registry entry"
  | wireRemoved wire =>
    s!"Removed connection {wire.source.label} -> {wire.socket.node.label} input {wire.socket.index}"
  | inputsAtMost id limit => s!"Perceptron {id.label}: max inputs ({limit}) reached"
  | inputsAtLeast id limit => s!"Perceptron {id.label}: min inputs ({limit}) reached"
  | inputsGrown id count => s!"Perceptron {id.label}: increased inputs to {count}"
  | wireDropped socket => s!"Removed connection to input {socket.index} of {socket.node.label}"
  | inputsShrunk id count => s!"Perceptron {id.label}: decreased inputs to {count}"
  | switchFlipped id on => s!"Toggled switch {id.label} to {on.toNat}"
  | dragStarted kind id => s!"Started drag for {kind.title} {id.label}"
  | dragStopped id => s!"Stopped drag for {id.label}"
  | wiringStarted source => s!"Started connection from {source.label}"
  | wiringCancelled => "Connection cancelled"
  | wiringRefused fault => s!"Connection rejected: {fault.message}"
  | inputUnwired socket => s!"Input {socket.index} of {socket.node.label} is not connected"
  | tickRepaired tick repaired perceptrons =>
    s!"Tick {tick}: repaired weights on {repaired} of {perceptrons} perceptrons"
  | quit ticks => s!"Quit after {ticks} ticks"

end Notice

end SignalBoard
