import SignalBoard.Board

/-!
# Wiring a board

`Board.connect` looks for faults before it changes anything (`Board.checkWire`), in a fixed order:
an unknown source, a source without output, an unknown target, an input that does not exist.  Both
`connect` and `Board.disconnect` change the slot of the node and the table of wires together
(`Board.attach`, `Board.detach`), and both answer with the source that was wired there before.
-/

namespace SignalBoard.Board

set_option autoImplicit false

/-- The first fault of a wire from `source` to `socket`, or else what the socket holds now. -/
def checkWire (b : Board) (source : NodeId) (socket : Socket) : Except Fault (Option NodeId) :=
  match b.node? source with
  | none => .error (.unknownNode source)
  | some start =>
    if start.device.hasOutput then
      match b.node? socket.node with
      | none => .error (.unknownNode socket.node)
      | some target =>
        match target.device.slot? socket.index with
        | none => .error (.noInput socket)
        | some held => .ok held
    else .error (.noOutput source)

def attach (b : Board) (source : NodeId) (socket : Socket) : Board where
  nodes := b.nodes.modify socket.node (Node.mapDevice fun d => d.wire socket.index (some source))
  wires := b.wires.insert ⟨source, socket⟩
  sampler := b.sampler

def detach (b : Board) (socket : Socket) : Board where
  nodes := b.nodes.modify socket.node (Node.mapDevice fun d => d.wire socket.index none)
  wires := b.wires.erase socket
  sampler := b.sampler

def replaceNotices (socket : Socket) (held : Option NodeId) : List Notice :=
  (held.map (Notice.wireReplaced socket)).toList

/-- Wires the output of `source` to `socket` in the place of what was wired there. -/
def connect (b : Board) (source : NodeId) (socket : Socket) :
    Outcome Board (Except Fault (Option NodeId)) :=
  match b.checkWire source socket with
  | .error fault => .quiet b (.error fault)
  | .ok held =>
    ⟨b.attach source socket, .ok held,
      replaceNotices socket held ++ [.wireAdded ⟨source, socket⟩]⟩

/-- Reports a wire that goes away, and first the lack of it in the table. -/
def detachNotices (b : Board) (socket : Socket) : List Notice :=
  match b.source? socket with
  | none => []
  | some source =>
    (if b.wires.get? socket = none then [.wireUnlisted socket] else []) ++
      [.wireRemoved ⟨source, socket⟩]

def disconnect (b : Board) (socket : Socket) : Outcome Board (Option NodeId) :=
  ⟨b.detach socket, b.source? socket, b.detachNotices socket⟩

end SignalBoard.Board
