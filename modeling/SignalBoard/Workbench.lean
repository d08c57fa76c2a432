import SignalBoard.Board.Resizing
import SignalBoard.Board.Wiring
import SignalBoard.Event

/-!
# The workbench

A workbench is a board under the pointer.  The pointer's `Gesture` is one value, so at most one node
is being dragged and at most one wire is being drawn, and never both.

A press is offered to the nodes from the topmost down until one of them takes it
(`Workbench.offerBelow`).  Whether a node does depends on the button, on its region under the
pointer and on the gesture; each offer goes to the workbench that the offers before it left. -/

namespace SignalBoard

set_option autoImplicit false

/-- What the pointer is in the middle of. -/
inductive Gesture
  | idle
  /-- A node is being dragged, held at `grip` from its top left corner. -/
  | dragging (node : NodeId) (grip : Offset)
  /-- A wire is being drawn from the output of `source`, which lies at `start`. -/
  | wiring (source : NodeId) (start : Point)
  deriving DecidableEq

namespace Gesture

def isWiring : Gesture → Bool
  | wiring .. => true
  | _ => false

def dragged? : Gesture → Option NodeId
  | dragging node _ => some node
  | _ => none

theorem isWiring_eq_false_or (g : Gesture) :
    g.isWiring = false ∨ ∃ source start, g = wiring source start := by
  cases g with
  | idle => exact .inl rfl
  | dragging node grip => exact .inl rfl
  | wiring source start => exact .inr ⟨source, start, rfl⟩

theorem dragged?_eq_none_or (g : Gesture) :
    g.dragged? = none ∨ ∃ node grip, g = dragging node grip := by
  cases g with
  | idle => exact .inl rfl
  | dragging node grip => exact .inr ⟨node, grip, rfl⟩
  | wiring source start => exact .inl rfl

end Gesture

/-- A board, what the pointer is doing to it, and where the pointer was last seen. -/
structure Workbench where
  board : Board
  gesture : Gesture
  pointer : Point
  deriving DecidableEq

inductive Reaction
  | handled
  | ignored
  | quit
  deriving DecidableEq

/-- An event is handled if something took it. -/
def Reaction.ofTaken (taken : Bool) : Reaction := if taken then handled else ignored

namespace Workbench

def ofBoard (board : Board) : Workbench := ⟨board, .idle, ⟨0, 0⟩⟩

def withBoard (w : Workbench) (board : Board) : Workbench := { w with board := board }

def pendingWire? (w : Workbench) : Option (Point × Point) :=
  match w.gesture with
  | .wiring _ start => some (start, w.pointer)
  | _ => none

/-! ## Drawing and removing wires -/

def beginWiring (w : Workbench) (source : NodeId) : Outcome Workbench Bool :=
  match w.board.outputPosition? source with
  | none => .quiet w false
  | some start => ⟨{ w with gesture := .wiring source start }, true, [.wiringStarted source]⟩

theorem board_beginWiring (w : Workbench) (source : NodeId) :
    (w.beginWiring source).state.board = w.board := by
  unfold beginWiring
  cases w.board.outputPosition? source with
  | none => rfl
  | some start => rfl

/-- Ends the wire that is being drawn in the input at `pos`, or drops it. -/
def finishWiring (w : Workbench) (pos : Point) : Outcome Workbench (Option Socket) :=
  match w.gesture with
  | .wiring source _ =>
    let idle := { w with gesture := .idle }
    match w.board.socketAt? pos with
    | none => ⟨idle, none, [.wiringCancelled]⟩
    | some socket =>
      let wired := w.board.connect source socket
      match wired.answer with
      | .ok _ => ⟨idle.withBoard wired.state, some socket, wired.notices⟩
      | .error fault => ⟨idle.withBoard wired.state, none, wired.notices ++ [.wiringRefused fault]⟩
  | _ => .quiet w none

/-- The end of a wire leaves the board alone or connects the wire. -/
theorem board_finishWiring (w : Workbench) (pos : Point) :
    (w.finishWiring pos).state.board = w.board ∨
      ∃ source socket,
        (w.finishWiring pos).state.board = (w.board.connect source socket).state := by
  unfold finishWiring
  cases w.gesture with
  | idle => exact .inl rfl
  | dragging node grip => exact .inl rfl
  | wiring source start =>
    cases w.board.socketAt? pos with
    | none => exact .inl rfl
    | some socket =>
      simp only
      cases (w.board.connect source socket).answer with
      | error fault => exact .inr ⟨source, socket, rfl⟩
      | ok held => exact .inr ⟨source, socket, rfl⟩

def removeWire (w : Workbench) (socket : Socket) : Outcome Workbench (Option NodeId) :=
  let freed := w.board.disconnect socket
  (freed.mapState w.withBoard).report (if freed.answer = none then [.inputUnwired socket] else [])

/-! ## Presses -/

def flipSwitch (w : Workbench) (id : NodeId) : Outcome Workbench Unit :=
  let board := w.board.modifyNode id (Node.mapDevice Device.toggle)
  ⟨w.withBoard board, (), [.switchFlipped id (board.outputOf id)]⟩

def beginDrag (w : Workbench) (id : NodeId) (pos : Point) : Outcome Workbench Unit :=
  match w.board.node? id with
  | none => .quiet w ()
  | some n =>
    ⟨{ w with gesture := .dragging id (n.grip pos) }, (), [.dragStarted n.device.kind id]⟩

/-- A primary press on a region of node `id`; answers whether the node takes it.  An input takes it
without effect, so that it never becomes a drag of the body behind it. -/
def primaryPress (w : Workbench) (pos : Point) (id : NodeId) : Node.Region → Outcome Workbench Bool
  | .grow => ((w.board.incrementInputs id).mapState w.withBoard).mapAnswer fun _ => true
  | .shrink => ((w.board.decrementInputs id).mapState w.withBoard).mapAnswer fun _ => true
  | .output =>
    if w.gesture = .idle then (w.beginWiring id).mapAnswer fun _ => true else .quiet w true
  | .input _ => .quiet w !w.gesture.isWiring
  | .toggle =>
    if w.gesture.isWiring then .quiet w false else (w.flipSwitch id).mapAnswer fun _ => true
  | .body =>
    if w.gesture = .idle then (w.beginDrag id pos).mapAnswer fun _ => true else .quiet w false

/-- A secondary press on a region of node `id`; answers whether the node takes it.  Switches take it
everywhere but on their output, without effect. -/
def secondaryPress (w : Workbench) (id : NodeId) : Node.Region → Outcome Workbench Bool
  | .input index => (w.removeWire ⟨id, index⟩).mapAnswer fun _ => true
  | .toggle | .body => .quiet w ((w.board.node? id).any fun n => n.device.kind = .switch)
  | .grow | .shrink | .output => .quiet w false

/-- Offers a press at `pos` to node `id`; answers whether the node takes it. -/
def offer (w : Workbench) (button : Button) (pos : Point) (id : NodeId) : Outcome Workbench Bool :=
  match (w.board.node? id).bind fun n => n.regionAt? pos with
  | none => .quiet w false
  | some region =>
    match button with
    | .primary => w.primaryPress pos id region
    | .secondary => w.secondaryPress id region

/-- Offers a press to the nodes below `bound`, the topmost first, until one of them takes it. -/
def offerBelow (w : Workbench) (button : Button) (pos : Point) : Nat → Outcome Workbench Bool
  | 0 => .quiet w false
  | id + 1 =>
    (w.offer button pos id).andThen fun after taken =>
      if taken then .quiet after true else after.offerBelow button pos id

/-- Offers a press to the nodes from the topmost down; answers whether one of them took it. -/
def press (w : Workbench) (button : Button) (pos : Point) : Outcome Workbench Bool :=
  w.offerBelow button pos w.board.size

/-! ## Releases and movement -/

/-- A release of any button ends the wire that is being drawn; a drag ends with the primary one. -/
def release (w : Workbench) (button : Button) (pos : Point) : Outcome Workbench Bool :=
  match w.gesture, button with
  | .wiring .., _ => (w.finishWiring pos).mapAnswer fun _ => true
  | .dragging id _, .primary => ⟨{ w with gesture := .idle }, true, [.dragStopped id]⟩
  | _, _ => .quiet w false

theorem board_release (w : Workbench) (button : Button) (pos : Point) :
    (w.release button pos).state.board = w.board ∨
      ∃ source socket,
        (w.release button pos).state.board = (w.board.connect source socket).state := by
  have hfinish := w.board_finishWiring pos
  unfold release
  cases w.gesture with
  | idle => exact .inl rfl
  | wiring source start => exact hfinish
  | dragging id grip =>
    cases button with
    | primary => exact .inl rfl
    | secondary => exact .inl rfl

def move (w : Workbench) (pos : Point) : Outcome Workbench Bool :=
  match w.gesture with
  | .dragging id grip =>
    match w.board.node? id with
    | none => .quiet { w with gesture := .idle } false
    | some _ => .quiet (w.withBoard (w.board.modifyNode id fun n => n.moveTo (pos - grip))) true
  | _ => .quiet w false

/-- A move leaves the board alone or moves one of its nodes. -/
theorem board_move (w : Workbench) (pos : Point) :
    (w.move pos).state.board = w.board ∨
      ∃ id corner, (w.move pos).state.board = w.board.modifyNode id fun n => n.moveTo corner := by
  unfold move
  cases w.gesture with
  | idle => exact .inl rfl
  | wiring source start => exact .inl rfl
  | dragging id grip =>
    simp only
    cases w.board.node? id with
    | none => exact .inl rfl
    | some n => exact .inr ⟨id, pos - grip, rfl⟩

/-! ## Events -/

def pointAt (w : Workbench) (pos : Point) : Workbench := { w with pointer := pos }

def handle (w : Workbench) : Event → Outcome Workbench Reaction
  | .press button pos => ((w.pointAt pos).press button pos).mapAnswer .ofTaken
  | .release button pos => ((w.pointAt pos).release button pos).mapAnswer .ofTaken
  | .move pos => ((w.pointAt pos).move pos).mapAnswer .ofTaken
  | .quit => .quiet w .quit

def handleAll (w : Workbench) : List Event → Outcome Workbench (List Reaction)
  | [] => .quiet w []
  | event :: rest =>
    (w.handle event).andThen fun w' reaction =>
      (w'.handleAll rest).mapAnswer fun reactions => reaction :: reactions

theorem handleAll_append (w : Workbench) (before after : List Event) :
    w.handleAll (before ++ after) =
      (w.handleAll before).andThen fun w' reactions =>
        (w'.handleAll after).mapAnswer fun more => reactions ++ more := by
  induction before generalizing w with
  | nil => rfl
  | cons event rest ih =>
    simp only [List.cons_append, handleAll, ih]
    simp [Outcome.andThen, Outcome.mapAnswer]

end Workbench

end SignalBoard
