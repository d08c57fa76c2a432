import SignalBoard.Proofs.Slots

/-! # Names, kinds and places

The face of a node is its name, its kind and its bounds.  Wiring, resizing, flipping and ticking
leave every face alone, a new node comes with a face at the end of the list, and only a move of the
pointer changes one, namely the bounds of the node that it drags (`Workbench.faces_handle`).  The
roster is what a drag leaves of the faces: names and kinds.  Only the commands that add nodes change
it (`Workbench.roster_obey`). -/

namespace SignalBoard

set_option autoImplicit false

/-! ## Kinds of devices -/

namespace Device

theorem kind_wire (d : Device) (index : Nat) (source : Option NodeId) :
    (d.wire index source).kind = d.kind := by
  cases d with
  | switch s => rfl
  | perceptron p => rfl
  | light l =>
    unfold wire
    cases index with
    | zero => rfl
    | succ index => rfl

theorem kind_toggle (d : Device) : d.toggle.kind = d.kind := by
  cases d <;> rfl

theorem kind_settle (old new : NodeId → Bool) (id : NodeId) (d : Device) :
    (d.settle old new id).kind = d.kind := by
  cases d <;> rfl

end Device

/-! ## Faces -/

/-- What is seen of a node from outside. -/
structure Face where
  id : NodeId
  kind : Kind
  bounds : Rect

def Node.face (n : Node) : Face := ⟨n.id, n.device.kind, n.bounds⟩

theorem Node.face_mapDevice (n : Node) {f : Device → Device}
    (h : (f n.device).kind = n.device.kind) : (n.mapDevice f).face = n.face := by
  unfold Node.face Node.mapDevice
  rw [h]

namespace Board

def faces (b : Board) : List Face := b.nodes.map Node.face

/-- The names and the kinds of the nodes, in order. -/
def roster (b : Board) : List (NodeId × Kind) := b.nodes.map fun n => (n.id, n.device.kind)

theorem roster_eq_map_faces (b : Board) :
    b.roster = b.faces.map fun face => (face.id, face.kind) := by
  rw [faces, List.map_map]
  rfl

theorem roster_of_faces {b b' : Board} (h : b'.faces = b.faces) : b'.roster = b.roster := by
  rw [roster_eq_map_faces, roster_eq_map_faces, h]

/-- A view of the nodes that a change of one node does not show in. -/
theorem map_modifyNode {α : Type} (view : Node → α) (b : Board) (id : NodeId) {f : Node → Node}
    (h : ∀ n, b.node? id = some n → view (f n) = view n) :
    (b.modifyNode id f).nodes.map view = b.nodes.map view := by
  apply List.ext_getElem?
  intro j
  rw [List.getElem?_map, List.getElem?_map]
  exact map_node?_modifyNode view b id h j

theorem faces_mapDevice (b : Board) (id : NodeId) {f : Device → Device}
    (h : ∀ d, (f d).kind = d.kind) : (b.modifyNode id (Node.mapDevice f)).faces = b.faces :=
  map_modifyNode Node.face b id fun n _ => n.face_mapDevice (h n.device)

theorem faces_withDevice {b : Board} {id : NodeId} {p : Perceptron}
    (h : b.perceptron? id = some p) (q : Perceptron) :
    (b.withDevice id (.perceptron q)).faces = b.faces := by
  refine map_modifyNode Node.face b id fun n hn => ?_
  exact n.face_mapDevice (f := fun _ => .perceptron q) (by rw [device_of_perceptron? h hn]; rfl)

/-! ## Operations of the board -/

theorem node?_of_faces {b b' : Board} (h : b.faces <+: b'.faces) {id : NodeId} {n : Node}
    (hn : b.node? id = some n) : ∃ n', b'.node? id = some n' ∧ n'.face = n.face := by
  obtain ⟨more, hmore⟩ := h
  have hid : b.faces[id]? = some n.face := by
    rw [faces, List.getElem?_map]
    exact congrArg (Option.map Node.face) hn
  obtain ⟨hlt, -⟩ := List.getElem?_eq_some_iff.1 hid
  have hid' : b'.faces[id]? = some n.face := by
    rw [← hmore, List.getElem?_append_left hlt, hid]
  rw [faces, List.getElem?_map] at hid'
  exact Option.map_eq_some_iff.1 hid'

theorem faces_add (b : Board) (bounds : Rect) (device : Device) :
    (b.add bounds device).faces = b.faces ++ [⟨b.size, device.kind, bounds⟩] :=
  List.map_append

theorem faces_addPerceptron (b : Board) (corner : Point) (inputs : Nat)
    (weights? : Option (List Float32)) (bias? : Option Float32) :
    b.faces <+: (b.addPerceptron corner inputs weights? bias?).state.faces := by
  unfold addPerceptron
  cases hmade : (Perceptron.create inputs weights? bias? b.sampler).answer with
  | error fault =>
    simp only [hmade]
    exact List.prefix_refl _
  | ok unit =>
    simp only [hmade]
    rw [faces_add]
    exact List.prefix_append _ _

theorem faces_connect (b : Board) (source : NodeId) (socket : Socket) :
    (b.connect source socket).state.faces = b.faces := by
  unfold connect
  cases b.checkWire source socket with
  | error fault => rfl
  | ok held => exact faces_mapDevice b socket.node fun d => d.kind_wire _ _

theorem faces_disconnect (b : Board) (socket : Socket) :
    (b.disconnect socket).state.faces = b.faces :=
  faces_mapDevice b socket.node fun d => d.kind_wire _ _

theorem faces_incrementInputs (b : Board) (id : NodeId) :
    (b.incrementInputs id).state.faces = b.faces := by
  unfold incrementInputs
  cases hp : b.perceptron? id with
  | none => rfl
  | some p =>
    simp only
    cases p.grow? b.sampler with
    | none => rfl
    | some grown => exact faces_withDevice hp grown.1

theorem faces_decrementInputs (b : Board) (id : NodeId) :
    (b.decrementInputs id).state.faces = b.faces := by
  unfold decrementInputs
  cases hp : b.perceptron? id with
  | none => rfl
  | some p =>
    simp only
    cases p.shrink? with
    | none => rfl
    | some shrunk =>
      have h : (b.withDevice id (.perceptron shrunk.1)).faces = b.faces :=
        faces_withDevice hp shrunk.1
      simp only
      split
      · exact h
      · exact h

theorem faces_tick (b : Board) : b.tick.faces = b.faces := by
  apply List.ext_getElem?
  intro j
  rw [faces, faces, List.getElem?_map, List.getElem?_map]
  show (b.tick.node? j).map Node.face = (b.node? j).map Node.face
  rw [node?_tick, Option.map_map]
  congr 1
  funext n
  exact n.face_mapDevice (n.device.kind_settle _ _ _)

end Board

/-! ## Operations of a pointer -/

namespace Workbench

theorem faces_finishWiring (w : Workbench) (pos : Point) :
    (w.finishWiring pos).state.board.faces = w.board.faces := by
  rcases w.board_finishWiring pos with h | ⟨source, socket, h⟩
  · rw [h]
  · rw [h, Board.faces_connect]

theorem Pressed.faces {w after : Workbench} {pos : Point} {id : NodeId} {n : Node}
    {button : Button} {region : Node.Region} (h : w.Pressed pos id n button region after)
    (hn : w.board.node? id = some n) : after.board.faces = w.board.faces := by
  cases h with
  | grow => exact w.board.faces_incrementInputs id
  | shrink => exact w.board.faces_decrementInputs id
  | flip s hs =>
    rw [← board_flipSwitch hn hs]
    exact w.board.faces_mapDevice id Device.kind_toggle
  | free index => exact w.board.faces_disconnect ⟨id, index⟩
  | draw pin hpin hidle => rfl
  | busy hbusy => rfl
  | input index => rfl
  | drag => rfl
  | toggle hswitch => rfl
  | body hswitch => rfl

theorem faces_press (w : Workbench) (button : Button) (pos : Point) :
    (w.press button pos).state.board.faces = w.board.faces := by
  rcases w.press_cases button pos with h | ⟨id, n, region, hn, -, -, hpressed⟩
  · rw [h]
    rfl
  · exact hpressed.faces hn

theorem faces_release (w : Workbench) (button : Button) (pos : Point) :
    (w.release button pos).state.board.faces = w.board.faces := by
  rcases w.board_release button pos with h | ⟨source, socket, h⟩
  · rw [h]
  · rw [h, Board.faces_connect]

/-- A move that drags nothing shows nowhere. -/
theorem move_of_not_dragging {w : Workbench} (h : w.gesture.dragged? = none) (pos : Point) :
    w.move pos = .quiet w false := by
  unfold move
  cases hg : w.gesture with
  | idle => rfl
  | wiring source start => rfl
  | dragging id grip =>
    rw [hg] at h
    cases h

theorem handle_move_of_not_dragging {w : Workbench} (h : w.gesture.dragged? = none) (pos : Point) :
    (w.handle (.move pos)).state = w.pointAt pos := by
  have hstill := move_of_not_dragging (w := w.pointAt pos) h pos
  show ((w.pointAt pos).move pos).state = _
  rw [hstill]
  rfl

theorem roster_move (w : Workbench) (pos : Point) :
    (w.move pos).state.board.roster = w.board.roster := by
  rcases w.board_move pos with h | ⟨id, corner, h⟩
  · rw [h]
  · rw [h]
    exact Board.map_modifyNode (fun n => (n.id, n.device.kind)) w.board id fun n _ => rfl

/-- Only a move of the pointer that drags a node changes a face. -/
theorem faces_handle (w : Workbench) (event : Event)
    (h : w.gesture.dragged? = none ∨ ∀ pos, event ≠ .move pos) :
    (w.handle event).state.board.faces = w.board.faces := by
  cases event with
  | press button pos => exact faces_press (w.pointAt pos) button pos
  | release button pos => exact faces_release (w.pointAt pos) button pos
  | quit => rfl
  | move pos =>
    rcases h with h | h
    · rw [handle_move_of_not_dragging h pos]
      rfl
    · exact absurd rfl (h pos)

theorem roster_handle (w : Workbench) (event : Event) :
    (w.handle event).state.board.roster = w.board.roster := by
  cases event with
  | press button pos => exact Board.roster_of_faces (faces_press (w.pointAt pos) button pos)
  | release button pos => exact Board.roster_of_faces (faces_release (w.pointAt pos) button pos)
  | quit => rfl
  | move pos => exact roster_move (w.pointAt pos) pos

end Workbench

/-! ## Commands -/

/-- Whether a command is one of those that can put a node on the board. -/
def Command.adds : Command → Bool
  | addSwitch _ | addLight _ | addPerceptron .. => true
  | _ => false

/-- But for a drag every face stays as it is, and new ones come after the old. -/
theorem Workbench.faces_obey (w : Workbench) {command : Command}
    (h : w.gesture.dragged? = none ∨ ∀ pos, command ≠ .handle (.move pos)) :
    w.board.faces <+: (w.obey command).state.board.faces := by
  have hsame (hfaces : (w.obey command).state.board.faces = w.board.faces) :
      w.board.faces <+: (w.obey command).state.board.faces := hfaces ▸ List.prefix_refl _
  cases command with
  | addSwitch corner => exact (w.board.faces_add _ _) ▸ List.prefix_append _ _
  | addLight center => exact (w.board.faces_add _ _) ▸ List.prefix_append _ _
  | addPerceptron corner inputs weights? bias? =>
    exact w.board.faces_addPerceptron corner inputs weights? bias?
  | connect source socket => exact hsame (w.board.faces_connect source socket)
  | disconnect socket => exact hsame (w.board.faces_disconnect socket)
  | incrementInputs id => exact hsame (w.board.faces_incrementInputs id)
  | decrementInputs id => exact hsame (w.board.faces_decrementInputs id)
  | tick => exact hsame w.board.faces_tick
  | handle event =>
    refine hsame (w.faces_handle event (h.imp_right fun hmove pos hevent => ?_))
    exact hmove pos (congrArg Command.handle hevent)
  | beginWiring source => exact hsame (congrArg Board.faces (w.board_beginWiring source))
  | finishWiring pos => exact hsame (w.faces_finishWiring pos)
  | removeWire socket => exact hsame (w.board.faces_disconnect socket)

theorem Workbench.roster_obey (w : Workbench) {command : Command} (h : command.adds = false) :
    (w.obey command).state.board.roster = w.board.roster := by
  cases command with
  | addSwitch corner => cases h
  | addLight center => cases h
  | addPerceptron corner inputs weights? bias? => cases h
  | connect source socket => exact Board.roster_of_faces (w.board.faces_connect source socket)
  | disconnect socket => exact Board.roster_of_faces (w.board.faces_disconnect socket)
  | incrementInputs id => exact Board.roster_of_faces (w.board.faces_incrementInputs id)
  | decrementInputs id => exact Board.roster_of_faces (w.board.faces_decrementInputs id)
  | tick => exact Board.roster_of_faces w.board.faces_tick
  | handle event => exact roster_handle w event
  | finishWiring pos => exact Board.roster_of_faces (w.faces_finishWiring pos)
  | removeWire socket => exact Board.roster_of_faces (w.board.faces_disconnect socket)
  | beginWiring source => exact congrArg Board.roster (w.board_beginWiring source)

end SignalBoard
