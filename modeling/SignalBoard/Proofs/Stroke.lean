import SignalBoard.Proofs.Coherence

/-! # Strokes

A stroke is a press of the primary button, any moves, and its release.  Made by an idle pointer it
amounts to one change of the board (`Board.Stroked`), which the region under the press decides: a
count button changes the number of inputs, an output is wired to the input under the release, the
toggle area flips a switch, and a body follows the moves.  The press alone decides what the rest of
the stroke does: nothing (`rest_of_idle`), ending a wire (`rest_of_wiring`) or carrying a node
(`rest_of_dragging`). -/

namespace SignalBoard

set_option autoImplicit false

/-! ## What a stroke amounts to -/

/-- What follows the press of a stroke. -/
def Event.follow (moves : List Point) (finish : Point) : List Event :=
  moves.map .move ++ [.release .primary finish]

def Event.stroke (start : Point) (moves : List Point) (finish : Point) : List Event :=
  .press .primary start :: follow moves finish

/-- The node after it followed `moves`, held at `grip` from its top left corner. -/
def Node.carried (grip : Offset) (n : Node) (moves : List Point) : Node :=
  moves.foldl (fun n pos => n.moveTo (pos - grip)) n

/-- What the board becomes by a stroke that starts on a region of node `n`, whose name is `id`. -/
inductive Board.Stroked (b : Board) (start : Point) (moves : List Point) (finish : Point)
    (id : NodeId) (n : Node) : Node.Region → Board → Prop
  | grow : Stroked b start moves finish id n .grow (b.incrementInputs id).state
  | shrink : Stroked b start moves finish id n .shrink (b.decrementInputs id).state
  | wire (socket : Socket) (hsocket : b.socketAt? finish = some socket) (held : Option NodeId)
      (hconnect : (b.connect id socket).answer = .ok held) :
      Stroked b start moves finish id n .output (b.connect id socket).state
  | drop (hfree : b.socketAt? finish = none) : Stroked b start moves finish id n .output b
  | input (index : Nat) : Stroked b start moves finish id n (.input index) b
  | flip (s : Switch) (hs : n.device = .switch s) :
      Stroked b start moves finish id n .toggle
        { b with nodes := b.nodes.set id { n with device := .switch ⟨!s.on⟩ } }
  | click (hmoves : moves = []) : Stroked b start moves finish id n .body b
  | carry (hmoves : moves ≠ []) :
      Stroked b start moves finish id n .body
        { b with nodes := b.nodes.set id { n with
            bounds := (n.carried (start - n.bounds.min) moves).bounds
            pins := (n.carried (start - n.bounds.min) moves).pins } }

theorem Node.carried_eq (grip : Offset) (n : Node) (moves : List Point) :
    n.carried grip moves =
      { n with bounds := (n.carried grip moves).bounds, pins := (n.carried grip moves).pins } := by
  induction moves generalizing n with
  | nil => rfl
  | cons pos rest ih => exact ih (n.moveTo (pos - grip))

theorem Board.modifyNode_carried_nil (b : Board) (id : NodeId) (grip : Offset) :
    (b.modifyNode id fun n => n.carried grip []) = b := by
  have hnodes : b.nodes.modify id (fun n => n.carried grip []) = b.nodes := List.modify_id id _
  rw [modifyNode, hnodes]

/-- What is left of a board when places are forgotten: the devices by name, the wires and the source
of weights. -/
def Board.circuit (b : Board) : List (NodeId × Device) × WireTable × Sampler :=
  (b.nodes.map fun n => (n.id, n.device), b.wires, b.sampler)

namespace Workbench

/-! ## The press -/

theorem takes_of_idle (kind : Kind) (region : Node.Region) :
    Takes .idle kind .primary region := by
  cases region with
  | grow => trivial
  | shrink => trivial
  | output => trivial
  | input index => rfl
  | toggle => rfl
  | body => rfl

/-- The topmost node that takes a press is the one that it acts on. -/
theorem pressed_of_topmost {w : Workbench} {button : Button} {pos : Point} {id : NodeId} {n : Node}
    {region : Node.Region} (hn : w.board.node? id = some n) (hr : n.regionAt? pos = some region)
    (htakes : Takes w.gesture n.device.kind button region)
    (htop : ∀ j, id < j → ¬ w.Accepts button pos j) :
    w.Pressed pos id n button region (w.press button pos).state := by
  have hacc : w.Accepts button pos id := ⟨n, region, hn, hr, htakes⟩
  obtain ⟨-, n', region', hn', hr', -, hpressed⟩ := offer_of_accepts hacc
  obtain rfl : n = n' := Option.some.inj (hn.symm.trans hn')
  obtain rfl : region = region' := Option.some.inj (hr.symm.trans hr')
  rw [press_of_topmost hacc htop]
  exact hpressed

theorem press_of_no_region {w : Workbench} (button : Button) {pos : Point}
    (h : ∀ id n, w.board.node? id = some n → n.regionAt? pos = none) :
    w.press button pos = .quiet w false := by
  rcases w.press_cases button pos with hpress | ⟨id, n, region, hn, hr, -⟩
  · exact hpress
  · rw [h id n hn] at hr
    cases hr

/-! ## The rest of a stroke -/

theorem circuit_move (w : Workbench) (pos : Point) :
    (w.move pos).state.board.circuit = w.board.circuit := by
  rcases w.board_move pos with h | ⟨id, corner, h⟩
  · rw [h]
  · have hdevices := Board.map_modifyNode (fun n => (n.id, n.device)) w.board id
      (f := fun n => n.moveTo corner) fun n _ => rfl
    rw [h]
    exact congrArg (fun devices => (devices, w.board.wires, w.board.sampler)) hdevices

theorem circuit_moves (w : Workbench) (moves : List Point) :
    (w.handleAll (moves.map .move)).state.board.circuit = w.board.circuit := by
  induction moves generalizing w with
  | nil => rfl
  | cons pos rest ih =>
    exact (ih ((w.pointAt pos).move pos).state).trans ((w.pointAt pos).circuit_move pos)

theorem handleAll_moves_of_still {w : Workbench} (h : w.gesture.dragged? = none)
    (moves : List Point) : ∃ pos, (w.handleAll (moves.map .move)).state = w.pointAt pos := by
  induction moves generalizing w with
  | nil => exact ⟨w.pointer, rfl⟩
  | cons pos rest ih =>
    obtain ⟨last, hlast⟩ := ih (w := w.pointAt pos) h
    refine ⟨last, ?_⟩
    show ((w.handle (.move pos)).state.handleAll (rest.map .move)).state = _
    rw [handle_move_of_not_dragging h pos]
    exact hlast

theorem handleAll_moves_of_dragging {w : Workbench} {id : NodeId} {grip : Offset} {n : Node}
    (hg : w.gesture = .dragging id grip) (hn : w.board.node? id = some n) (moves : List Point) :
    ∃ pos, (w.handleAll (moves.map .move)).state =
      ((w.withBoard (w.board.modifyNode id fun n => n.carried grip moves)).pointAt pos) := by
  induction moves generalizing w n with
  | nil =>
    refine ⟨w.pointer, ?_⟩
    rw [Board.modifyNode_carried_nil]
    rfl
  | cons pos rest ih =>
    have hn' : ((w.pointAt pos).withBoard
        (w.board.modifyNode id fun n => n.moveTo (pos - grip))).board.node? id =
          some (n.moveTo (pos - grip)) := Board.node?_modifyNode_self hn _
    obtain ⟨last, hlast⟩ := ih (w := (w.pointAt pos).withBoard
      (w.board.modifyNode id fun n => n.moveTo (pos - grip))) hg hn'
    refine ⟨last, ?_⟩
    show ((w.handle (.move pos)).state.handleAll (rest.map .move)).state = _
    rw [handle_move_of_dragging hg hn pos, hlast]
    have hnodes : (w.board.nodes.modify id fun n => n.moveTo (pos - grip)).modify id
        (fun n => n.carried grip rest) =
          w.board.nodes.modify id fun n => n.carried grip (pos :: rest) :=
      List.modify_modify_eq _ _ _ _
    unfold Board.modifyNode withBoard pointAt
    rw [hnodes]

theorem state_follow (w : Workbench) (moves : List Point) (finish : Point) :
    (w.handleAll (Event.follow moves finish)).state =
      (((w.handleAll (moves.map .move)).state.pointAt finish).release .primary finish).state := by
  rw [Event.follow, handleAll_append]
  rfl

theorem rest_of_idle {w : Workbench} (hg : w.gesture = .idle) (moves : List Point)
    (finish : Point) :
    (w.handleAll (Event.follow moves finish)).state = w.pointAt finish := by
  obtain ⟨pos, hmoves⟩ := handleAll_moves_of_still (w := w) (by rw [hg]; rfl) moves
  rw [state_follow, hmoves]
  show ((w.pointAt finish).release .primary finish).state = _
  have hg' : (w.pointAt finish).gesture = .idle := hg
  unfold release
  rw [hg']
  rfl

theorem rest_of_wiring {w : Workbench} {source : NodeId} {start : Point}
    (hg : w.gesture = .wiring source start) (moves : List Point) (finish : Point) :
    (w.handleAll (Event.follow moves finish)).state =
      ((w.pointAt finish).finishWiring finish).state := by
  obtain ⟨pos, hmoves⟩ := handleAll_moves_of_still (w := w) (by rw [hg]; rfl) moves
  rw [state_follow, hmoves]
  show ((w.pointAt finish).release .primary finish).state = _
  have hg' : (w.pointAt finish).gesture = .wiring source start := hg
  unfold release
  rw [hg']
  rfl

theorem rest_of_dragging {w : Workbench} {id : NodeId} {grip : Offset} {n : Node}
    (hg : w.gesture = .dragging id grip) (hn : w.board.node? id = some n) (moves : List Point)
    (finish : Point) :
    (w.handleAll (Event.follow moves finish)).state =
      ⟨w.board.modifyNode id fun n => n.carried grip moves, .idle, finish⟩ := by
  obtain ⟨pos, hmoves⟩ := handleAll_moves_of_dragging hg hn moves
  rw [state_follow, hmoves]
  have hg' : (((w.withBoard (w.board.modifyNode id fun n => n.carried grip moves)).pointAt
      pos).pointAt finish).gesture = .dragging id grip := hg
  unfold release
  rw [hg']
  rfl

/-! ## The whole stroke -/

/-- A wire that is drawn from an output is connected to the input under the release. -/
theorem stroked_of_drawing {b : Board} (hreach : b.Reachable) {id : NodeId} {origin : Point}
    (horigin : b.outputPosition? id = some origin) (pointer start : Point) (n : Node)
    (moves : List Point) (finish : Point) :
    let after : Workbench :=
      (handleAll ⟨b, .wiring id origin, pointer⟩ (Event.follow moves finish)).state
    after.gesture = .idle ∧ b.Stroked start moves finish id n .output after.board := by
  let drawing : Workbench := ⟨b, .wiring id origin, finish⟩
  have hcoherent : drawing.Coherent := coherent_of_wiring rfl horigin
  rw [rest_of_wiring (w := ⟨b, .wiring id origin, pointer⟩) rfl]
  show (drawing.finishWiring finish).state.gesture = .idle ∧
    b.Stroked start moves finish id n .output (drawing.finishWiring finish).state.board
  cases hsocket : b.socketAt? finish with
  | none =>
    rw [finishWiring_of_free (w := drawing) rfl hsocket]
    exact ⟨rfl, .drop hsocket⟩
  | some socket =>
    obtain ⟨held, hcheck, hfinish⟩ := hcoherent.finishWiring_of_socket hreach.placed rfl hsocket
    have hconnect := Board.connect_of_checkWire (b := b) hcheck
    have hwire : b.Stroked start moves finish id n .output (b.connect id socket).state :=
      .wire socket hsocket held (by rw [hconnect])
    rw [hconnect] at hwire
    rw [hfinish]
    exact ⟨rfl, hwire⟩

/-- A body that is held where the press found it follows the moves. -/
theorem stroked_of_dragging {b : Board} {id : NodeId} {n : Node} (hn : b.node? id = some n)
    (pointer start : Point) (moves : List Point) (finish : Point) :
    let after : Workbench :=
      (handleAll ⟨b, .dragging id (start - n.bounds.min), pointer⟩
        (Event.follow moves finish)).state
    after.gesture = .idle ∧ b.Stroked start moves finish id n .body after.board := by
  rw [rest_of_dragging (w := ⟨b, .dragging id (start - n.bounds.min), pointer⟩) rfl hn]
  refine ⟨rfl, ?_⟩
  show b.Stroked start moves finish id n .body
    (b.modifyNode id fun n' => n'.carried (start - n.bounds.min) moves)
  by_cases hmoves : moves = []
  · subst hmoves
    rw [Board.modifyNode_carried_nil]
    exact .click rfl
  · rw [Board.modifyNode_eq_set hn, Node.carried_eq]
    exact .carry hmoves

theorem stroked_of_pressed {w after : Workbench} (hreach : w.board.Reachable)
    (hidle : w.gesture = .idle) {start : Point} {id : NodeId} {n : Node} {region : Node.Region}
    (hn : w.board.node? id = some n) (hpressed : w.Pressed start id n .primary region after)
    (moves : List Point) (finish : Point) :
    (after.handleAll (Event.follow moves finish)).state.gesture = .idle ∧
      w.board.Stroked start moves finish id n region
        (after.handleAll (Event.follow moves finish)).state.board := by
  have hrest (board : Board) : ((w.withBoard board).handleAll (Event.follow moves finish)).state =
      (w.withBoard board).pointAt finish := rest_of_idle (w := w.withBoard board) hidle moves finish
  cases hpressed with
  | grow =>
    rw [hrest]
    exact ⟨hidle, .grow⟩
  | shrink =>
    rw [hrest]
    exact ⟨hidle, .shrink⟩
  | input index =>
    rw [rest_of_idle hidle]
    exact ⟨hidle, .input index⟩
  | flip s hs =>
    rw [hrest]
    exact ⟨hidle, .flip s hs⟩
  | busy hbusy => exact absurd hidle hbusy
  | draw pin hpin hidle' =>
    have hstart : w.board.outputPosition? id = some pin.position :=
      Board.outputPosition?_eq_some_iff.2 ⟨n, pin, hn, hpin, rfl⟩
    exact stroked_of_drawing hreach hstart w.pointer start n moves finish
  | drag => exact stroked_of_dragging hn w.pointer start moves finish

/-- A stroke of an idle pointer leaves it idle.  It changes nothing where no node lies under the
press, and otherwise amounts to one operation on the topmost node there; the moves in between change
no device, no wire and nothing of what weights are drawn from. -/
theorem stroke_atomic {w : Workbench} (hreach : w.board.Reachable) (hidle : w.gesture = .idle)
    (start : Point) (moves : List Point) (finish : Point) :
    (w.handleAll (Event.stroke start moves finish)).state.gesture = .idle ∧
      ((∀ id n, w.board.node? id = some n → n.regionAt? start = none) →
        (w.handleAll (Event.stroke start moves finish)).state.board = w.board) ∧
      (∀ id n region, w.board.node? id = some n → n.regionAt? start = some region →
        (∀ j m, id < j → w.board.node? j = some m → m.regionAt? start = none) →
        w.board.Stroked start moves finish id n region
          (w.handleAll (Event.stroke start moves finish)).state.board) ∧
      (w.handleAll (.press .primary start :: moves.map .move)).state.board.circuit =
        (w.handle (.press .primary start)).state.board.circuit := by
  have hstroke : (w.handleAll (Event.stroke start moves finish)).state =
      (((w.pointAt start).press .primary start).state.handleAll
        (Event.follow moves finish)).state := rfl
  have hquiet (h : (w.pointAt start).press .primary start = .quiet (w.pointAt start) false) :
      (w.handleAll (Event.stroke start moves finish)).state =
        (w.pointAt start).pointAt finish := by
    rw [hstroke, h]
    exact rest_of_idle (w := w.pointAt start) hidle moves finish
  refine ⟨?_, fun hnone => ?_, fun id n region hn hr htop => ?_, circuit_moves _ moves⟩
  · rcases (w.pointAt start).press_cases .primary start with
      h | ⟨id, n, region, hn, -, -, hpressed⟩
    · rw [hquiet h]
      exact hidle
    · rw [hstroke]
      exact (stroked_of_pressed (w := w.pointAt start) hreach hidle hn hpressed moves finish).1
  · rw [hquiet (press_of_no_region (w := w.pointAt start) .primary hnone)]
    rfl
  · have htakes : Takes (w.pointAt start).gesture n.device.kind .primary region := by
      show Takes w.gesture _ _ _
      rw [hidle]
      exact takes_of_idle _ _
    have hpressed := pressed_of_topmost (w := w.pointAt start) hn hr htakes fun j hj hacc => by
      obtain ⟨m, region', hm, hr', -⟩ := hacc
      rw [htop j m hj hm] at hr'
      cases hr'
    rw [hstroke]
    exact (stroked_of_pressed (w := w.pointAt start) hreach hidle hn hpressed moves finish).2

/-- A switch to the left of a perceptron with two inputs. -/
def switchAndUnit : Workbench :=
  (ofBoard (.empty 0)).run
    [.addSwitch ⟨50, 50⟩, .addPerceptron ⟨200, 100⟩ 2 (some [1, 1]) (some (-1.5))]

/-- A stroke from the output of the switch to the second input of the perceptron. -/
theorem switchAndUnit_wired :
    switchAndUnit.board.Reachable ∧ switchAndUnit.gesture = .idle ∧
      (∃ n, switchAndUnit.board.node? 0 = some n ∧ n.regionAt? ⟨96, 70⟩ = some .output ∧
        switchAndUnit.board.Stroked ⟨96, 70⟩ [⟨150, 90⟩, ⟨190, 150⟩] ⟨195, 153⟩ 0 n .output
          (switchAndUnit.handleAll
            (Event.stroke ⟨96, 70⟩ [⟨150, 90⟩, ⟨190, 150⟩] ⟨195, 153⟩)).state.board) ∧
      (switchAndUnit.handleAll
        (Event.stroke ⟨96, 70⟩ [⟨150, 90⟩, ⟨190, 150⟩] ⟨195, 153⟩)).state.board.wires.toList =
          [⟨0, ⟨1, 1⟩⟩] := by
  have hreach : switchAndUnit.board.Reachable := Board.Reachable.run (.empty 0) _
  have hidle : switchAndUnit.gesture = .idle := by decide +kernel
  have hhit : ((switchAndUnit.board.node? 0).bind fun n => n.regionAt? ⟨96, 70⟩) =
      some .output := by
    decide +kernel
  have hclear : ((switchAndUnit.board.node? 1).bind fun n => n.regionAt? ⟨96, 70⟩) = none := by
    decide +kernel
  have hsize : switchAndUnit.board.size = 2 := by decide +kernel
  obtain ⟨n, hn, hr⟩ := Option.bind_eq_some_iff.1 hhit
  have hstroke := (stroke_atomic hreach hidle ⟨96, 70⟩ [⟨150, 90⟩, ⟨190, 150⟩] ⟨195, 153⟩).2.2.1
    0 n .output hn hr fun j m hj hm => by
      have hlt : j < switchAndUnit.board.size := Board.lt_size_of_node? hm
      rw [hsize] at hlt
      obtain rfl : j = 1 := Nat.le_antisymm (Nat.le_of_lt_succ hlt) hj
      rw [hm] at hclear
      exact hclear
  exact ⟨hreach, hidle, ⟨n, hn, hr, hstroke⟩, by decide +kernel⟩

end Workbench

end SignalBoard
