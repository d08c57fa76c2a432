import SignalBoard.Proofs.Undoing

/-! # A wire is dropped and cut at one point

The end of a wire and a secondary press look for an input under the pointer in different ways: the
first takes the lowest node with an input there and looks at nothing else, the second begins with
the topmost node and with all that lies over the inputs.  An input that is `Board.Exposed` is found
by both, whatever lies below it.  Dropping a wire in it and pressing the secondary button at the
same point then comes to freeing the input (`Workbench.cut_after_drop`). -/

namespace SignalBoard

set_option autoImplicit false

/-! ## Regions of a node that is wired -/

namespace Node

/-- Where neither a button nor the output lies, the region is the input. -/
theorem regionAt?_of_inputAt? {n : Node} {pos : Point} {index : Nat}
    (hbutton : n.buttonAt? pos = none) (houtput : n.pins.outputContains pos = false)
    (hinput : n.pins.inputAt? pos = some index) : n.regionAt? pos = some (.input index) := by
  have hpin : n.pinAt? pos = some (.input index) := by
    rw [pinAt?, houtput, hinput]
    rfl
  rw [regionAt?, hbutton, hpin]
  rfl

theorem buttonAt?_eq_none {n : Node} {pos : Point}
    (h : ∀ p, n.device = .perceptron p → (Perceptron.growRect n.bounds).contains pos = false ∧
      (Perceptron.shrinkRect n.bounds).contains pos = false) : n.buttonAt? pos = none := by
  unfold buttonAt?
  cases hd : n.device with
  | switch s => rfl
  | light l => rfl
  | perceptron p =>
    obtain ⟨hgrow, hshrink⟩ := h p hd
    simp only [hgrow, hshrink, Bool.false_eq_true, if_false]

theorem buttonAt?_plug (n : Node) (index : Nat) (source : Option NodeId) (pos : Point) :
    (n.plug index source).buttonAt? pos = n.buttonAt? pos := by
  unfold buttonAt? plug mapDevice
  cases n.device with
  | switch s => rfl
  | perceptron p => rfl
  | light l =>
    cases index with
    | zero => rfl
    | succ index => rfl

end Node

namespace Board

/-- At `pos` nothing lies over the input: no node above, and of its own node neither the output nor
a button. -/
structure Exposed (b : Board) (socket : Socket) (pos : Point) : Prop where
  top : ∀ j n, socket.node < j → b.node? j = some n → n.regionAt? pos = none
  output : ∀ n, b.node? socket.node = some n → n.pins.outputContains pos = false
  buttons : ∀ n p, b.node? socket.node = some n → n.device = .perceptron p →
    (Perceptron.growRect n.bounds).contains pos = false ∧
      (Perceptron.shrinkRect n.bounds).contains pos = false

theorem node?_attach (b : Board) (source : NodeId) (socket : Socket) (j : NodeId) :
    (b.attach source socket).node? j =
      if j = socket.node then (b.node? j).map (Node.plug socket.index (some source))
      else b.node? j :=
  b.node?_modifyNode socket.node _ j

theorem Exposed.region_attach {b : Board} {socket : Socket} {pos : Point}
    (h : b.Exposed socket pos) (hplaced : b.Placed) (hsocket : b.socketAt? pos = some socket)
    (source : NodeId) :
    ∃ n, (b.attach source socket).node? socket.node = some n ∧
      n.regionAt? pos = some (.input socket.index) := by
  obtain ⟨n, hn, hinput⟩ := hplaced.node?_of_socketAt? hsocket
  refine ⟨n.plug socket.index (some source), ?_, ?_⟩
  · rw [node?_attach, if_pos rfl, hn, Option.map_some]
  · refine Node.regionAt?_of_inputAt? ?_ (h.output n hn) hinput
    rw [Node.buttonAt?_plug]
    exact Node.buttonAt?_eq_none fun p => h.buttons n p hn

/-- A wire that is attached leaves no trace when its socket is freed. -/
theorem detach_attach (b : Board) (source : NodeId) (socket : Socket) :
    (b.attach source socket).detach socket = b.detach socket := by
  have hwires : (b.wires.insert ⟨source, socket⟩).erase socket = b.wires.erase socket :=
    WireTable.ext (b.wires.filter_insert ⟨source, socket⟩)
  show Board.mk ((b.plug socket (some source)).plug socket none).nodes
    ((b.wires.insert ⟨source, socket⟩).erase socket) b.sampler = b.detach socket
  rw [nodes_plug_plug, hwires]
  rfl

/-- Freeing an input that is free changes nothing. -/
theorem Wired.detach_of_free {b : Board} (h : Wired b) {socket : Socket}
    (hfree : b.slot? socket = some none) : b.detach socket = b := by
  have hwires : b.wires.erase socket = b.wires :=
    WireTable.ext (WireTable.filter_of_free (h.get?_of_slot? hfree))
  show Board.mk (b.plug socket none).nodes (b.wires.erase socket) b.sampler = b
  rw [nodes_plug_of_slot? hfree, hwires]

end Board

namespace Workbench

/-! ## The drop -/

/-- The release of any button over an input connects the wire to it. -/
theorem Coherent.handle_release_of_socket {w : Workbench} (h : w.Coherent)
    (hplaced : w.board.Placed) {source : NodeId} {start pos : Point} {socket : Socket}
    (hg : w.gesture = .wiring source start) (hsocket : w.board.socketAt? pos = some socket)
    (button : Button) :
    (∃ held, w.board.checkWire source socket = .ok held) ∧
      (w.handle (.release button pos)).answer = .handled ∧
      (w.handle (.release button pos)).state = ⟨w.board.attach source socket, .idle, pos⟩ := by
  have hcoherent : (w.pointAt pos).Coherent := h
  obtain ⟨held, hcheck, hfinish⟩ :=
    hcoherent.finishWiring_of_socket (w := w.pointAt pos) hplaced hg hsocket
  have hrelease : (w.pointAt pos).release button pos =
      ((w.pointAt pos).finishWiring pos).mapAnswer fun _ => true := by
    unfold Workbench.release
    have hg' : (w.pointAt pos).gesture = .wiring source start := hg
    rw [hg']
  rw [Workbench.handle, hrelease, hfinish]
  exact ⟨⟨held, hcheck⟩, rfl, rfl⟩

/-! ## The cut -/

/-- A secondary press on an input that is the topmost region under the pointer frees it. -/
theorem handle_secondary_of_input {w : Workbench} {pos : Point} {socket : Socket} {n : Node}
    (hn : w.board.node? socket.node = some n)
    (hregion : n.regionAt? pos = some (.input socket.index))
    (htop : ∀ j m, socket.node < j → w.board.node? j = some m → m.regionAt? pos = none) :
    (w.handle (.press .secondary pos)).answer = .handled ∧
      (w.handle (.press .secondary pos)).state =
        ⟨w.board.detach socket, w.gesture, pos⟩ := by
  have hacc : (w.pointAt pos).Accepts .secondary pos socket.node := ⟨n, _, hn, hregion, trivial⟩
  have hnone (j : NodeId) (hj : socket.node < j) : ¬ (w.pointAt pos).Accepts .secondary pos j := by
    rintro ⟨m, region, hm, hr, -⟩
    rw [htop j m hj hm] at hr
    cases hr
  have hoffer : (w.pointAt pos).offer .secondary pos socket.node =
      ((w.pointAt pos).removeWire socket).mapAnswer fun _ => true := by
    have hn' : (w.pointAt pos).board.node? socket.node = some n := hn
    rw [offer, hn', Option.bind_some, hregion]
    rfl
  rw [handle, press_of_topmost hacc hnone, hoffer]
  exact ⟨rfl, rfl⟩

/-- A wire that is dropped in an exposed input by the release of any button, and a secondary press
at the same point, are both handled: the first wires that input, the second frees it, and all that
is left of the two is that the input is free.  If it was free before, the board is as it was. -/
theorem cut_after_drop {w : Workbench} (hreach : w.board.Reachable) (hidle : w.gesture = .idle)
    (commands : List Command) {source : NodeId} {start pos : Point} {socket : Socket}
    (hg : (w.run commands).gesture = .wiring source start)
    (hsocket : (w.run commands).board.socketAt? pos = some socket)
    (hexposed : (w.run commands).board.Exposed socket pos) (button : Button) :
    let b := (w.run commands).board
    let dropped := (w.run commands).handle (.release button pos)
    let cut := dropped.state.handle (.press .secondary pos)
    dropped.answer = .handled ∧ dropped.state.gesture = .idle ∧
      dropped.state.board.slot? socket = some (some source) ∧
      b.Rewired dropped.state.board socket (some source) ∧
      cut.answer = .handled ∧ cut.state.gesture = .idle ∧
      cut.state.board.slot? socket = some none ∧
      cut.state.board.wires = b.wires.erase socket ∧
      b.Rewired cut.state.board socket none ∧
      (b.slot? socket = some none → cut.state.board = b) := by
  have hcoherent : (w.run commands).Coherent := (coherent_of_idle hidle).run hreach commands
  have hreach' : (w.run commands).board.Reachable := hreach.run commands
  generalize w.run commands = v at hg hsocket hexposed hcoherent hreach'
  intro b dropped cut
  obtain ⟨⟨held, hcheck⟩, hanswer, hstate⟩ :=
    hcoherent.handle_release_of_socket hreach'.placed hg hsocket button
  -- the drop changes what is wired to a node, and so none of the regions
  obtain ⟨n, hn, hregion⟩ := hexposed.region_attach hreach'.placed hsocket source
  have htop (j : NodeId) (m : Node) (hj : socket.node < j)
      (hm : (v.board.attach source socket).node? j = some m) : m.regionAt? pos = none := by
    rw [Board.node?_attach, if_neg (Nat.ne_of_gt hj)] at hm
    exact hexposed.top j m hj hm
  obtain ⟨hcutAnswer, hcutState⟩ := handle_secondary_of_input
    (w := ⟨v.board.attach source socket, .idle, pos⟩) hn hregion htop
  rw [Board.detach_attach] at hcutState
  rw [← hstate] at hcutAnswer hcutState
  have hfreed : (v.board.detach socket).slot? socket = some none := by
    rw [(v.board.rewired_detach socket).slot, (Board.checkWire_ok hcheck).2]
    rfl
  rw [show cut.state = _ from hcutState, show dropped.state = _ from hstate]
  exact ⟨hanswer, rfl, Board.slot?_attach hcheck, v.board.rewired_attach source socket,
    hcutAnswer, rfl, hfreed, rfl, v.board.rewired_detach socket, hreach'.wired.detach_of_free⟩

/-- A wire is being drawn from the output of a perceptron whose first input, which is taken, lies on
the body of a switch. -/
def drawingOverSwitch : Workbench :=
  (ofBoard (.empty 0)).run
    [.addSwitch ⟨170, 100⟩, .addPerceptron ⟨200, 100⟩ 2 (some [1, 1]) (some 0),
      .addLight ⟨600, 100⟩, .connect 0 ⟨1, 0⟩, .connect 1 ⟨2, 0⟩, .beginWiring 1]

theorem drawingOverSwitch_exposed : drawingOverSwitch.board.Exposed ⟨1, 0⟩ ⟨195, 126⟩ where
  top j n hj hn := by
    have hsize : drawingOverSwitch.board.size = 3 := by decide +kernel
    have hlight : ((drawingOverSwitch.board.node? 2).bind (·.regionAt? ⟨195, 126⟩)) = none := by
      decide +kernel
    have hlt : j < 3 := hsize ▸ Board.lt_size_of_node? hn
    obtain rfl : j = 2 := Nat.le_antisymm (Nat.le_of_lt_succ hlt) hj
    rwa [hn] at hlight
  output n hn := by
    have hout : (drawingOverSwitch.board.node? 1).map (·.pins.outputContains ⟨195, 126⟩) =
        some false := by decide +kernel
    rw [hn] at hout
    exact Option.some.inj hout
  buttons n p hn _ := by
    have hgrow : (drawingOverSwitch.board.node? 1).map
        (fun n => (Perceptron.growRect n.bounds).contains ⟨195, 126⟩) = some false := by
      decide +kernel
    have hshrink : (drawingOverSwitch.board.node? 1).map
        (fun n => (Perceptron.shrinkRect n.bounds).contains ⟨195, 126⟩) = some false := by
      decide +kernel
    rw [hn] at hgrow hshrink
    exact ⟨Option.some.inj hgrow, Option.some.inj hshrink⟩

/-- The drop replaces the wire from the switch, and the cut leaves the input free; the switch below
takes no notice. -/
theorem drawingOverSwitch_cut :
    let dropped := drawingOverSwitch.handle (.release .secondary ⟨195, 126⟩)
    let cut := dropped.state.handle (.press .secondary ⟨195, 126⟩)
    drawingOverSwitch.board.Reachable ∧
      drawingOverSwitch.gesture = .wiring 1 ⟨266, 140⟩ ∧
      drawingOverSwitch.board.socketAt? ⟨195, 126⟩ = some ⟨1, 0⟩ ∧
      (drawingOverSwitch.board.node? 0).bind (·.regionAt? ⟨195, 126⟩) = some .toggle ∧
      dropped.state.board.slot? ⟨1, 0⟩ = some (some 1) ∧
      cut.state.board.wires.toList = [⟨1, ⟨2, 0⟩⟩] ∧ cut.state.gesture = .idle := by
  have hgesture : drawingOverSwitch.gesture = .wiring 1 ⟨266, 140⟩ := by decide +kernel
  have hsocket : drawingOverSwitch.board.socketAt? ⟨195, 126⟩ = some ⟨1, 0⟩ := by decide +kernel
  obtain ⟨-, -, hdropped, -, -, hidle, -, hwires, -⟩ :=
    cut_after_drop (w := ofBoard (.empty 0)) (.empty 0) rfl _ hgesture hsocket
      drawingOverSwitch_exposed .secondary
  refine ⟨Board.Reachable.run (.empty 0) _, hgesture, hsocket, ?_, ?_, ?_, ?_⟩
  · decide +kernel
  · unfold drawingOverSwitch
    exact hdropped
  · unfold drawingOverSwitch
    exact (congrArg WireTable.toList hwires).trans (by decide +kernel)
  · unfold drawingOverSwitch
    exact hidle

end Workbench

end SignalBoard
