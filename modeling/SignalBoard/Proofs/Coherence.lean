import SignalBoard.Proofs.Layout

/-! # A gesture always fits the board

A gesture names a node of the board and, while a wire is being drawn, remembers where the wire
starts.  `Workbench.Coherent` says that this never goes stale, whatever is asked of the board or of
its one pointer in between: the dragged node exists, and a wire starts at the output that its source
has now.  The reason is that a board keeps its faces but for a drag (`Coherent.of_faces`), and while
a node is being dragged no start is remembered.

So neither of two cases that are provided for ever occurs: a drag of a node that is not there, and a
wire that is refused at its end. -/

namespace SignalBoard

set_option autoImplicit false

/-! ## Sockets under the pointer -/

namespace Board

theorem checkWire_of_drives {b : Board} {source : NodeId} {socket : Socket} {held : Option NodeId}
    (hsource : b.drives source = true) (hslot : b.slot? socket = some held) :
    b.checkWire source socket = .ok held := by
  unfold drives at hsource
  unfold slot? at hslot
  unfold checkWire
  cases hstart : b.node? source with
  | none => rw [hstart] at hsource; cases hsource
  | some start =>
    have hout : start.device.hasOutput = true := by simpa [hstart] using hsource
    obtain ⟨target, htarget, hindex⟩ := Option.bind_eq_some_iff.1 hslot
    simp only [hout, htarget, hindex, if_true]

theorem connect_of_checkWire {b : Board} {source : NodeId} {socket : Socket}
    {held : Option NodeId} (h : b.checkWire source socket = .ok held) :
    b.connect source socket = ⟨b.attach source socket, .ok held,
      replaceNotices socket held ++ [.wireAdded ⟨source, socket⟩]⟩ := by
  unfold connect
  rw [h]

theorem slot?_attach {b : Board} {source : NodeId} {socket : Socket} {held : Option NodeId}
    (h : b.checkWire source socket = .ok held) :
    (b.attach source socket).slot? socket = some (some source) := by
  have hsource := source?_attach h socket
  rw [if_pos rfl] at hsource
  exact Option.join_eq_some_iff.1 hsource

theorem Placed.node?_of_socketAt? {b : Board} (h : Placed b) {pos : Point} {socket : Socket}
    (hsocket : b.socketAt? pos = some socket) :
    ∃ n, b.node? socket.node = some n ∧ n.pins.inputAt? pos = some socket.index := by
  obtain ⟨n, hmem, hn⟩ := List.exists_of_findSome?_eq_some hsocket
  obtain ⟨index, hindex, rfl⟩ := Option.map_eq_some_iff.1 hn
  obtain ⟨k, hk⟩ := List.mem_iff_getElem?.1 hmem
  have hnode : b.node? n.id = some n := (h k n hk).id ▸ hk
  exact ⟨n, hnode, hindex⟩

/-- A socket under the pointer is an input that exists. -/
theorem Placed.slot?_of_socketAt? {b : Board} (h : Placed b) {pos : Point} {socket : Socket}
    (hsocket : b.socketAt? pos = some socket) : ∃ held, b.slot? socket = some held := by
  obtain ⟨n, hn, hindex⟩ := h.node?_of_socketAt? hsocket
  have hlt : socket.index < n.device.sources.length := by
    obtain ⟨hlt, -⟩ := List.findIdx?_eq_some_iff_getElem.1 hindex
    rw [(h socket.node n hn).length_inputs] at hlt
    exact hlt
  refine ⟨n.device.sources[socket.index], ?_⟩
  unfold slot?
  rw [hn, Option.bind_some, Device.slot?, List.getElem?_eq_getElem hlt]

theorem outputPosition?_eq_some_iff {b : Board} {id : NodeId} {start : Point} :
    b.outputPosition? id = some start ↔
      ∃ n pin, b.node? id = some n ∧ n.pins.output = some pin ∧ pin.position = start := by
  unfold outputPosition?
  rw [Option.bind_eq_some_iff]
  refine exists_congr fun n => ?_
  rw [Option.map_eq_some_iff, ← exists_and_left]

theorem Placed.drives_of_outputPosition? {b : Board} (h : Placed b) {id : NodeId} {start : Point}
    (hstart : b.outputPosition? id = some start) : b.drives id = true := by
  obtain ⟨n, pin, hn, hpin, -⟩ := outputPosition?_eq_some_iff.1 hstart
  unfold drives
  rw [hn, Option.any_some]
  rw [(h id n hn).pins, Node.layout] at hpin
  by_cases hout : n.device.hasOutput = true
  · exact hout
  · rw [if_neg hout] at hpin
    cases hpin

end Board

/-! ## Gestures that fit -/

namespace Workbench

/-- The node that the gesture is about exists, and a wire starts where the output of its source lies
now. -/
def Coherent (w : Workbench) : Prop :=
  match w.gesture with
  | .idle => True
  | .dragging id _ => ∃ n, w.board.node? id = some n
  | .wiring source start =>
    ∃ n pin, w.board.node? source = some n ∧ n.pins.output = some pin ∧ pin.position = start

theorem coherent_of_idle {w : Workbench} (h : w.gesture = .idle) : w.Coherent := by
  unfold Coherent
  rw [h]
  trivial

theorem Coherent.dragged {w : Workbench} (h : w.Coherent) {id : NodeId} {grip : Offset}
    (hg : w.gesture = .dragging id grip) : ∃ n, w.board.node? id = some n := by
  unfold Coherent at h
  rw [hg] at h
  exact h

theorem Coherent.start {w : Workbench} (h : w.Coherent) {source : NodeId} {start : Point}
    (hg : w.gesture = .wiring source start) : w.board.outputPosition? source = some start := by
  unfold Coherent at h
  rw [hg] at h
  exact Board.outputPosition?_eq_some_iff.2 h

theorem coherent_of_dragging {w : Workbench} {id : NodeId} {grip : Offset}
    (hg : w.gesture = .dragging id grip) {n : Node} (hn : w.board.node? id = some n) :
    w.Coherent := by
  unfold Coherent
  rw [hg]
  exact ⟨n, hn⟩

theorem coherent_of_wiring {w : Workbench} {source : NodeId} {start : Point}
    (hg : w.gesture = .wiring source start) (h : w.board.outputPosition? source = some start) :
    w.Coherent := by
  unfold Coherent
  rw [hg]
  exact Board.outputPosition?_eq_some_iff.1 h

/-- A gesture goes on fitting a board that keeps its faces. -/
theorem Coherent.of_faces {w w' : Workbench} (h : w.Coherent) (hplaced : w.board.Placed)
    (hplaced' : w'.board.Placed) (hfaces : w.board.faces <+: w'.board.faces)
    (hgesture : w'.gesture = w.gesture) : w'.Coherent := by
  cases hg : w.gesture with
  | idle => exact coherent_of_idle (hgesture.trans hg)
  | dragging id grip =>
    obtain ⟨n, hn⟩ := h.dragged hg
    obtain ⟨n', hn', -⟩ := Board.node?_of_faces hfaces hn
    exact coherent_of_dragging (hgesture.trans hg) hn'
  | wiring source start =>
    have hstart := h.start hg
    rw [hplaced.outputPosition?_eq] at hstart
    obtain ⟨n, hn, hstart⟩ := Option.bind_eq_some_iff.1 hstart
    obtain ⟨n', hn', hface⟩ := Board.node?_of_faces hfaces hn
    refine coherent_of_wiring (hgesture.trans hg) ?_
    rw [hplaced'.outputPosition?_eq, hn', Option.bind_some, hface]
    exact hstart

/-! ## The end of a wire -/

theorem gesture_finishWiring {w : Workbench} {source : NodeId} {start : Point}
    (hg : w.gesture = .wiring source start) (pos : Point) :
    (w.finishWiring pos).state.gesture = .idle := by
  unfold finishWiring
  rw [hg]
  cases w.board.socketAt? pos with
  | none => rfl
  | some socket =>
    simp only
    cases (w.board.connect source socket).answer with
    | error fault => rfl
    | ok held => rfl

theorem finishWiring_of_not_wiring {w : Workbench} (h : w.gesture.isWiring = false) (pos : Point) :
    w.finishWiring pos = .quiet w none := by
  unfold finishWiring
  cases hg : w.gesture with
  | idle => rfl
  | dragging id grip => rfl
  | wiring source start =>
    rw [hg] at h
    cases h

theorem isWiring_finishWiring (w : Workbench) (pos : Point) :
    (w.finishWiring pos).state.gesture.isWiring = false := by
  rcases w.gesture.isWiring_eq_false_or with h | ⟨source, start, hg⟩
  · rw [finishWiring_of_not_wiring h]
    exact h
  · rw [gesture_finishWiring hg]
    rfl

theorem finishWiring_of_free {w : Workbench} {source : NodeId} {start pos : Point}
    (hg : w.gesture = .wiring source start) (hfree : w.board.socketAt? pos = none) :
    w.finishWiring pos = ⟨{ w with gesture := .idle }, none, [.wiringCancelled]⟩ := by
  unfold finishWiring
  rw [hg, hfree]

/-- A wire that ends over an input is connected to it. -/
theorem Coherent.finishWiring_of_socket {w : Workbench} (h : w.Coherent) (hplaced : w.board.Placed)
    {source : NodeId} {start pos : Point} {socket : Socket}
    (hg : w.gesture = .wiring source start) (hsocket : w.board.socketAt? pos = some socket) :
    ∃ held, w.board.checkWire source socket = .ok held ∧
      w.finishWiring pos =
        ⟨{ w with board := w.board.attach source socket, gesture := .idle }, some socket,
          Board.replaceNotices socket held ++ [.wireAdded ⟨source, socket⟩]⟩ := by
  obtain ⟨held, hslot⟩ := hplaced.slot?_of_socketAt? hsocket
  have hcheck : w.board.checkWire source socket = .ok held :=
    Board.checkWire_of_drives (hplaced.drives_of_outputPosition? (h.start hg)) hslot
  refine ⟨held, hcheck, ?_⟩
  unfold finishWiring
  rw [hg, hsocket]
  simp only
  rw [Board.connect_of_checkWire hcheck]
  rfl

theorem Coherent.answer_finishWiring {w : Workbench} (h : w.Coherent) (hplaced : w.board.Placed)
    {source : NodeId} {start : Point} (hg : w.gesture = .wiring source start) (pos : Point) :
    (w.finishWiring pos).answer = w.board.socketAt? pos := by
  cases hsocket : w.board.socketAt? pos with
  | none => rw [finishWiring_of_free hg hsocket]
  | some socket =>
    obtain ⟨held, -, hfinish⟩ := h.finishWiring_of_socket hplaced hg hsocket
    rw [hfinish]

/-! ## One command -/

theorem Coherent.pressed {w after : Workbench} (h : w.Coherent) (hreach : w.board.Reachable)
    (hreach' : after.board.Reachable) {pos : Point} {id : NodeId} {n : Node} {button : Button}
    {region : Node.Region} (hn : w.board.node? id = some n)
    (hpressed : w.Pressed pos id n button region after) : after.Coherent := by
  have hkeep (hgesture : after.gesture = w.gesture) : after.Coherent :=
    h.of_faces hreach.placed hreach'.placed (hpressed.faces hn ▸ List.prefix_refl _) hgesture
  cases hpressed with
  | grow => exact hkeep rfl
  | shrink => exact hkeep rfl
  | draw pin hpin hidle =>
    exact coherent_of_wiring rfl (Board.outputPosition?_eq_some_iff.2 ⟨n, pin, hn, hpin, rfl⟩)
  | busy hbusy => exact hkeep rfl
  | input index => exact hkeep rfl
  | flip s hs => exact hkeep rfl
  | drag => exact coherent_of_dragging rfl hn
  | free index => exact hkeep rfl
  | toggle hswitch => exact hkeep rfl
  | body hswitch => exact hkeep rfl

theorem Coherent.press {w : Workbench} (h : w.Coherent) (hreach : w.board.Reachable)
    (button : Button) (pos : Point) : ((w.pointAt pos).press button pos).state.Coherent := by
  -- where the pointer is has no part in whether a gesture fits
  have hpoint : (w.pointAt pos).Coherent := h
  have hreach' : ((w.pointAt pos).press button pos).state.board.Reachable :=
    hreach.obey w.gesture w.pointer (.handle (.press button pos))
  rcases (w.pointAt pos).press_cases button pos with
    hpress | ⟨id, n, region, hn, -, -, hpressed⟩
  · rw [hpress]
    exact hpoint
  · exact hpoint.pressed hreach hreach' hn hpressed

theorem Coherent.finishWiring {w : Workbench} (h : w.Coherent) (pos : Point) :
    (w.finishWiring pos).state.Coherent := by
  rcases w.gesture.isWiring_eq_false_or with hnot | ⟨source, start, hg⟩
  · rw [finishWiring_of_not_wiring hnot]
    exact h
  · exact coherent_of_idle (gesture_finishWiring hg pos)

theorem Coherent.release {w : Workbench} (h : w.Coherent) (button : Button) (pos : Point) :
    (w.release button pos).state.Coherent := by
  have hfinish := h.finishWiring pos
  unfold Workbench.release
  cases hg : w.gesture with
  | idle => exact h
  | wiring source start => exact hfinish
  | dragging id grip =>
    cases button with
    | primary => exact coherent_of_idle rfl
    | secondary => exact h

theorem move_of_dragging {w : Workbench} {id : NodeId} {grip : Offset} {n : Node}
    (hg : w.gesture = .dragging id grip) (hn : w.board.node? id = some n) (pos : Point) :
    w.move pos =
      .quiet (w.withBoard (w.board.modifyNode id fun n => n.moveTo (pos - grip))) true := by
  unfold move
  rw [hg]
  simp only
  rw [hn]

theorem handle_move_of_dragging {w : Workbench} {id : NodeId} {grip : Offset} {n : Node}
    (hg : w.gesture = .dragging id grip) (hn : w.board.node? id = some n) (pos : Point) :
    (w.handle (.move pos)).state =
      (w.pointAt pos).withBoard (w.board.modifyNode id fun n => n.moveTo (pos - grip)) := by
  have hdrag := move_of_dragging (w := w.pointAt pos) hg hn pos
  show ((w.pointAt pos).move pos).state = _
  rw [hdrag]
  rfl

theorem Coherent.move {w : Workbench} (h : w.Coherent) (pos : Point) :
    (w.move pos).state.Coherent := by
  rcases w.gesture.dragged?_eq_none_or with hstill | ⟨id, grip, hg⟩
  · rw [move_of_not_dragging hstill]
    exact h
  · obtain ⟨n, hn⟩ := h.dragged hg
    rw [move_of_dragging hg hn]
    exact coherent_of_dragging hg (Board.node?_modifyNode_self hn _)

theorem Coherent.handle {w : Workbench} (h : w.Coherent) (hreach : w.board.Reachable)
    (event : Event) : (w.handle event).state.Coherent := by
  have hpoint (pos : Point) : (w.pointAt pos).Coherent := h
  cases event with
  | press button pos => exact h.press hreach button pos
  | release button pos => exact (hpoint pos).release button pos
  | move pos => exact (hpoint pos).move pos
  | quit => exact h

theorem Coherent.beginWiring {w : Workbench} (h : w.Coherent) (source : NodeId) :
    (w.beginWiring source).state.Coherent := by
  unfold Workbench.beginWiring
  cases hstart : w.board.outputPosition? source with
  | none => exact h
  | some start => exact coherent_of_wiring rfl hstart

theorem Coherent.obey {w : Workbench} (h : w.Coherent) (hreach : w.board.Reachable)
    (command : Command) : (w.obey command).state.Coherent := by
  have hplaced' := (hreach.obey w.gesture w.pointer command).placed
  have hkeep (hgesture : (w.obey command).state.gesture = w.gesture)
      (hstill : ∀ pos, command ≠ .handle (.move pos)) : (w.obey command).state.Coherent :=
    h.of_faces hreach.placed hplaced' (w.faces_obey (.inr hstill)) hgesture
  cases command with
  | addSwitch corner => exact hkeep rfl (by simp)
  | addLight center => exact hkeep rfl (by simp)
  | addPerceptron corner inputs weights? bias? => exact hkeep rfl (by simp)
  | connect source socket => exact hkeep rfl (by simp)
  | disconnect socket => exact hkeep rfl (by simp)
  | incrementInputs id => exact hkeep rfl (by simp)
  | decrementInputs id => exact hkeep rfl (by simp)
  | tick => exact hkeep rfl (by simp)
  | removeWire socket => exact hkeep rfl (by simp)
  | handle event => exact h.handle hreach event
  | beginWiring source => exact h.beginWiring source
  | finishWiring pos => exact h.finishWiring pos

theorem Coherent.run {w : Workbench} (h : w.Coherent) (hreach : w.board.Reachable)
    (commands : List Command) : (w.run commands).Coherent := by
  induction commands generalizing w with
  | nil => exact h
  | cons command rest ih =>
    exact ih (h.obey hreach command) (hreach.obey w.gesture w.pointer command)

end Workbench

/-! ## Notices

Only the end of a wire can give notice of a refusal, so it is enough that the end of a wire does
not. -/

section Refusals

variable (fault : Fault)

namespace Board

theorem notices_create (requested : Nat) (weights? : Option (List Float32))
    (bias? : Option Float32) (sampler : Sampler) :
    (Perceptron.create requested weights? bias? sampler).notices =
      Perceptron.capNotices requested := by
  unfold Perceptron.create
  cases weights? with
  | none => cases bias? <;> simp
  | some weights => cases bias? <;> simp only <;> split <;> rfl

theorem not_refused_addPerceptron (b : Board) (corner : Point) (inputs : Nat)
    (weights? : Option (List Float32)) (bias? : Option Float32) :
    .wiringRefused fault ∉ (b.addPerceptron corner inputs weights? bias?).notices := by
  have hnotices : (b.addPerceptron corner inputs weights? bias?).notices =
      Perceptron.capNotices inputs := by
    rw [← notices_create inputs weights? bias? b.sampler]
    unfold addPerceptron
    cases hmade : (Perceptron.create inputs weights? bias? b.sampler).answer with
    | error fault => simp only [hmade]
    | ok unit => simp only [hmade]
  rw [hnotices, Perceptron.capNotices]
  split
  · simp
  · exact List.not_mem_nil

theorem not_refused_connect (b : Board) (source : NodeId) (socket : Socket) :
    .wiringRefused fault ∉ (b.connect source socket).notices := by
  unfold connect
  cases b.checkWire source socket with
  | error fault' => exact List.not_mem_nil
  | ok held => cases held <;> simp [replaceNotices]

theorem not_refused_disconnect (b : Board) (socket : Socket) :
    .wiringRefused fault ∉ (b.disconnect socket).notices := by
  unfold disconnect detachNotices
  cases b.source? socket with
  | none => exact List.not_mem_nil
  | some source => by_cases h : b.wires.get? socket = none <;> simp [h]

theorem not_refused_incrementInputs (b : Board) (id : NodeId) :
    .wiringRefused fault ∉ (b.incrementInputs id).notices := by
  unfold incrementInputs
  cases b.perceptron? id with
  | none => exact List.not_mem_nil
  | some p =>
    simp only
    cases p.grow? b.sampler with
    | none => simp
    | some grown => simp

theorem not_refused_decrementInputs (b : Board) (id : NodeId) :
    .wiringRefused fault ∉ (b.decrementInputs id).notices := by
  unfold decrementInputs
  cases b.perceptron? id with
  | none => exact List.not_mem_nil
  | some p =>
    simp only
    cases p.shrink? with
    | none => simp
    | some shrunk =>
      by_cases h : b.dropsWire ⟨id, shrunk.2.index⟩ shrunk.2.source = true <;> simp [h]

theorem not_refused_tick (b : Board) : .wiringRefused fault ∉ b.tickNotices := by
  rw [tickNotices_eq, List.mem_flatMap]
  rintro ⟨p, -, hp⟩
  unfold Perceptron.repairNotices at hp
  split at hp
  · simp at hp
  · exact List.not_mem_nil hp

end Board

namespace Workbench

theorem Coherent.not_refused_finishWiring {w : Workbench} (h : w.Coherent)
    (hplaced : w.board.Placed) (pos : Point) :
    .wiringRefused fault ∉ (w.finishWiring pos).notices := by
  rcases w.gesture.isWiring_eq_false_or with hnot | ⟨source, start, hg⟩
  · rw [finishWiring_of_not_wiring hnot]
    exact List.not_mem_nil
  · cases hsocket : w.board.socketAt? pos with
    | none =>
      rw [finishWiring_of_free hg hsocket]
      simp
    | some socket =>
      obtain ⟨held, -, hfinish⟩ := h.finishWiring_of_socket hplaced hg hsocket
      rw [hfinish]
      cases held <;> simp [Board.replaceNotices]

theorem not_refused_beginWiring (w : Workbench) (source : NodeId) :
    .wiringRefused fault ∉ (w.beginWiring source).notices := by
  unfold beginWiring
  cases w.board.outputPosition? source with
  | none => exact List.not_mem_nil
  | some start => simp

theorem not_refused_removeWire (w : Workbench) (socket : Socket) :
    .wiringRefused fault ∉ (w.removeWire socket).notices := by
  have hfreed := w.board.not_refused_disconnect fault socket
  show _ ∉ (w.board.disconnect socket).notices ++ _
  rw [List.mem_append, not_or]
  refine ⟨hfreed, ?_⟩
  split
  · simp
  · exact List.not_mem_nil

theorem not_refused_primaryPress (w : Workbench) (pos : Point) (id : NodeId)
    (region : Node.Region) : .wiringRefused fault ∉ (w.primaryPress pos id region).notices := by
  cases region with
  | grow => exact w.board.not_refused_incrementInputs fault id
  | shrink => exact w.board.not_refused_decrementInputs fault id
  | input index => exact List.not_mem_nil
  | output =>
    rw [primaryPress]
    split
    · exact w.not_refused_beginWiring fault id
    · exact List.not_mem_nil
  | toggle =>
    rw [primaryPress]
    split
    · exact List.not_mem_nil
    · simp [flipSwitch]
  | body =>
    rw [primaryPress]
    split
    · unfold beginDrag
      cases w.board.node? id with
      | none => exact List.not_mem_nil
      | some n => simp
    · exact List.not_mem_nil

theorem not_refused_offer (w : Workbench) (button : Button) (pos : Point) (id : NodeId) :
    .wiringRefused fault ∉ (w.offer button pos id).notices := by
  unfold offer
  cases (w.board.node? id).bind fun n => n.regionAt? pos with
  | none => exact List.not_mem_nil
  | some region =>
    cases button with
    | primary => exact w.not_refused_primaryPress fault pos id region
    | secondary =>
      cases region with
      | input index => exact w.not_refused_removeWire fault ⟨id, index⟩
      | grow => exact List.not_mem_nil
      | shrink => exact List.not_mem_nil
      | output => exact List.not_mem_nil
      | toggle => exact List.not_mem_nil
      | body => exact List.not_mem_nil

theorem not_refused_press (w : Workbench) (button : Button) (pos : Point) :
    .wiringRefused fault ∉ (w.press button pos).notices := by
  unfold press
  rcases offerBelow_cases w button pos w.board.size with ⟨-, hscan⟩ | ⟨id, -, -, -, hscan⟩
  · rw [hscan]
    exact List.not_mem_nil
  · rw [hscan]
    exact w.not_refused_offer fault button pos id

theorem Coherent.not_refused_release {w : Workbench} (h : w.Coherent) (hplaced : w.board.Placed)
    (button : Button) (pos : Point) : .wiringRefused fault ∉ (w.release button pos).notices := by
  have hfinish := h.not_refused_finishWiring fault hplaced pos
  unfold Workbench.release
  cases w.gesture with
  | idle => exact List.not_mem_nil
  | wiring source start => exact hfinish
  | dragging id grip =>
    cases button with
    | primary => simp
    | secondary => exact List.not_mem_nil

theorem not_refused_move (w : Workbench) (pos : Point) :
    .wiringRefused fault ∉ (w.move pos).notices := by
  unfold Workbench.move
  cases w.gesture with
  | idle => exact List.not_mem_nil
  | wiring source start => exact List.not_mem_nil
  | dragging id grip =>
    simp only
    cases w.board.node? id with
    | none => exact List.not_mem_nil
    | some n => exact List.not_mem_nil

theorem Coherent.not_refused {w : Workbench} (h : w.Coherent) (hplaced : w.board.Placed)
    (command : Command) : .wiringRefused fault ∉ (w.obey command).notices := by
  cases command with
  | addSwitch corner => exact List.not_mem_nil
  | addLight center => exact List.not_mem_nil
  | addPerceptron corner inputs weights? bias? =>
    exact w.board.not_refused_addPerceptron fault corner inputs weights? bias?
  | connect source socket => exact w.board.not_refused_connect fault source socket
  | disconnect socket => exact w.board.not_refused_disconnect fault socket
  | incrementInputs id => exact w.board.not_refused_incrementInputs fault id
  | decrementInputs id => exact w.board.not_refused_decrementInputs fault id
  | tick => exact w.board.not_refused_tick fault
  | beginWiring source => exact w.not_refused_beginWiring fault source
  | finishWiring pos => exact h.not_refused_finishWiring fault hplaced pos
  | removeWire socket => exact w.not_refused_removeWire fault socket
  | handle event =>
    have hpoint (pos : Point) : (w.pointAt pos).Coherent := h
    cases event with
    | press button pos => exact (w.pointAt pos).not_refused_press fault button pos
    | release button pos => exact (hpoint pos).not_refused_release fault hplaced button pos
    | move pos => exact (w.pointAt pos).not_refused_move fault pos
    | quit => exact List.not_mem_nil

end Workbench

end Refusals

/-! ## Runs -/

namespace Workbench

/-- After any commands the gesture fits the board.  So a move that drags finds its node, and a wire
that is being drawn is connected whenever it ends over an input; the pointer is never drawing after
the end of a wire, and no command gives notice of a refused wire. -/
theorem run_coherent {w : Workbench} (hreach : w.board.Reachable) (hidle : w.gesture = .idle)
    (commands : List Command) :
    (w.run commands).Coherent ∧
      (∀ id grip pos, (w.run commands).gesture = .dragging id grip →
        (∃ n, (w.run commands).board.node? id = some n) ∧
          ((w.run commands).move pos).answer = true ∧
          ((w.run commands).move pos).state.gesture = .dragging id grip) ∧
      (∀ source start pos, (w.run commands).gesture = .wiring source start →
        (∀ socket, (w.run commands).board.socketAt? pos = some socket →
          ∃ held, ((w.run commands).board.connect source socket).answer = .ok held) ∧
        ∀ socket, ((w.run commands).finishWiring pos).answer = some socket ↔
          (w.run commands).board.socketAt? pos = some socket) ∧
      (∀ source start pos socket, (w.run commands).gesture = .wiring source start →
        ((w.run commands).finishWiring pos).answer = some socket →
        ((w.run commands).finishWiring pos).state.board.slot? socket = some (some source)) ∧
      (∀ pos, ((w.run commands).finishWiring pos).state.gesture.isWiring = false) ∧
      ∀ command fault, .wiringRefused fault ∉ ((w.run commands).obey command).notices := by
  have h : (w.run commands).Coherent := (coherent_of_idle hidle).run hreach commands
  have hplaced : (w.run commands).board.Placed := (hreach.run commands).placed
  generalize w.run commands = v at h hplaced
  refine ⟨h, fun id grip pos hg => ?_, fun source start pos hg => ⟨fun socket hsocket => ?_, ?_⟩,
    fun source start pos socket hg hanswer => ?_, v.isWiring_finishWiring,
    fun command fault => h.not_refused fault hplaced command⟩
  · obtain ⟨n, hn⟩ := h.dragged hg
    rw [move_of_dragging hg hn]
    exact ⟨⟨n, hn⟩, rfl, hg⟩
  · obtain ⟨held, hcheck, -⟩ := h.finishWiring_of_socket hplaced hg hsocket
    exact ⟨held, by rw [Board.connect_of_checkWire hcheck]⟩
  · intro socket
    rw [h.answer_finishWiring hplaced hg]
  · rw [h.answer_finishWiring hplaced hg] at hanswer
    obtain ⟨held, hcheck, hfinish⟩ := h.finishWiring_of_socket hplaced hg hanswer
    rw [hfinish]
    exact Board.slot?_attach hcheck

/-- A perceptron is dragged, a wire is begun at it in the middle of the drag, and it gets a third
input while the wire is being drawn. -/
def wireBegunInDrag : List Command :=
  [.addSwitch ⟨50, 50⟩, .addPerceptron ⟨200, 100⟩ 2 (some [1, 1]) (some 0),
    .handle (.press .primary ⟨230, 140⟩), .handle (.move ⟨330, 160⟩), .beginWiring 1,
    .incrementInputs 1, .tick]

/-- The wire starts at the output of the perceptron and can be led back to its second input. -/
theorem wireBegunInDrag_coherent :
    let w := (ofBoard (.empty 0)).run wireBegunInDrag
    (Board.empty 0).Reachable ∧ w.gesture = .wiring 1 ⟨366, 160⟩ ∧ w.Coherent ∧
      (w.finishWiring ⟨295, 160⟩).answer = some ⟨1, 1⟩ ∧
      (w.finishWiring ⟨295, 160⟩).state.board.slot? ⟨1, 1⟩ = some (some 1) := by
  have hreach : (ofBoard (.empty 0)).board.Reachable := .empty 0
  have hg : ((ofBoard (.empty 0)).run wireBegunInDrag).gesture = .wiring 1 ⟨366, 160⟩ := by
    decide +kernel
  have hsocket : ((ofBoard (.empty 0)).run wireBegunInDrag).board.socketAt? ⟨295, 160⟩ =
      some ⟨1, 1⟩ := by
    decide +kernel
  obtain ⟨hcoherent, -, hend, hslot, -⟩ := run_coherent hreach rfl wireBegunInDrag
  have hanswer := ((hend 1 _ ⟨295, 160⟩ hg).2 ⟨1, 1⟩).2 hsocket
  exact ⟨hreach, hg, hcoherent, hanswer, hslot 1 _ _ _ hg hanswer⟩

end Workbench

end SignalBoard
