import SignalBoard.Proofs.Coherence
import SignalBoard.Proofs.Frames
import SignalBoard.Proofs.Mirror

/-! # What is to be seen

The scene is read back from what is painted.  A marker is a ring with a disc in it, and
`Paint.marks` finds the markers in a list of shapes; those of a node are one for each of its inputs,
in order, and one for its output (`Node.Placed.marks_node`).  So the ends of a line can be compared
with the centres of the markers that the nodes have painted, and the fill of a marker with a signal.

The wires that are painted are those of the table, because neither end of a wire of a reachable
board is missing (`Board.Reachable.leads`).  After a tick a marker shows what its wire carries in
`reading`, which for a source that was evaluated before is what the source shows. -/

namespace SignalBoard

set_option autoImplicit false

/-! ## Markers -/

namespace Paint

/-- A marker as it is seen. -/
structure Mark where
  center : Point
  radius : Float32
  fill : Color
  deriving DecidableEq

/-- The marker that two shapes in a row make up: a ring and a disc within it. -/
def mark? : Shape → Shape → Option Mark
  | .circle center radius fill none, .circle center' radius' fill' none =>
    if fill = .outline ∧ center' = center ∧ radius' = radius - 2 then some ⟨center, radius, fill'⟩
    else none
  | _, _ => none

/-- The markers among some shapes, in painting order. -/
def marks : List Shape → List Mark
  | ring :: disc :: rest =>
    match mark? ring disc with
    | some mark => mark :: marks rest
    | none => marks (disc :: rest)
  | _ => []

def markOf (pin : Pin) (value : Bool) : Mark := ⟨pin.position, pin.radius, pinFill value⟩

theorem pinFill_eq_active_iff {value : Bool} : pinFill value = .active ↔ value = true := by
  cases value with
  | false => simp [pinFill, Color.white, Color.active, Color.rgb]
  | true => simp [pinFill]

theorem marks_marker (pin : Pin) (value : Bool) (rest : List Shape) :
    marks (marker pin value ++ rest) = markOf pin value :: marks rest := by
  simp [marker, marks, mark?, markOf]

theorem marks_cons_of_not_ring {shape : Shape} (h : ∀ disc, mark? shape disc = none)
    (rest : List Shape) : marks (shape :: rest) = marks rest := by
  cases rest with
  | nil => rfl
  | cons disc rest => simp only [marks, h]

theorem marks_markers (pins : List Pin) (value : Pin → Bool) (rest : List Shape) :
    marks (pins.flatMap (fun pin => marker pin (value pin)) ++ rest) =
      pins.map (fun pin => markOf pin (value pin)) ++ marks rest := by
  induction pins with
  | nil => rfl
  | cons pin pins ih =>
    rw [List.flatMap_cons, List.append_assoc, marks_marker, ih, List.map_cons, List.cons_append]

theorem marks_box (bounds : Rect) (corner : Float32) (fill outline : Color) (rest : List Shape) :
    marks (box bounds corner fill outline ++ rest) = marks rest :=
  (marks_cons_of_not_ring (fun _ => rfl) _).trans (marks_cons_of_not_ring (fun _ => rfl) rest)

theorem marks_button (bounds : Rect) (label : String) (rest : List Shape) :
    marks (button bounds label ++ rest) = marks rest := by
  rw [button, List.append_assoc, marks_box]
  exact marks_cons_of_not_ring (fun _ => rfl) rest

theorem marks_switch (n : Node) (s : Switch) :
    marks (switch n s) = n.pins.output.toList.map fun pin => markOf pin s.on := by
  have h := marks_markers n.pins.output.toList (fun _ => s.on) []
  rw [List.append_nil] at h
  rw [switch, body, List.append_assoc, marks_box, marks_box, outputMarker, h]
  exact List.append_nil _

theorem marks_perceptron (n : Node) (p : Perceptron) :
    marks (perceptron n p) =
      n.pins.inputs.map (fun pin => markOf pin (p.values[pin.index]?.getD false)) ++
        n.pins.output.toList.map fun pin => markOf pin p.firing := by
  have hbuttons := marks_button (Perceptron.growRect n.bounds) "+"
    (button (Perceptron.shrinkRect n.bounds) "-")
  have hlast := marks_button (Perceptron.shrinkRect n.bounds) "-" []
  rw [List.append_nil] at hlast
  rw [perceptron, List.append_assoc, List.append_assoc, List.append_assoc, body, marks_box,
    inputMarkers, marks_markers, outputMarker, marks_markers, hbuttons, hlast]
  exact congrArg _ (List.append_nil _)

theorem marks_light (n : Node) (l : Light) (hd : n.device = .light l) :
    marks (light n l) = (n.pins.input? 0).toList.map fun pin => markOf pin l.lit := by
  have hbody : bodyColor n.device ≠ .outline := by
    rw [hd]
    cases hlit : l.lit with
    | false => simp [bodyColor, hlit, Color.idle, Color.outline, Color.rgb]
    | true => simp [bodyColor, hlit, Color.lit, Color.outline, Color.rgb]
  have hring : ∀ disc, mark? (.circle n.bounds.center Light.radius (bodyColor n.device) none) disc =
      none := by
    intro disc
    unfold mark?
    split
    · rename_i heq
      cases heq
      rw [if_neg fun h => hbody h.1]
    · rfl
  have h := marks_markers (n.pins.input? 0).toList (fun _ => l.lit) []
  rw [List.append_nil] at h
  rw [light, List.cons_append, List.cons_append, List.nil_append, marks_cons_of_not_ring hring,
    marks_cons_of_not_ring (fun _ => rfl), h]
  exact List.append_nil _

end Paint

/-! ## The markers of a node -/

/-- What the input markers of a device show. -/
def Device.shown : Device → List Bool
  | switch _ => []
  | perceptron p => p.values
  | light l => [l.lit]

theorem Device.shown_settle (old new : NodeId → Bool) (id : NodeId) {d : Device} {index : Nat}
    {held : Option NodeId} (hslot : d.slot? index = some held) :
    (d.settle old new id).shown.getD index false =
      if d.kind = .light then held.elim false new else reading old new id held := by
  unfold slot? at hslot
  cases d with
  | switch s => cases hslot
  | perceptron p =>
    have hheld : p.slots[index]? = some held := hslot
    show (p.slots.map (reading old new id)).getD index false = _
    rw [List.getD_eq_getElem?_getD, List.getElem?_map, hheld]
    rfl
  | light l =>
    cases index with
    | zero =>
      obtain rfl : l.slot = held := Option.some.inj hslot
      rfl
    | succ index => cases hslot

namespace Node

/-- The markers of the inputs of a node, which it paints before that of its output. -/
def inputMarks (n : Node) : List Paint.Mark :=
  (Paint.marks (Paint.node n)).take n.device.sources.length

def outputMark? (n : Node) : Option Paint.Mark :=
  (Paint.marks (Paint.node n))[n.device.sources.length]?

/-- A node paints a marker for each of its inputs, in order, and one for its output. -/
theorem Placed.marks_node {k : NodeId} {n : Node} (h : n.Placed k) :
    Paint.marks (Paint.node n) =
      (n.pins.inputs.mapIdx fun i pin => Paint.markOf pin (n.device.shown.getD i false)) ++
        n.pins.output.toList.map fun pin => Paint.markOf pin (n.output?.getD false) := by
  unfold output?
  cases hd : n.device with
  | switch s =>
    have hinputs : n.pins.inputs = [] := by
      rw [h.pins, hd]
      rfl
    rw [Paint.node, hd, Paint.marks_switch, hinputs]
    rfl
  | perceptron p =>
    rw [Paint.node, hd, Paint.marks_perceptron]
    congr 1
    apply List.ext_getElem?
    intro i
    rw [List.getElem?_map, List.getElem?_mapIdx]
    cases hpin : n.pins.inputs[i]? with
    | none => rfl
    | some pin =>
      rw [h.pins] at hpin
      obtain ⟨-, -, hindex⟩ := layout_input hpin
      rw [Option.map_some, Option.map_some, hindex, List.getD_eq_getElem?_getD]
      rfl
  | light l =>
    have hinput : n.pins.inputs =
        [⟨n.id, .input, 0, ⟨n.bounds.left - Pin.inputRadius, n.bounds.center.y⟩,
          Pin.inputRadius⟩] := by
      rw [h.pins, hd]
      rfl
    have houtput : n.pins.output = none := by
      rw [h.pins, hd]
      rfl
    rw [Paint.node, hd]
    simp only
    rw [Paint.marks_light n l hd, Pins.input?, hinput, houtput]
    rfl

theorem Placed.inputMarks_eq {k : NodeId} {n : Node} (h : n.Placed k) :
    n.inputMarks =
      n.pins.inputs.mapIdx fun i pin => Paint.markOf pin (n.device.shown.getD i false) := by
  rw [inputMarks, h.marks_node, ← h.length_inputs]
  exact List.take_left' List.length_mapIdx

theorem Placed.outputMark?_eq {k : NodeId} {n : Node} (h : n.Placed k) :
    n.outputMark? = n.pins.output.map fun pin => Paint.markOf pin (n.output?.getD false) := by
  rw [outputMark?, h.marks_node, ← h.length_inputs, List.getElem?_append_right (by simp)]
  cases n.pins.output <;> simp

/-- The body of a light is the first thing that it paints. -/
theorem head?_of_light {n : Node} {index : Nat} {held : Option NodeId}
    (hkind : n.device.kind = .light) (hslot : n.device.slot? index = some held) :
    (Paint.node n).head? = some (.circle n.bounds.center Light.radius
      (if n.device.shown.getD index false then .lit else .idle) none) := by
  unfold Device.slot? at hslot
  cases hd : n.device with
  | switch s =>
    rw [hd] at hkind
    cases hkind
  | perceptron p =>
    rw [hd] at hkind
    cases hkind
  | light l =>
    rw [hd] at hslot
    cases index with
    | zero =>
      rw [Paint.node, hd]
      simp only
      rw [Paint.light, hd]
      rfl
    | succ index => cases hslot

/-- A node paints a marker over each of its pins and no other, and the markers of a perceptron's
inputs show what it last read there. -/
structure Marked (n : Node) : Prop where
  count : (Paint.marks (Paint.node n)).length =
    n.device.sources.length + n.device.output?.toList.length
  inputs : n.inputMarks.map Paint.Mark.center = n.pins.inputs.map Pin.position
  output : n.outputMark?.map Paint.Mark.center = n.pins.output.map Pin.position
  perceptron : ∀ p, n.device = .perceptron p → n.inputMarks.length = p.inputCount ∧
    ∀ (i : Nat) (mark : Paint.Mark), n.inputMarks[i]? = some mark →
      (mark.fill = .active ↔ p.values[i]? = some true)

theorem Placed.marked {k : NodeId} {n : Node} (h : n.Placed k) : n.Marked where
  count := by
    have hout : n.pins.output.toList.length = n.device.output?.toList.length := by
      rw [h.pins]
      cases n.device <;> rfl
    rw [h.marks_node, List.length_append, List.length_mapIdx, List.length_map, h.length_inputs,
      hout]
  inputs := by
    apply List.ext_getElem?
    intro i
    rw [h.inputMarks_eq, List.getElem?_map, List.getElem?_mapIdx, Option.map_map,
      List.getElem?_map]
    rfl
  output := by
    rw [h.outputMark?_eq, Option.map_map]
    rfl
  perceptron p hp := by
    have hcount : n.pins.inputs.length = p.inputCount := by
      rw [h.length_inputs, hp]
      rfl
    refine ⟨by rw [h.inputMarks_eq, List.length_mapIdx, hcount], fun i mark hmark => ?_⟩
    rw [h.inputMarks_eq, List.getElem?_mapIdx] at hmark
    obtain ⟨pin, -, rfl⟩ := Option.map_eq_some_iff.1 hmark
    show Paint.pinFill (n.device.shown.getD i false) = .active ↔ _
    rw [Paint.pinFill_eq_active_iff, hp, Device.shown, List.getD_eq_getElem?_getD]
    cases p.values[i]? <;> simp

end Node

namespace Board

/-- The marker that is painted for an input of a board. -/
def inputMark? (b : Board) (socket : Socket) : Option Paint.Mark :=
  (b.node? socket.node).bind fun n => n.inputMarks[socket.index]?

def outputMark? (b : Board) (id : NodeId) : Option Paint.Mark :=
  (b.node? id).bind Node.outputMark?

theorem Placed.outputMark?_of_drives {b : Board} (h : Placed b) {id : NodeId}
    (hdrives : b.drives id = true) :
    ∃ pin, b.outputPosition? id = some pin.position ∧
      b.outputMark? id = some (Paint.markOf pin (b.outputOf id)) := by
  obtain ⟨n, hn, hout⟩ := isSource_iff.2 hdrives
  obtain ⟨pin, hpin⟩ : ∃ pin, n.pins.output = some pin := by
    rw [(h id n hn).pins]
    exact ⟨_, if_pos hout⟩
  refine ⟨pin, ?_, ?_⟩
  · rw [outputPosition?, hn, Option.bind_some, hpin, Option.map_some]
  · rw [outputOf_eq, outputMark?, hn, Option.bind_some, (h id n hn).outputMark?_eq, hpin]
    rfl

theorem Placed.inputMark?_of_slot {b : Board} (h : Placed b) {socket : Socket}
    {held : Option NodeId} (hslot : b.slot? socket = some held) :
    ∃ n pin, b.node? socket.node = some n ∧ n.device.slot? socket.index = some held ∧
      b.socketPosition? socket = some pin.position ∧
      b.inputMark? socket = some (Paint.markOf pin (n.device.shown.getD socket.index false)) := by
  obtain ⟨n, hn, hheld⟩ := Option.bind_eq_some_iff.1 hslot
  obtain ⟨hlt, -⟩ := List.getElem?_eq_some_iff.1 hheld
  rw [← (h socket.node n hn).length_inputs] at hlt
  have hpin : n.pins.inputs[socket.index]? = some n.pins.inputs[socket.index] :=
    List.getElem?_eq_getElem hlt
  refine ⟨n, n.pins.inputs[socket.index], hn, hheld, ?_, ?_⟩
  · rw [socketPosition?, hn, Option.bind_some, Pins.input?, hpin, Option.map_some]
  · rw [inputMark?, hn, Option.bind_some, (h socket.node n hn).inputMarks_eq,
      List.getElem?_mapIdx, hpin, Option.map_some]

/-! ## The wires -/

/-- A line leads from the marker of the source of a wire to the marker of its socket. -/
def Leads (b : Board) (w : Wire) (line : Shape) : Prop :=
  ∃ start finish, b.outputMark? w.source = some start ∧ b.inputMark? w.socket = some finish ∧
    line = .line start.center finish.center ⟨2, .wire⟩

/-- Neither end of a wire is missing. -/
theorem Wired.segment?_of_mem {b : Board} (h : Wired b) (hplaced : Placed b) {w : Wire}
    (hw : w ∈ b.wires.toList) :
    ∃ start finish, b.outputMark? w.source = some start ∧ b.inputMark? w.socket = some finish ∧
      b.segment? w = some (start.center, finish.center) := by
  obtain ⟨out, hout, hstart⟩ := hplaced.outputMark?_of_drives (h.drives_of_mem hw)
  obtain ⟨n, pin, -, -, hpin, hfinish⟩ := hplaced.inputMark?_of_slot (h.slot?_of_mem hw)
  refine ⟨_, _, hstart, hfinish, ?_⟩
  rw [segment?, hout, hpin]
  rfl

theorem Wired.forall₂_leads {b : Board} (h : Wired b) (hplaced : Placed b) {ws : List Wire}
    (hws : ∀ w ∈ ws, w ∈ b.wires.toList) :
    List.Forall₂ b.Leads ws ((ws.filterMap b.segment?).map fun (start, finish) =>
      .line start finish ⟨2, .wire⟩) := by
  induction ws with
  | nil => exact .nil
  | cons w ws ih =>
    obtain ⟨hw, hrest⟩ := List.forall_mem_cons.1 hws
    obtain ⟨start, finish, hstart, hfinish, hsegment⟩ := h.segment?_of_mem hplaced hw
    rw [List.filterMap_cons_some hsegment, List.map_cons]
    exact .cons ⟨start, finish, hstart, hfinish, rfl⟩ (ih hrest)

/-- There is one line for each wire of the table, in its order. -/
theorem Wired.leads {b : Board} (h : Wired b) (hplaced : Placed b) :
    List.Forall₂ b.Leads b.wires.toList (Paint.wires b) :=
  h.forall₂_leads hplaced fun _ hw => hw

/-- The markers at both ends of a wire are filled alike. -/
def EndsMatch (b : Board) (w : Wire) : Prop :=
  ∃ start finish, b.outputMark? w.source = some start ∧ b.inputMark? w.socket = some finish ∧
    start.fill = finish.fill

theorem Wired.endsMatch {b : Board} (h : Wired b) (hplaced : Placed b) {w : Wire}
    (hw : w ∈ b.wires.toList) {n : Node} (hn : b.node? w.socket.node = some n)
    (hshown : n.device.shown.getD w.socket.index false = b.outputOf w.source) : b.EndsMatch w := by
  obtain ⟨out, -, hstart⟩ := hplaced.outputMark?_of_drives (h.drives_of_mem hw)
  obtain ⟨n', pin, hn', -, -, hfinish⟩ := hplaced.inputMark?_of_slot (h.slot?_of_mem hw)
  obtain rfl : n = n' := Option.some.inj (hn.symm.trans hn')
  rw [hshown] at hfinish
  exact ⟨_, _, hstart, hfinish, rfl⟩

/-! ## After a tick -/

/-- What is shown after a tick at the end of a wire. -/
theorem Wired.shown_tick {b : Board} (h : Wired b) {w : Wire} (hw : w ∈ b.wires.toList) {n : Node}
    (hn : b.tick.node? w.socket.node = some n) :
    n.device.shown.getD w.socket.index false =
      if n.device.kind = .light then b.tick.outputOf w.source
      else if w.source < w.socket.node then b.tick.outputOf w.source
      else b.outputOf w.source := by
  rw [node?_tick] at hn
  obtain ⟨m, hm, rfl⟩ := Option.map_eq_some_iff.1 hn
  have hslot : m.device.slot? w.socket.index = some (some w.source) := by
    have hwire := h.slot?_of_mem hw
    rw [slot?, hm, Option.bind_some] at hwire
    exact hwire
  have hkind : (m.mapDevice (Device.settle b.outputOf b.tick.outputOf w.socket.node)).device.kind =
      m.device.kind := m.device.kind_settle _ _ _
  rw [hkind]
  exact Device.shown_settle b.outputOf b.tick.outputOf w.socket.node hslot

theorem outputOf_tick_of_switch {b : Board} {id : NodeId} {n : Node}
    (hn : b.tick.node? id = some n) (hkind : n.device.kind = .switch) :
    b.tick.outputOf id = b.outputOf id := by
  have hother : b.tick.perceptron? id = none := by
    rw [perceptron?, hn, Option.bind_some]
    cases hd : n.device with
    | switch s => rfl
    | light l => rfl
    | perceptron p =>
      rw [hd] at hkind
      cases hkind
  rw [perceptron?_tick, Option.map_eq_none_iff] at hother
  exact outputOf_tick_of_other hother

/-- A light shows its source, and so does a perceptron if the source is a switch or was created
before it. -/
theorem Wired.shown_tick_eq {b : Board} (h : Wired b) {w : Wire} (hw : w ∈ b.wires.toList)
    {n source : Node} (hn : b.tick.node? w.socket.node = some n)
    (hsource : b.tick.node? w.source = some source)
    (hend : n.device.kind = .light ∨ source.device.kind = .switch ∨ w.source < w.socket.node) :
    n.device.shown.getD w.socket.index false = b.tick.outputOf w.source := by
  rw [h.shown_tick hw hn]
  by_cases hlight : n.device.kind = .light
  · rw [if_pos hlight]
  · rw [if_neg hlight]
    by_cases hlt : w.source < w.socket.node
    · rw [if_pos hlt]
    · have hswitch : source.device.kind = .switch := (hend.resolve_left hlight).resolve_right hlt
      rw [if_neg hlt, outputOf_tick_of_switch hsource hswitch]

/-- After a tick the signals are shown faithfully. -/
theorem Reachable.faithful_tick {b : Board} (h : Reachable b) {w : Wire}
    (hw : w ∈ b.tick.wires.toList) :
    ∃ source target, b.tick.node? w.source = some source ∧
      b.tick.node? w.socket.node = some target ∧
      (target.device.kind = .light →
        b.tick.EndsMatch w ∧
          (Paint.node target).head? = some (.circle target.bounds.center Light.radius
            (if b.tick.outputOf w.source then .lit else .idle) none)) ∧
      (target.device.kind = .perceptron →
        source.device.kind = .switch ∨ w.source < w.socket.node → b.tick.EndsMatch w) := by
  have hwired : b.tick.Wired := h.wired.edit .tick
  obtain ⟨source, hsource, -⟩ := isSource_iff.2 (hwired.drives_of_mem hw)
  obtain ⟨target, htarget, hslot⟩ := Option.bind_eq_some_iff.1 (hwired.slot?_of_mem hw)
  have hshown := h.wired.shown_tick_eq hw htarget hsource
  refine ⟨source, target, hsource, htarget, fun hkind => ⟨?_, ?_⟩, fun _ hbefore => ?_⟩
  · exact hwired.endsMatch h.placed.tick hw htarget (hshown (.inl hkind))
  · rw [Node.head?_of_light hkind hslot, hshown (.inl hkind)]
  · exact hwired.endsMatch h.placed.tick hw htarget (hshown (.inr hbefore))

end Board

/-! ## The whole scene -/

namespace Workbench

/-- What there is to be painted of the wire that is being drawn: a line from the marker of its
source to the pointer, or nothing. -/
inductive Pends (w : Workbench) : List Shape → Prop
  | none (hnot : w.gesture.isWiring = false) : Pends w []
  | line (source : NodeId) (start : Point) (mark : Paint.Mark)
      (hg : w.gesture = .wiring source start) (hmark : w.board.outputMark? source = some mark) :
      Pends w [.line mark.center w.pointer ⟨2, .pendingWire⟩]

theorem Coherent.pends {w : Workbench} (h : w.Coherent) (hplaced : w.board.Placed) :
    w.Pends (Paint.pendingWire w) := by
  unfold Paint.pendingWire pendingWire?
  cases hg : w.gesture with
  | idle => exact .none (by rw [hg]; rfl)
  | dragging id grip => exact .none (by rw [hg]; rfl)
  | wiring source start =>
    have hstart := h.start hg
    obtain ⟨pin, hpin, hmark⟩ :=
      hplaced.outputMark?_of_drives (hplaced.drives_of_outputPosition? hstart)
    obtain rfl : start = pin.position := Option.some.inj (hstart.symm.trans hpin)
    exact .line source pin.position _ hg hmark

/-- What is painted at any time: the ground, a line for each wire of the table in its order, from
marker to marker, the wire that is being drawn, and the nodes in the order of their names, with a
marker for each pin.  After a frame of any events the markers at both ends of a wire are filled
alike if it ends in a light, which is lit just when the source is on, or in a perceptron and starts
at a switch or at a node created before that perceptron. -/
theorem scene_faithful {w : Workbench} (hreach : w.board.Reachable) (hidle : w.gesture = .idle)
    (commands : List Command) :
    let v := w.run commands
    (∀ area, ∃ lines pending,
        Paint.scene area v =
          .rect area 0 .background none ::
            (lines ++ pending ++ v.board.nodes.flatMap Paint.node) ∧
        List.Forall₂ v.board.Leads v.board.wires.toList lines ∧ v.Pends pending) ∧
      v.board.nodes.map Node.id = List.range v.board.size ∧
      (∀ n ∈ v.board.nodes, n.Marked) ∧
      ∀ ticks events, let b := (Editor.step ⟨v, ticks⟩ events).state.bench.board
        ∀ wire ∈ b.wires.toList, ∃ source target,
          b.node? wire.source = some source ∧ b.node? wire.socket.node = some target ∧
          (target.device.kind = .light →
            b.EndsMatch wire ∧
              (Paint.node target).head? = some (.circle target.bounds.center Light.radius
                (if b.outputOf wire.source then .lit else .idle) none)) ∧
          (target.device.kind = .perceptron →
            source.device.kind = .switch ∨ wire.source < wire.socket.node → b.EndsMatch wire) := by
  intro v
  have h : v.Coherent := (coherent_of_idle hidle).run hreach commands
  have hreach' : v.board.Reachable := hreach.run commands
  refine ⟨fun area => ⟨_, _, rfl, hreach'.wired.leads hreach'.placed, h.pends hreach'.placed⟩,
    hreach'.placed.map_id, fun n hn => ?_, fun ticks events => ?_⟩
  · obtain ⟨k, hk⟩ := List.mem_iff_getElem?.1 hn
    exact (hreach'.placed k n hk).marked
  · exact fun wire hw => (reachable_handleAll hreach' events).faithful_tick hw

/-- A switch drives a perceptron that drives a light, and a wire is being drawn from the switch. -/
def drivenLight : List Command :=
  [.addSwitch ⟨50, 50⟩, .addPerceptron ⟨200, 100⟩ 1 (some [1]) (some (-0.5)),
    .addLight ⟨600, 100⟩, .connect 0 ⟨1, 0⟩, .connect 1 ⟨2, 0⟩,
    .handle (.press .primary ⟨96, 70⟩)]

/-- The wire is dropped and the switch flipped. -/
def switchedOn : List Event :=
  [.release .secondary ⟨0, 0⟩, .press .primary ⟨70, 70⟩, .release .primary ⟨70, 70⟩]

/-- Two wires and the one being drawn are painted, and in the frame that flips the switch all of its
signal arrives: the light is lit and shows what the perceptron shows. -/
theorem drivenLight_painted :
    let v := (ofBoard (.empty 0)).run drivenLight
    let b := (Editor.step ⟨v, 0⟩ switchedOn).state.bench.board
    (Board.empty 0).Reachable ∧
      (∃ first second mark, v.board.outputMark? 0 = some mark ∧
        Paint.scene ⟨⟨0, 0⟩, ⟨800, 600⟩⟩ v =
          .rect ⟨⟨0, 0⟩, ⟨800, 600⟩⟩ 0 .background none :: first :: second ::
            .line mark.center ⟨96, 70⟩ ⟨2, .pendingWire⟩ :: v.board.nodes.flatMap Paint.node) ∧
      b.outputOf 1 = true ∧ b.EndsMatch ⟨1, ⟨2, 0⟩⟩ := by
  dsimp only
  have hreach : (ofBoard (.empty 0)).board.Reachable := .empty 0
  obtain ⟨hscene, -, -, hframe⟩ := scene_faithful hreach rfl drivenLight
  obtain ⟨lines, pending, hpaint, hlines, hpending⟩ := hscene ⟨⟨0, 0⟩, ⟨800, 600⟩⟩
  have hlight := hframe 0 switchedOn ⟨1, ⟨2, 0⟩⟩ (by decide +kernel)
  have hon : (Editor.step ⟨(ofBoard (.empty 0)).run drivenLight, 0⟩
      switchedOn).state.bench.board.outputOf 1 = true := by decide +kernel
  have hkind : ((Editor.step ⟨(ofBoard (.empty 0)).run drivenLight, 0⟩
      switchedOn).state.bench.board.node? 2).map (fun n => n.device.kind) = some .light := by
    decide +kernel
  generalize (Editor.step ⟨(ofBoard (.empty 0)).run drivenLight, 0⟩
    switchedOn).state.bench.board = b at hlight hon hkind ⊢
  have hg : ((ofBoard (.empty 0)).run drivenLight).gesture = .wiring 0 ⟨96, 70⟩ := by
    decide +kernel
  have hpointer : ((ofBoard (.empty 0)).run drivenLight).pointer = ⟨96, 70⟩ := by decide +kernel
  have hwires : ((ofBoard (.empty 0)).run drivenLight).board.wires.toList =
      [⟨0, ⟨1, 0⟩⟩, ⟨1, ⟨2, 0⟩⟩] := by decide +kernel
  generalize (ofBoard (.empty 0)).run drivenLight = v at hpaint hlines hpending hg hpointer hwires ⊢
  refine ⟨hreach, ?_, hon, ?_⟩
  · rw [hwires] at hlines
    rcases hlines with _ | ⟨-, _ | ⟨-, _ | -⟩⟩
    cases hpending with
    | none hnot =>
      rw [hg] at hnot
      cases hnot
    | line source start mark hg' hmark =>
      obtain ⟨rfl, -⟩ := Gesture.wiring.inj (hg.symm.trans hg')
      rw [hpointer] at hpaint
      exact ⟨_, _, mark, hmark, hpaint⟩
  · obtain ⟨source, target, -, htarget, hend, -⟩ := hlight
    have htarget : b.node? 2 = some target := htarget
    rw [htarget] at hkind
    exact (hend (Option.some.inj hkind)).1

end Workbench

end SignalBoard
