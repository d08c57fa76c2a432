import SignalBoard.Proofs.Faces
import SignalBoard.Proofs.Shape

/-! # The layout of the pins

A node remembers its pins, and they have to be laid out anew whenever its bounds or the number of
its inputs change.  `Board.Placed` says that on a board every node is named by its place and that
nothing was forgotten: the pins are the ones that a new layout would give.  Since a layout depends
only on the kind of the device and on the number of its inputs (`Node.layout_congr`), wiring,
flipping and ticking cannot outdate it, and everything else lays the pins out again.

Together with the shape of perceptrons this is the shape of a whole board (`Node.Regular`). -/

namespace SignalBoard

set_option autoImplicit false

/-! ## What a layout depends on -/

theorem Device.length_sources_wire (d : Device) (index : Nat) (source : Option NodeId) :
    (d.wire index source).sources.length = d.sources.length := by
  rw [sources_wire, List.length_set]

theorem Device.hasOutput_eq (d : Device) : d.hasOutput = decide (d.kind ≠ .light) := by
  cases d <;> rfl

namespace Node

theorem length_inputPositions (bounds : Rect) (d : Device) :
    (inputPositions bounds d).length = d.sources.length := by
  cases d with
  | switch s => rfl
  | light l => rfl
  | perceptron p =>
    unfold inputPositions
    rw [List.length_map, List.length_range]
    rfl

theorem inputPositions_congr (bounds : Rect) {d d' : Device} (hkind : d'.kind = d.kind)
    (hcount : d'.sources.length = d.sources.length) :
    inputPositions bounds d' = inputPositions bounds d := by
  cases d with
  | switch s =>
    cases d' with
    | switch s' => rfl
    | perceptron p => cases hkind
    | light l => cases hkind
  | light l =>
    cases d' with
    | switch s => cases hkind
    | perceptron p => cases hkind
    | light l' => rfl
  | perceptron p =>
    cases d' with
    | switch s => cases hkind
    | light l => cases hkind
    | perceptron q =>
      have h : q.inputCount = p.inputCount := hcount
      simp only [inputPositions, h]

theorem layout_congr (id : NodeId) (bounds : Rect) {d d' : Device} (hkind : d'.kind = d.kind)
    (hcount : d'.sources.length = d.sources.length) :
    layout id bounds d' = layout id bounds d := by
  unfold layout
  rw [inputPositions_congr bounds hkind hcount, d'.hasOutput_eq, d.hasOutput_eq, hkind]

theorem length_layout_inputs (id : NodeId) (bounds : Rect) (d : Device) :
    (layout id bounds d).inputs.length = d.sources.length :=
  List.length_mapIdx.trans (length_inputPositions bounds d)

theorem layout_input {id : NodeId} {bounds : Rect} {d : Device} {index : Nat} {pin : Pin}
    (h : (layout id bounds d).inputs[index]? = some pin) :
    pin.owner = id ∧ pin.side = .input ∧ pin.index = index := by
  unfold layout at h
  rw [List.getElem?_mapIdx] at h
  obtain ⟨position, -, rfl⟩ := Option.map_eq_some_iff.1 h
  exact ⟨rfl, rfl, rfl⟩

theorem layout_output (id : NodeId) (bounds : Rect) (d : Device) :
    (layout id bounds d).output.map Pin.position =
      if d.kind ≠ .light then some (outputPosition bounds) else none := by
  unfold layout
  rw [d.hasOutput_eq]
  cases d <;> rfl

/-! ## Nodes in their places -/

/-- Node number `k` has that name, and its pins are laid out as they should be. -/
structure Placed (k : NodeId) (n : Node) : Prop where
  id : n.id = k
  pins : n.pins = layout n.id n.bounds n.device

theorem Placed.length_inputs {k : NodeId} {n : Node} (h : n.Placed k) :
    n.pins.inputs.length = n.device.sources.length := by
  rw [h.pins, length_layout_inputs]

theorem placed_make (k : NodeId) (bounds : Rect) (d : Device) : (make k bounds d).Placed k :=
  ⟨rfl, rfl⟩

theorem placed_refresh {k : NodeId} {n : Node} (h : n.id = k) : n.refresh.Placed k := ⟨h, rfl⟩

theorem Placed.mapDevice {k : NodeId} {n : Node} (h : n.Placed k) {f : Device → Device}
    (hkind : (f n.device).kind = n.device.kind)
    (hcount : (f n.device).sources.length = n.device.sources.length) :
    (n.mapDevice f).Placed k :=
  ⟨h.id, h.pins.trans (layout_congr n.id n.bounds hkind hcount).symm⟩

end Node

namespace Board

def Placed (b : Board) : Prop := ∀ k n, b.node? k = some n → n.Placed k

theorem placed_empty (seed : UInt64) : Placed (.empty seed) := by
  intro k n hn
  cases hn

theorem Placed.modifyNode {b : Board} (h : Placed b) {id : NodeId} {f : Node → Node}
    (hf : ∀ n, b.node? id = some n → (f n).Placed id) : Placed (b.modifyNode id f) := by
  intro k n hn
  rw [node?_modifyNode] at hn
  by_cases hk : k = id
  · subst hk
    rw [if_pos rfl] at hn
    obtain ⟨m, hm, rfl⟩ := Option.map_eq_some_iff.1 hn
    exact hf m hm
  · rw [if_neg hk] at hn
    exact h k n hn

theorem Placed.mapDevice {b : Board} (h : Placed b) (id : NodeId) {f : Device → Device}
    (hkind : ∀ d, (f d).kind = d.kind)
    (hcount : ∀ d, (f d).sources.length = d.sources.length) :
    Placed (b.modifyNode id (Node.mapDevice f)) :=
  h.modifyNode fun n hn => (h id n hn).mapDevice (hkind n.device) (hcount n.device)

theorem Placed.add {b : Board} (h : Placed b) (bounds : Rect) (device : Device) :
    Placed (b.add bounds device) := by
  intro k n hn
  rw [node?_add] at hn
  by_cases hk : k = b.size
  · rw [if_pos hk] at hn
    obtain rfl : Node.make b.size bounds device = n := Option.some.inj hn
    exact hk ▸ Node.placed_make b.size bounds device
  · rw [if_neg hk] at hn
    exact h k n hn

theorem Placed.withDevice {b : Board} (h : Placed b) (id : NodeId) (device : Device) :
    Placed (b.withDevice id device) :=
  h.modifyNode fun n hn => Node.placed_refresh (h id n hn).id

theorem Placed.tick {b : Board} (h : Placed b) : Placed b.tick := by
  intro k n hn
  rw [node?_tick] at hn
  obtain ⟨m, hm, rfl⟩ := Option.map_eq_some_iff.1 hn
  exact (h k m hm).mapDevice (m.device.kind_settle _ _ _)
    (congrArg List.length (m.device.sources_settle _ _ _))

theorem Placed.edit {b b' : Board} (h : Placed b) (hedit : Edit b b') : Placed b' := by
  cases hedit with
  | keep => exact h
  | add drawn bounds device hfresh => exact Placed.add h bounds device
  | attach source socket held hcheck =>
    exact h.mapDevice socket.node (fun d => d.kind_wire _ _) fun d => d.length_sources_wire _ _
  | detach socket =>
    exact h.mapDevice socket.node (fun d => d.kind_wire _ _) fun d => d.length_sources_wire _ _
  | grow id p hp hgrow => exact Placed.withDevice h id _
  | shrink id p hp hshrink wires hwires => exact h.withDevice id _
  | flip id =>
    exact h.mapDevice id Device.kind_toggle fun d => congrArg List.length d.sources_toggle
  | carry id corner => exact h.modifyNode fun n hn => Node.placed_refresh (h id n hn).id
  | tick => exact h.tick

theorem Reachable.placed {b : Board} (h : Reachable b) : Placed b :=
  h.invariant placed_empty fun _ _ => Placed.edit

theorem Placed.map_id {b : Board} (h : Placed b) : b.nodes.map Node.id = List.range b.size := by
  apply List.ext_getElem
  · simp [size]
  · intro i hi hi'
    have hlt : i < b.nodes.length := by simpa using hi
    rw [List.getElem_map, List.getElem_range]
    exact (h i _ (List.getElem?_eq_getElem hlt)).id

/-- Where the output of a node lies, read off its face. -/
theorem Placed.outputPosition?_eq {b : Board} (h : Placed b) (id : NodeId) :
    b.outputPosition? id = (b.node? id).bind fun n =>
      if n.face.kind ≠ .light then some (Node.outputPosition n.face.bounds) else none := by
  rw [outputPosition?]
  cases hn : b.node? id with
  | none => rfl
  | some n =>
    rw [Option.bind_some, (h id n hn).pins, Node.layout_output]
    rfl

end Board

/-! ## The shape of a node -/

/-- The shape of node number `k`: its name, the pins it remembers, and as many of everything as it
has inputs. -/
structure Node.Regular (k : NodeId) (n : Node) : Prop where
  id : n.id = k
  /-- Laying out the pins anew changes nothing. -/
  refresh : n.refresh = n
  input : ∀ (index : Nat) (pin : Pin), n.pins.inputs[index]? = some pin →
    pin.owner = n.id ∧ pin.side = .input ∧ pin.index = index
  switch : n.device.kind = .switch → n.pins.inputs = [] ∧ n.pins.output.isSome = true
  light : n.device.kind = .light → n.pins.inputs.length = 1 ∧ n.pins.output = none
  perceptron : ∀ p, n.device = .perceptron p →
    1 ≤ p.slots.length ∧ p.slots.length ≤ 8 ∧ p.weights.length = p.slots.length ∧
      p.values.length = p.slots.length ∧ n.pins.inputs.length = p.slots.length

theorem Node.Placed.regular {k : NodeId} {n : Node} (h : n.Placed k)
    (hshaped : ∀ p, n.device = .perceptron p → p.Shaped) : n.Regular k where
  id := h.id
  refresh := by
    unfold Node.refresh
    rw [← h.pins]
  input index pin hpin := layout_input (h.pins ▸ hpin)
  switch hkind := by
    rw [h.pins]
    cases hd : n.device with
    | switch s => exact ⟨rfl, rfl⟩
    | perceptron p => rw [hd] at hkind; cases hkind
    | light l => rw [hd] at hkind; cases hkind
  light hkind := by
    rw [h.pins]
    cases hd : n.device with
    | switch s => rw [hd] at hkind; cases hkind
    | perceptron p => rw [hd] at hkind; cases hkind
    | light l => exact ⟨rfl, rfl⟩
  perceptron p hp := by
    have hs := hshaped p hp
    have hinputs : n.pins.inputs.length = p.slots.length := by
      rw [h.length_inputs, hp]
      rfl
    exact ⟨hs.atLeast, hs.atMost, hs.weights, hs.values, hinputs⟩

namespace Board

theorem Reachable.regular {b : Board} (h : Reachable b) {k : NodeId} {n : Node}
    (hn : b.node? k = some n) : n.Regular k :=
  (h.placed k n hn).regular fun p hp => h.shaped k p (perceptron?_eq_some_iff.2 ⟨n, hn, hp⟩)

theorem Shaped.weights_tick {b : Board} (h : Shaped b) (k : NodeId) :
    (b.tick.perceptron? k).map Perceptron.weights = (b.perceptron? k).map Perceptron.weights := by
  rw [perceptron?_tick]
  cases hp : b.perceptron? k with
  | none => rfl
  | some p => exact congrArg some (Perceptron.fittedWeights_of_length (h k p hp).weights)

/-- Every node of a reachable board has its shape, only commands that add nodes change the names and
kinds of the nodes, and a tick repairs nothing and leaves the weights alone. -/
theorem regular_of_reachable {b : Board} (h : b.Reachable) :
    (∀ k n, b.node? k = some n → n.Regular k) ∧
      (∀ gesture pointer command, command.adds = false →
        (Workbench.obey ⟨b, gesture, pointer⟩ command).state.board.roster = b.roster) ∧
      b.tickReport.repaired = 0 ∧
      ∀ k, (b.tick.perceptron? k).map Perceptron.weights =
        (b.perceptron? k).map Perceptron.weights :=
  ⟨fun _ _ => h.regular, fun gesture pointer _ => Workbench.roster_obey ⟨b, gesture, pointer⟩,
    repaired_eq_zero fun id p hp => (h.shaped id p hp).weights, h.shaped.weights_tick⟩

/-- A perceptron that was made with too many inputs, evaluated, dragged by its body and relieved of
an input. -/
def draggedUnit : Board :=
  ((Workbench.ofBoard (.empty 0)).run
    [.addSwitch ⟨50, 50⟩, .addPerceptron ⟨200, 100⟩ 99 none (some 0.5), .addLight ⟨600, 100⟩,
      .connect 0 ⟨1, 7⟩, .tick, .handle (.press .primary ⟨230, 140⟩), .handle (.move ⟨330, 160⟩),
      .decrementInputs 1, .handle (.release .primary ⟨0, 0⟩), .tick]).board

theorem draggedUnit_regular :
    draggedUnit.Reachable ∧ draggedUnit.size = 3 ∧
      (draggedUnit.perceptron? 1).map Perceptron.inputCount = some 7 ∧
      (draggedUnit.node? 1).map Node.bounds = some ⟨⟨300, 120⟩, ⟨360, 200⟩⟩ ∧
      (∀ k n, draggedUnit.node? k = some n → n.Regular k) ∧ draggedUnit.tickReport.repaired = 0 := by
  have h : draggedUnit.Reachable := Reachable.run (.empty 0) _
  obtain ⟨hregular, -, hrepaired, -⟩ := regular_of_reachable h
  exact ⟨h, by decide +kernel, by decide +kernel, by decide +kernel, hregular, hrepaired⟩

end Board

end SignalBoard
