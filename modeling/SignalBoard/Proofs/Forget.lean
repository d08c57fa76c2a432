import SignalBoard.Proofs.Layout

/-! # Forgetting signals

What a board remembers of its evaluation are the signals of its perceptrons, the values that they
read, and whether its lights are lit.  `Board.forget` is the board as if it had never been evaluated,
and leaves everything else as it is.

Nothing that a pointer does depends on what is forgotten: every operation, from making an input to
handling a list of events, does the same to the board without its memory and answers alike
(`Workbench.handleAll_forget`).  A tick of a board whose weights need no repair changes nothing but
what is forgotten (`Board.forget_tick`). -/

namespace SignalBoard

set_option autoImplicit false

/-! ## Outcomes -/

namespace Outcome

variable {σ τ υ α β γ : Type}

theorem andThen_mapState (o : Outcome σ α) (g : σ → τ) (f : τ → α → Outcome υ β) :
    (o.mapState g).andThen f = o.andThen fun s a => f (g s) a := rfl

theorem mapState_andThen (o : Outcome σ α) (f : σ → α → Outcome τ β) (g : τ → υ) :
    (o.andThen f).mapState g = o.andThen fun s a => (f s a).mapState g := rfl

theorem mapState_mapAnswer (o : Outcome σ α) (g : σ → τ) (f : α → γ) :
    (o.mapState g).mapAnswer f = (o.mapAnswer f).mapState g := rfl

end Outcome

/-! ## Devices -/

/-- The perceptron as if it had never been evaluated. -/
def Perceptron.forget (p : Perceptron) : Perceptron :=
  { p with values := List.replicate p.inputCount false, firing := false }

/-- The device without what it remembers of its evaluation. -/
def Device.forget : Device → Device
  | switch s => switch s
  | perceptron p => perceptron p.forget
  | light l => light { l with lit := false }

namespace Perceptron

theorem forget_grow (p : Perceptron) (weight : Float32) :
    (p.grow weight).forget = p.forget.grow weight := by
  have hvalues : List.replicate (p.grow weight).inputCount false =
      List.replicate p.inputCount false ++ [false] := by
    rw [← List.replicate_succ']
    exact congrArg (List.replicate · false) List.length_append
  unfold forget
  rw [hvalues]
  rfl

theorem forget_shrink (p : Perceptron) : p.shrink.forget = p.forget.shrink := by
  have hvalues : List.replicate p.shrink.inputCount false =
      (List.replicate p.inputCount false).take (p.inputCount - 1) := by
    have hcount : p.shrink.inputCount = p.inputCount - 1 := List.length_dropLast
    rw [List.take_replicate, hcount, Nat.min_eq_left (Nat.sub_le _ _)]
  unfold forget
  rw [hvalues]
  rfl

theorem grow?_forget (p : Perceptron) (sampler : Sampler) :
    p.forget.grow? sampler = (p.grow? sampler).map fun grown => (grown.1.forget, grown.2) := by
  have hgrow : p.forget.canGrow = p.canGrow := rfl
  unfold grow?
  rw [hgrow]
  split
  · rw [Option.map_some, forget_grow]
  · rfl

theorem shrink?_forget (p : Perceptron) :
    p.forget.shrink? = p.shrink?.map fun shrunk => (shrunk.1.forget, shrunk.2) := by
  have hshrink : p.forget.canShrink = p.canShrink := rfl
  unfold shrink?
  rw [hshrink]
  split
  · rw [Option.map_some, forget_shrink]
    rfl
  · rfl

end Perceptron

namespace Device

theorem kind_forget (d : Device) : d.forget.kind = d.kind := by
  cases d <;> rfl

theorem sources?_forget (d : Device) : d.forget.sources? = d.sources? := by
  cases d <;> rfl

theorem hasOutput_forget (d : Device) : d.forget.hasOutput = d.hasOutput := by
  cases d <;> rfl

theorem slot?_forget (d : Device) (index : Nat) : d.forget.slot? index = d.slot? index := by
  unfold slot? sources
  rw [sources?_forget]

theorem perceptron?_forget (d : Device) :
    d.forget.perceptron? = d.perceptron?.map Perceptron.forget := by
  cases d <;> rfl

theorem forget_wire (d : Device) (index : Nat) (source : Option NodeId) :
    (d.wire index source).forget = d.forget.wire index source := by
  cases d with
  | switch s => rfl
  | perceptron p =>
    have hcount : (p.slots.set index source).length = p.slots.length := List.length_set
    simp only [wire, forget, Perceptron.forget, Perceptron.inputCount, hcount]
  | light l =>
    unfold wire
    cases index with
    | zero => rfl
    | succ index => rfl

theorem forget_toggle (d : Device) : d.toggle.forget = d.forget.toggle := by
  cases d <;> rfl

/-- Of what a tick makes of a device, only the repair of weights is not forgotten. -/
theorem forget_settle {d : Device} (h : ∀ p, d.perceptron? = some p → p.Shaped)
    (old new : NodeId → Bool) (id : NodeId) : (d.settle old new id).forget = d.forget := by
  cases d with
  | switch s => rfl
  | light l => rfl
  | perceptron p =>
    have hfit : p.fit = p := Perceptron.fit_of_length (h p rfl).weights
    simp only [settle, forget, Perceptron.forget, Perceptron.inputCount, hfit]

end Device

/-! ## Nodes -/

namespace Node

def forget (n : Node) : Node := n.mapDevice Device.forget

theorem layout_forget (id : NodeId) (bounds : Rect) (d : Device) :
    layout id bounds d.forget = layout id bounds d := by
  apply layout_congr id bounds d.kind_forget
  unfold Device.sources
  rw [d.sources?_forget]

theorem forget_refresh (n : Node) : n.refresh.forget = n.forget.refresh := by
  unfold refresh forget mapDevice
  rw [layout_forget]

theorem forget_moveTo (n : Node) (corner : Point) :
    (n.moveTo corner).forget = n.forget.moveTo corner :=
  forget_refresh { n with bounds := .ofMinSize corner n.bounds.size }

theorem forget_mapDevice (n : Node) {f : Device → Device}
    (h : (f n.device).forget = f n.device.forget) :
    (n.mapDevice f).forget = n.forget.mapDevice f := by
  unfold forget mapDevice
  rw [h]

theorem regionAt?_forget (n : Node) (pos : Point) : n.forget.regionAt? pos = n.regionAt? pos := by
  have hbutton : n.forget.buttonAt? pos = n.buttonAt? pos := by
    unfold buttonAt? forget mapDevice
    cases n.device <;> rfl
  have htoggle : n.forget.toggleAt? pos = n.toggleAt? pos := by
    unfold toggleAt? forget mapDevice
    cases n.device <;> rfl
  unfold regionAt?
  rw [hbutton, htoggle]
  rfl

end Node

/-! ## Boards -/

namespace Board

/-- The board without what its devices remember of their evaluation. -/
def forget (b : Board) : Board := { b with nodes := b.nodes.map Node.forget }

theorem node?_forget (b : Board) (id : NodeId) :
    b.forget.node? id = (b.node? id).map Node.forget := List.getElem?_map

theorem size_forget (b : Board) : b.forget.size = b.size := List.length_map _

theorem forget_modifyNode (b : Board) (id : NodeId) {f g : Node → Node}
    (h : ∀ n, b.node? id = some n → (f n).forget = g n.forget) :
    (b.modifyNode id f).forget = b.forget.modifyNode id g := by
  refine ext_node? (fun j => ?_) rfl rfl
  rw [node?_forget, node?_modifyNode, node?_modifyNode, node?_forget]
  by_cases hj : j = id
  · subst hj
    rw [if_pos rfl, if_pos rfl]
    cases hn : b.node? j with
    | none => rfl
    | some n => exact congrArg some (h n hn)
  · rw [if_neg hj, if_neg hj]

theorem forget_modifyNode_mapDevice (b : Board) (id : NodeId) {f : Device → Device}
    (h : ∀ d, (f d).forget = f d.forget) :
    (b.modifyNode id (Node.mapDevice f)).forget = b.forget.modifyNode id (Node.mapDevice f) :=
  b.forget_modifyNode id fun n _ => n.forget_mapDevice (h n.device)

theorem forget_withDevice (b : Board) (id : NodeId) (device : Device) :
    (b.withDevice id device).forget = b.forget.withDevice id device.forget :=
  b.forget_modifyNode id fun n _ => Node.forget_refresh (n.mapDevice fun _ => device)

theorem perceptron?_forget (b : Board) (id : NodeId) :
    b.forget.perceptron? id = (b.perceptron? id).map Perceptron.forget := by
  unfold perceptron?
  rw [node?_forget]
  cases b.node? id with
  | none => rfl
  | some n => exact n.device.perceptron?_forget

theorem slot?_forget (b : Board) (socket : Socket) : b.forget.slot? socket = b.slot? socket := by
  unfold slot?
  rw [node?_forget]
  cases b.node? socket.node with
  | none => rfl
  | some n => exact n.device.slot?_forget socket.index

theorem outputPosition?_forget (b : Board) (id : NodeId) :
    b.forget.outputPosition? id = b.outputPosition? id := by
  unfold outputPosition?
  rw [node?_forget]
  cases b.node? id with
  | none => rfl
  | some n => rfl

theorem socketAt?_forget (b : Board) (pos : Point) : b.forget.socketAt? pos = b.socketAt? pos := by
  unfold socketAt? forget
  rw [List.findSome?_map]
  rfl

theorem checkWire_forget (b : Board) (source : NodeId) (socket : Socket) :
    b.forget.checkWire source socket = b.checkWire source socket := by
  unfold checkWire
  rw [node?_forget, node?_forget]
  cases b.node? source with
  | none => rfl
  | some start =>
    have hout : start.forget.device.hasOutput = start.device.hasOutput :=
      start.device.hasOutput_forget
    simp only [Option.map_some, hout]
    cases b.node? socket.node with
    | none => rfl
    | some target =>
      have hslot : target.forget.device.slot? socket.index = target.device.slot? socket.index :=
        target.device.slot?_forget socket.index
      simp only [Option.map_some, hslot]

theorem forget_attach (b : Board) (source : NodeId) (socket : Socket) :
    (b.attach source socket).forget = b.forget.attach source socket := by
  have hnodes := b.forget_modifyNode_mapDevice socket.node fun d =>
    d.forget_wire socket.index (some source)
  exact congrArg (fun c : Board => { c with wires := b.wires.insert ⟨source, socket⟩ }) hnodes

theorem forget_detach (b : Board) (socket : Socket) :
    (b.detach socket).forget = b.forget.detach socket := by
  have hnodes := b.forget_modifyNode_mapDevice socket.node fun d =>
    d.forget_wire socket.index none
  exact congrArg (fun c : Board => { c with wires := b.wires.erase socket }) hnodes

theorem connect_forget (b : Board) (source : NodeId) (socket : Socket) :
    b.forget.connect source socket = (b.connect source socket).mapState forget := by
  unfold connect
  rw [checkWire_forget]
  cases b.checkWire source socket with
  | error fault => rfl
  | ok held =>
    simp only [← forget_attach]
    rfl

theorem disconnect_forget (b : Board) (socket : Socket) :
    b.forget.disconnect socket = (b.disconnect socket).mapState forget := by
  unfold disconnect detachNotices source?
  rw [slot?_forget, ← forget_detach]
  rfl

theorem incrementInputs_forget (b : Board) (id : NodeId) :
    b.forget.incrementInputs id = (b.incrementInputs id).mapState forget := by
  have hsampler : b.forget.sampler = b.sampler := rfl
  unfold incrementInputs
  rw [perceptron?_forget, hsampler]
  cases b.perceptron? id with
  | none => rfl
  | some p =>
    simp only [Option.map_some, p.grow?_forget]
    cases p.grow? b.sampler with
    | none => rfl
    | some grown =>
      have hdevice := forget_withDevice { b with sampler := grown.2 } id (.perceptron grown.1)
      simp only [Option.map_some, Outcome.mapState, hdevice]
      rfl

theorem decrementInputs_forget (b : Board) (id : NodeId) :
    b.forget.decrementInputs id = (b.decrementInputs id).mapState forget := by
  unfold decrementInputs
  rw [perceptron?_forget]
  cases b.perceptron? id with
  | none => rfl
  | some p =>
    simp only [Option.map_some, p.shrink?_forget]
    cases p.shrink? with
    | none => rfl
    | some shrunk =>
      have hdevice := b.forget_withDevice id (.perceptron shrunk.1)
      simp only [Option.map_some, Outcome.mapState]
      refine congrArg
        (fun c => (⟨c, .changed shrunk.1.inputCount, _⟩ : Outcome Board Resized)) ?_
      by_cases hsource : shrunk.2.source.isSome = true
      · rw [if_pos hsource, if_pos hsource]
        exact congrArg (fun c : Board => { c with wires := b.wires.erase ⟨id, shrunk.2.index⟩ })
          hdevice.symm
      · rw [if_neg hsource, if_neg hsource]
        exact hdevice.symm

/-- A tick that repairs nothing changes only what is forgotten. -/
theorem Shaped.forget_tick {b : Board} (h : Shaped b) : b.tick.forget = b.forget := by
  refine ext_node? (fun j => ?_) (by rw [tick_eq]; rfl) (by rw [tick_eq]; rfl)
  rw [node?_forget, node?_forget, node?_tick]
  cases hn : b.node? j with
  | none => rfl
  | some n =>
    have hshaped : ∀ p, n.device.perceptron? = some p → p.Shaped := fun p hp =>
      h j p (Option.bind_eq_some_iff.2 ⟨n, hn, hp⟩)
    exact congrArg (fun d => some { n with device := d }) (Device.forget_settle hshaped _ _ _)

end Board

/-! ## Workbenches -/

namespace Workbench

/-- The workbench with a board that remembers nothing of its evaluation. -/
def forget (w : Workbench) : Workbench := w.withBoard w.board.forget

theorem gesture_forget (w : Workbench) : w.forget.gesture = w.gesture := rfl

theorem node?_forget (w : Workbench) (id : NodeId) :
    w.forget.board.node? id = (w.board.node? id).map Node.forget := w.board.node?_forget id

theorem beginWiring_forget (w : Workbench) (source : NodeId) :
    w.forget.beginWiring source = (w.beginWiring source).mapState forget := by
  have hstart : w.forget.board.outputPosition? source = w.board.outputPosition? source :=
    w.board.outputPosition?_forget source
  unfold beginWiring
  rw [hstart]
  cases w.board.outputPosition? source with
  | none => rfl
  | some start => rfl

theorem finishWiring_forget (w : Workbench) (pos : Point) :
    w.forget.finishWiring pos = (w.finishWiring pos).mapState forget := by
  have hsocket : w.forget.board.socketAt? pos = w.board.socketAt? pos :=
    w.board.socketAt?_forget pos
  unfold finishWiring
  rw [gesture_forget, hsocket]
  cases w.gesture with
  | idle => rfl
  | dragging id grip => rfl
  | wiring source start =>
    cases w.board.socketAt? pos with
    | none => rfl
    | some socket =>
      have hconnect : w.forget.board.connect source socket =
          (w.board.connect source socket).mapState Board.forget :=
        w.board.connect_forget source socket
      simp only [hconnect, Outcome.answer_mapState]
      cases (w.board.connect source socket).answer with
      | error fault => rfl
      | ok held => rfl

theorem removeWire_forget (w : Workbench) (socket : Socket) :
    w.forget.removeWire socket = (w.removeWire socket).mapState forget := by
  have hfreed : w.forget.board.disconnect socket =
      (w.board.disconnect socket).mapState Board.forget := w.board.disconnect_forget socket
  unfold removeWire
  rw [hfreed]
  rfl

theorem flipSwitch_forget {w : Workbench} {id : NodeId} {n : Node} {s : Switch}
    (hn : w.board.node? id = some n) (hs : n.device = .switch s) :
    w.forget.flipSwitch id = (w.flipSwitch id).mapState forget := by
  have hboard : (w.board.modifyNode id (Node.mapDevice Device.toggle)).forget =
      w.board.forget.modifyNode id (Node.mapDevice Device.toggle) :=
    w.board.forget_modifyNode_mapDevice id Device.forget_toggle
  have hout : (w.board.modifyNode id (Node.mapDevice Device.toggle)).forget.outputOf id =
      (w.board.modifyNode id (Node.mapDevice Device.toggle)).outputOf id := by
    rw [Board.outputOf_eq, Board.outputOf_eq, Board.node?_forget, Board.node?_modifyNode_self hn,
      Option.map_some, Option.bind_some, Option.bind_some, Node.forget, Node.mapDevice,
      Node.mapDevice, hs]
    rfl
  have hforget : w.forget.flipSwitch id =
      ⟨w.withBoard (w.board.forget.modifyNode id (Node.mapDevice Device.toggle)), (),
        [.switchFlipped id
          ((w.board.forget.modifyNode id (Node.mapDevice Device.toggle)).outputOf id)]⟩ := rfl
  rw [hforget, ← hboard, hout]
  rfl

theorem beginDrag_forget (w : Workbench) (id : NodeId) (pos : Point) :
    w.forget.beginDrag id pos = (w.beginDrag id pos).mapState forget := by
  unfold beginDrag
  rw [node?_forget]
  cases w.board.node? id with
  | none => rfl
  | some n =>
    have hkind : n.forget.device.kind = n.device.kind := n.device.kind_forget
    simp only [Option.map_some, hkind]
    rfl

theorem primaryPress_forget {w : Workbench} {pos : Point} {id : NodeId} {n : Node}
    {region : Node.Region} (hn : w.board.node? id = some n) (hr : n.regionAt? pos = some region) :
    w.forget.primaryPress pos id region = (w.primaryPress pos id region).mapState forget := by
  cases region with
  | grow =>
    show ((w.board.forget.incrementInputs id).mapState w.withBoard).mapAnswer (fun _ => true) = _
    rw [Board.incrementInputs_forget]
    rfl
  | shrink =>
    show ((w.board.forget.decrementInputs id).mapState w.withBoard).mapAnswer (fun _ => true) = _
    rw [Board.decrementInputs_forget]
    rfl
  | input index => rfl
  | output =>
    unfold primaryPress
    simp only [gesture_forget, beginWiring_forget]
    split
    · rfl
    · rfl
  | toggle =>
    obtain ⟨s, hs⟩ := Node.switch_of_regionAt? hr
    unfold primaryPress
    simp only [gesture_forget, flipSwitch_forget hn hs]
    split
    · rfl
    · rfl
  | body =>
    unfold primaryPress
    simp only [gesture_forget, beginDrag_forget]
    split
    · rfl
    · rfl

theorem secondaryPress_forget (w : Workbench) (id : NodeId) (region : Node.Region) :
    w.forget.secondaryPress id region = (w.secondaryPress id region).mapState forget := by
  have hswitch : ((w.forget.board.node? id).any fun n => n.device.kind = .switch) =
      (w.board.node? id).any fun n => n.device.kind = .switch := by
    rw [node?_forget]
    cases w.board.node? id with
    | none => rfl
    | some n => exact congrArg (fun kind => decide (kind = .switch)) n.device.kind_forget
  cases region with
  | grow => rfl
  | shrink => rfl
  | output => rfl
  | input index => exact congrArg (Outcome.mapAnswer fun _ => true) (w.removeWire_forget ⟨id, index⟩)
  | toggle =>
    unfold secondaryPress
    rw [hswitch]
    rfl
  | body =>
    unfold secondaryPress
    rw [hswitch]
    rfl

theorem offer_forget (w : Workbench) (button : Button) (pos : Point) (id : NodeId) :
    w.forget.offer button pos id = (w.offer button pos id).mapState forget := by
  cases hn : w.board.node? id with
  | none =>
    unfold offer
    rw [node?_forget, hn]
    rfl
  | some n =>
    cases hr : n.regionAt? pos with
    | none =>
      unfold offer
      rw [node?_forget, hn, Option.map_some, Option.bind_some, Option.bind_some, n.regionAt?_forget, hr]
      rfl
    | some region =>
      have hn' : w.forget.board.node? id = some n.forget := by
        rw [node?_forget, hn, Option.map_some]
      rw [offer_eq hn hr, offer_eq hn' ((n.regionAt?_forget pos).trans hr)]
      cases button with
      | primary => exact primaryPress_forget hn hr
      | secondary => exact w.secondaryPress_forget id region

theorem offerBelow_forget (w : Workbench) (button : Button) (pos : Point) (bound : Nat) :
    w.forget.offerBelow button pos bound = (w.offerBelow button pos bound).mapState forget := by
  induction bound generalizing w with
  | zero => rfl
  | succ id ih =>
    unfold offerBelow
    rw [offer_forget, Outcome.andThen_mapState, Outcome.mapState_andThen]
    congr 1
    funext after taken
    cases taken with
    | true => rfl
    | false => exact ih after

theorem press_forget (w : Workbench) (button : Button) (pos : Point) :
    w.forget.press button pos = (w.press button pos).mapState forget := by
  have hsize : w.forget.board.size = w.board.size := w.board.size_forget
  unfold press
  rw [hsize, offerBelow_forget]

theorem release_forget (w : Workbench) (button : Button) (pos : Point) :
    w.forget.release button pos = (w.release button pos).mapState forget := by
  unfold release
  rw [gesture_forget, finishWiring_forget]
  cases w.gesture with
  | idle => rfl
  | wiring source start => rfl
  | dragging id grip =>
    cases button with
    | primary => rfl
    | secondary => rfl

theorem move_forget (w : Workbench) (pos : Point) :
    w.forget.move pos = (w.move pos).mapState forget := by
  unfold move
  rw [gesture_forget]
  cases w.gesture with
  | idle => rfl
  | wiring source start => rfl
  | dragging id grip =>
    simp only
    rw [node?_forget]
    cases w.board.node? id with
    | none => rfl
    | some n =>
      have hboard : (w.board.modifyNode id fun n => n.moveTo (pos - grip)).forget =
          w.board.forget.modifyNode id fun n => n.moveTo (pos - grip) :=
        w.board.forget_modifyNode id fun n _ => n.forget_moveTo (pos - grip)
      show Outcome.quiet (w.forget.withBoard (w.board.forget.modifyNode id _)) true = _
      rw [← hboard]
      rfl

/-- An event does the same to a board without its memory. -/
theorem handle_forget (w : Workbench) (event : Event) :
    w.forget.handle event = (w.handle event).mapState forget := by
  cases event with
  | press button pos =>
    exact congrArg (Outcome.mapAnswer Reaction.ofTaken) ((w.pointAt pos).press_forget button pos)
  | release button pos =>
    exact congrArg (Outcome.mapAnswer Reaction.ofTaken) ((w.pointAt pos).release_forget button pos)
  | move pos => exact congrArg (Outcome.mapAnswer Reaction.ofTaken) ((w.pointAt pos).move_forget pos)
  | quit => rfl

theorem handleAll_forget (w : Workbench) (events : List Event) :
    w.forget.handleAll events = (w.handleAll events).mapState forget := by
  induction events generalizing w with
  | nil => rfl
  | cons event rest ih =>
    unfold handleAll
    rw [handle_forget, Outcome.andThen_mapState, Outcome.mapState_andThen]
    congr 1
    funext after reaction
    rw [ih, Outcome.mapState_mapAnswer]

end Workbench

end SignalBoard
