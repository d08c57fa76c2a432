import SignalBoard.Proofs.Session
import SignalBoard.Proofs.TickEquations

/-! # What is wired to a node and what drives a wire

Two views of a board: `Board.sourcesOf`, the sources wired to the inputs of a node, and
`Board.drives`, whether a node has an output.  The lemmas say what each kind of edit does to
`Board.source?` and to `Board.drives`; nothing later looks into the nodes for either. -/

namespace SignalBoard

set_option autoImplicit false

/-! ## Devices -/

namespace Device

theorem sources_wire (d : Device) (index : Nat) (source : Option NodeId) :
    (d.wire index source).sources = d.sources.set index source := by
  cases d with
  | switch s => rfl
  | perceptron p => rfl
  | light l =>
    unfold wire
    cases index with
    | zero => rfl
    | succ index => rfl

theorem hasOutput_wire (d : Device) (index : Nat) (source : Option NodeId) :
    (d.wire index source).hasOutput = d.hasOutput := by
  cases d with
  | switch s => rfl
  | perceptron p => rfl
  | light l =>
    unfold wire
    cases index with
    | zero => rfl
    | succ index => rfl

theorem sources_toggle (d : Device) : d.toggle.sources = d.sources := by
  cases d <;> rfl

theorem hasOutput_toggle (d : Device) : d.toggle.hasOutput = d.hasOutput := by
  cases d <;> rfl

theorem sources_settle (old new : NodeId → Bool) (id : NodeId) (d : Device) :
    (d.settle old new id).sources = d.sources := by
  cases d <;> rfl

theorem hasOutput_settle (old new : NodeId → Bool) (id : NodeId) (d : Device) :
    (d.settle old new id).hasOutput = d.hasOutput := by
  cases d <;> rfl

theorem Fresh.source?_eq_none {d : Device} (h : d.Fresh) (index : Nat) :
    d.source? index = none := by
  unfold source? slot?
  cases h with
  | switch => rfl
  | light =>
    cases index with
    | zero => rfl
    | succ index => rfl
  | perceptron weights bias hmin hmax =>
    have hslots : (Device.perceptron (.ofWeights weights bias)).sources =
      List.replicate weights.length none := rfl
    rw [hslots, List.getElem?_replicate]
    split
    · rfl
    · rfl

end Device

namespace Board

/-! ## Nodes -/

theorem node?_add (b : Board) (bounds : Rect) (device : Device) (j : NodeId) :
    (b.add bounds device).node? j =
      if j = b.size then some (.make b.size bounds device) else b.node? j := by
  unfold add node? size
  by_cases hj : j = b.nodes.length
  · subst hj
    rw [if_pos rfl, List.getElem?_concat_length]
  · rw [if_neg hj]
    by_cases hlt : j < b.nodes.length
    · rw [List.getElem?_append_left hlt]
    · have hgt : b.nodes.length < j := Nat.lt_of_le_of_ne (Nat.le_of_not_lt hlt) (Ne.symm hj)
      rw [List.getElem?_eq_none (Nat.le_of_lt hgt)]
      exact List.getElem?_eq_none (by rw [List.length_append, List.length_singleton]; exact hgt)

theorem node?_size (b : Board) : b.node? b.size = none :=
  List.getElem?_eq_none (Nat.le_refl _)

theorem ext_node? {b b' : Board} (hnodes : ∀ id, b.node? id = b'.node? id)
    (hwires : b.wires = b'.wires) (hsampler : b.sampler = b'.sampler) : b = b' := by
  have h : b.nodes = b'.nodes := List.ext_getElem? hnodes
  cases b
  cases b'
  cases h
  cases hwires
  cases hsampler
  rfl

/-! ## Views -/

/-- What is wired to the inputs of node `id`, in order. -/
def sourcesOf (b : Board) (id : NodeId) : List (Option NodeId) :=
  ((b.node? id).map fun n => n.device.sources).getD []

def drives (b : Board) (id : NodeId) : Bool := (b.node? id).any fun n => n.device.hasOutput

theorem slot?_eq (b : Board) (socket : Socket) :
    b.slot? socket = (b.sourcesOf socket.node)[socket.index]? := by
  unfold slot? sourcesOf
  cases b.node? socket.node with
  | none => rfl
  | some n => rfl

theorem source?_eq (b : Board) (socket : Socket) :
    b.source? socket = (b.sourcesOf socket.node)[socket.index]?.join := by
  rw [source?, slot?_eq]

theorem sourcesOf_modifyNode (b : Board) (id : NodeId) (f : Node → Node)
    (g : List (Option NodeId) → List (Option NodeId)) (hnil : g [] = [])
    (hf : ∀ n, b.node? id = some n → (f n).device.sources = g n.device.sources) (j : NodeId) :
    (b.modifyNode id f).sourcesOf j = if j = id then g (b.sourcesOf j) else b.sourcesOf j := by
  unfold sourcesOf
  rw [node?_modifyNode]
  by_cases hj : j = id
  · subst hj
    rw [if_pos rfl, if_pos rfl]
    cases hn : b.node? j with
    | none => exact hnil.symm
    | some n => exact hf n hn
  · rw [if_neg hj, if_neg hj]

/-- A view of the nodes that a change of one node does not touch. -/
theorem map_node?_modifyNode {α : Type} (view : Node → α) (b : Board) (id : NodeId)
    {f : Node → Node} (h : ∀ n, b.node? id = some n → view (f n) = view n) (j : NodeId) :
    ((b.modifyNode id f).node? j).map view = (b.node? j).map view := by
  rw [node?_modifyNode]
  by_cases hj : j = id
  · subst hj
    rw [if_pos rfl, Option.map_map]
    cases hn : b.node? j with
    | none => rfl
    | some n => exact congrArg some (h n hn)
  · rw [if_neg hj]

theorem drives_modifyNode (b : Board) (id : NodeId) (f : Node → Node)
    (hf : ∀ n, b.node? id = some n → (f n).device.hasOutput = n.device.hasOutput) (j : NodeId) :
    (b.modifyNode id f).drives j = b.drives j := by
  have hdrives (b : Board) :
      b.drives j = ((b.node? j).map fun n => n.device.hasOutput).getD false := by
    unfold drives
    cases b.node? j with
    | none => rfl
    | some n => rfl
  rw [hdrives, hdrives, map_node?_modifyNode (fun n => n.device.hasOutput) b id hf]

theorem source?_congr {b b' : Board} (h : ∀ id, b'.sourcesOf id = b.sourcesOf id)
    (socket : Socket) : b'.source? socket = b.source? socket := by
  rw [source?_eq, source?_eq, h]

/-! ## Adding a node -/

theorem source?_add (b : Board) (bounds : Rect) {device : Device} (h : device.Fresh)
    (socket : Socket) : (b.add bounds device).source? socket = b.source? socket := by
  unfold source? slot?
  rw [node?_add]
  by_cases hid : socket.node = b.size
  · rw [if_pos hid, hid, node?_size]
    exact h.source?_eq_none socket.index
  · rw [if_neg hid]

theorem drives_add (b : Board) (bounds : Rect) (device : Device) {j : NodeId}
    (h : b.drives j = true) : (b.add bounds device).drives j = true := by
  unfold drives
  rw [node?_add]
  by_cases hj : j = b.size
  · rw [hj, drives, node?_size] at h
    cases h
  · rw [if_neg hj]
    exact h

/-! ## Wiring -/

theorem slot?_of_set (b b' : Board) (target : Socket) {source : Option NodeId}
    (h : ∀ id, b'.sourcesOf id =
      if id = target.node then (b.sourcesOf id).set target.index source else b.sourcesOf id)
    (socket : Socket) :
    b'.slot? socket =
      if socket = target then (b.slot? target).map fun _ => source else b.slot? socket := by
  rw [b'.slot?_eq socket, b.slot?_eq socket, b.slot?_eq target, h]
  by_cases hnode : socket.node = target.node
  · rw [if_pos hnode, List.getElem?_set]
    by_cases hindex : target.index = socket.index
    · have hs : socket = target := by
        cases socket
        cases target
        simp_all
      subst hs
      rw [if_pos rfl, if_pos rfl]
      by_cases hlt : socket.index < (b.sourcesOf socket.node).length
      · rw [if_pos hlt, List.getElem?_eq_getElem hlt]
        rfl
      · rw [if_neg hlt, List.getElem?_eq_none (by omega)]
        rfl
    · have hs : socket ≠ target := fun hs => hindex (congrArg Socket.index hs).symm
      rw [if_neg hindex, if_neg hs]
  · have hs : socket ≠ target := fun hs => hnode (congrArg Socket.node hs)
    rw [if_neg hnode, if_neg hs]

theorem source?_of_set (b b' : Board) (target : Socket) {source : Option NodeId}
    (h : ∀ id, b'.sourcesOf id =
      if id = target.node then (b.sourcesOf id).set target.index source else b.sourcesOf id)
    (socket : Socket) :
    b'.source? socket =
      if socket = target then (if (b.slot? target).isSome then source else none)
      else b.source? socket := by
  rw [source?, slot?_of_set b b' target h]
  by_cases hs : socket = target
  · rw [if_pos hs, if_pos hs]
    cases b.slot? target with
    | none => rfl
    | some held => rfl
  · rw [if_neg hs, if_neg hs, source?]

theorem checkWire_ok {b : Board} {source : NodeId} {socket : Socket} {held : Option NodeId}
    (h : b.checkWire source socket = .ok held) :
    b.drives source = true ∧ b.slot? socket = some held := by
  unfold checkWire at h
  unfold drives slot?
  cases hstart : b.node? source with
  | none => rw [hstart] at h; cases h
  | some start =>
    cases hout : start.device.hasOutput with
    | false => simp [hstart, hout] at h
    | true =>
      cases htarget : b.node? socket.node with
      | none => simp [hstart, hout, htarget] at h
      | some target =>
        cases hslot : target.device.slot? socket.index with
        | none => simp [hstart, hout, htarget, hslot] at h
        | some held' =>
          have hheld : held' = held := by simpa [hstart, hout, htarget, hslot] using h
          subst hheld
          exact ⟨hout, hslot⟩

theorem source?_attach {b : Board} {source : NodeId} {target : Socket} {held : Option NodeId}
    (h : b.checkWire source target = .ok held) (socket : Socket) :
    (b.attach source target).source? socket =
      if socket = target then some source else b.source? socket := by
  have hset := source?_of_set b (b.attach source target) target
    (sourcesOf_modifyNode b target.node _ (fun l => l.set target.index (some source)) rfl
      fun n _ => n.device.sources_wire target.index (some source)) socket
  rw [hset, (checkWire_ok h).2]
  rfl

theorem source?_detach (b : Board) (target socket : Socket) :
    (b.detach target).source? socket = if socket = target then none else b.source? socket := by
  have hset := source?_of_set b (b.detach target) target
    (sourcesOf_modifyNode b target.node _ (fun l => l.set target.index none) rfl
      fun n _ => n.device.sources_wire target.index none) socket
  rw [hset, ite_self]

theorem drives_attach (b : Board) (source : NodeId) (socket : Socket) (j : NodeId) :
    (b.attach source socket).drives j = b.drives j :=
  drives_modifyNode b socket.node _ (fun n _ => n.device.hasOutput_wire _ _) j

theorem drives_detach (b : Board) (socket : Socket) (j : NodeId) :
    (b.detach socket).drives j = b.drives j :=
  drives_modifyNode b socket.node _ (fun n _ => n.device.hasOutput_wire _ _) j

/-! ## Changing the number of inputs -/

theorem device_of_perceptron? {b : Board} {id : NodeId} {p : Perceptron}
    (h : b.perceptron? id = some p) {n : Node} (hn : b.node? id = some n) :
    n.device = .perceptron p := by
  obtain ⟨n', hn', hd⟩ := perceptron?_eq_some_iff.1 h
  have : n' = n := Option.some.inj (hn'.symm.trans hn)
  exact this ▸ hd

theorem perceptron?_withDevice {b : Board} {id : NodeId} {p : Perceptron}
    (h : b.perceptron? id = some p) (q : Perceptron) (j : NodeId) :
    (b.withDevice id (.perceptron q)).perceptron? j =
      if j = id then some q else b.perceptron? j := by
  obtain ⟨n, hn, -⟩ := perceptron?_eq_some_iff.1 h
  unfold perceptron? withDevice
  rw [node?_modifyNode]
  by_cases hj : j = id
  · subst hj
    rw [if_pos rfl, if_pos rfl, hn]
    rfl
  · rw [if_neg hj, if_neg hj]

theorem sourcesOf_withDevice {b : Board} {id : NodeId} {p q : Perceptron}
    (h : b.perceptron? id = some p) (j : NodeId) :
    (b.withDevice id (.perceptron q)).sourcesOf j = if j = id then q.slots else b.sourcesOf j := by
  obtain ⟨n, hn, -⟩ := perceptron?_eq_some_iff.1 h
  unfold sourcesOf withDevice
  rw [node?_modifyNode]
  by_cases hj : j = id
  · subst hj
    rw [if_pos rfl, if_pos rfl, hn]
    rfl
  · rw [if_neg hj, if_neg hj]

theorem drives_withDevice {b : Board} {id : NodeId} {p q : Perceptron}
    (h : b.perceptron? id = some p) (j : NodeId) :
    (b.withDevice id (.perceptron q)).drives j = b.drives j :=
  drives_modifyNode b id _ (fun n hn => by rw [device_of_perceptron? h hn]; rfl) j

theorem sourcesOf_of_perceptron? {b : Board} {id : NodeId} {p : Perceptron}
    (h : b.perceptron? id = some p) : b.sourcesOf id = p.slots := by
  obtain ⟨n, hn, hd⟩ := perceptron?_eq_some_iff.1 h
  unfold sourcesOf
  rw [hn, Option.map_some, hd]
  rfl

theorem source?_grow {b : Board} {id : NodeId} {p : Perceptron} (h : b.perceptron? id = some p)
    (weight : Float32) (socket : Socket) :
    (b.withDevice id (.perceptron (p.grow weight))).source? socket = b.source? socket := by
  rw [source?_eq, source?_eq, sourcesOf_withDevice h]
  by_cases hid : socket.node = id
  · rw [if_pos hid, hid, sourcesOf_of_perceptron? h]
    have hslots : (p.grow weight).slots = p.slots ++ [none] := rfl
    rw [hslots, List.getElem?_append]
    by_cases hlt : socket.index < p.slots.length
    · rw [if_pos hlt]
    · have hnone : p.slots[socket.index]? = none := List.getElem?_eq_none (by omega)
      rw [if_neg hlt, hnone]
      cases socket.index - p.slots.length with
      | zero => rfl
      | succ k => rfl
  · rw [if_neg hid]

theorem source?_shrink {b : Board} {id : NodeId} {p : Perceptron} (h : b.perceptron? id = some p)
    (socket : Socket) :
    (b.withDevice id (.perceptron p.shrink)).source? socket =
      if socket = ⟨id, p.inputCount - 1⟩ then none else b.source? socket := by
  rw [source?_eq, source?_eq, sourcesOf_withDevice h]
  by_cases hid : socket.node = id
  · rw [if_pos hid, hid, sourcesOf_of_perceptron? h]
    have hslots : p.shrink.slots = p.slots.dropLast := rfl
    have hcount : p.inputCount = p.slots.length := rfl
    rw [hslots, List.getElem?_dropLast, hcount]
    by_cases hlt : socket.index < p.slots.length - 1
    · rw [if_pos hlt, if_neg]
      intro hs
      have hindex : socket.index = p.slots.length - 1 := congrArg Socket.index hs
      omega
    · rw [if_neg hlt]
      by_cases hlast : socket.index = p.slots.length - 1
      · rw [if_pos]
        · rfl
        · rw [← hid, ← hlast]
      · have hnone : p.slots[socket.index]? = none := List.getElem?_eq_none (by omega)
        rw [hnone]
        exact (ite_self _).symm
  · rw [if_neg hid, if_neg]
    intro hs
    exact hid (congrArg Socket.node hs)

/-! ## Flips, moves and ticks -/

theorem source?_flip (b : Board) (id : NodeId) (socket : Socket) :
    (b.modifyNode id (Node.mapDevice Device.toggle)).source? socket = b.source? socket := by
  apply source?_congr
  intro j
  have h := sourcesOf_modifyNode b id (Node.mapDevice Device.toggle) (fun l => l) rfl
    (fun n _ => n.device.sources_toggle) j
  rw [ite_self] at h
  exact h

theorem drives_flip (b : Board) (id j : NodeId) :
    (b.modifyNode id (Node.mapDevice Device.toggle)).drives j = b.drives j :=
  drives_modifyNode b id _ (fun n _ => n.device.hasOutput_toggle) j

theorem source?_carry (b : Board) (id : NodeId) (corner : Point) (socket : Socket) :
    (b.modifyNode id fun n => n.moveTo corner).source? socket = b.source? socket := by
  apply source?_congr
  intro j
  have h := sourcesOf_modifyNode b id (fun n => n.moveTo corner) (fun l => l) rfl (fun _ _ => rfl) j
  rw [ite_self] at h
  exact h

theorem drives_carry (b : Board) (id : NodeId) (corner : Point) (j : NodeId) :
    (b.modifyNode id fun n => n.moveTo corner).drives j = b.drives j :=
  drives_modifyNode b id (fun n => n.moveTo corner) (fun _ _ => rfl) j

theorem sourcesOf_tick (b : Board) (j : NodeId) : b.tick.sourcesOf j = b.sourcesOf j := by
  unfold sourcesOf
  rw [node?_tick]
  cases b.node? j with
  | none => rfl
  | some n => exact n.device.sources_settle _ _ _

theorem source?_tick (b : Board) (socket : Socket) : b.tick.source? socket = b.source? socket :=
  source?_congr b.sourcesOf_tick socket

theorem drives_tick (b : Board) (j : NodeId) : b.tick.drives j = b.drives j := by
  unfold drives
  rw [node?_tick]
  cases b.node? j with
  | none => rfl
  | some n => exact n.device.hasOutput_settle _ _ _

end Board

end SignalBoard
