import SignalBoard.Proofs.Coherence

/-! # One wire at a time

Connecting a wire and freeing a socket are the two edits of the wiring.  `Board.Refuses` lists the
faults of a wire, each with all that has to be the case for it to be the one that is found, and
`Board.Rewired` says what an edit of one socket leaves: the node and the table hold the same there,
and there is no other difference.  Neither asks that the inputs of the nodes and the table of wires
agree beforehand. -/

namespace SignalBoard

set_option autoImplicit false

/-! ## The table of wires -/

namespace WireTable

/-- An insertion changes no wire to another socket, nor the order of those wires. -/
theorem filter_insert (t : WireTable) (w : Wire) :
    (t.insert w).toList.filter (fun v => v.socket ≠ w.socket) =
      t.toList.filter fun v => v.socket ≠ w.socket := by
  have hreplace (ws : List Wire) : (replace w ws).filter (fun v => v.socket ≠ w.socket) =
      ws.filter fun v => v.socket ≠ w.socket := by
    induction ws with
    | nil => rfl
    | cons v vs ih =>
      have hcons : replace w (v :: vs) = (if v.socket = w.socket then w else v) :: replace w vs :=
        rfl
      rw [hcons, List.filter_cons, List.filter_cons, ih]
      by_cases hv : v.socket = w.socket
      · simp [hv]
      · simp [hv]
  unfold insert
  split
  · simp
  · exact hreplace t.toList

theorem filter_erase (t : WireTable) (socket : Socket) :
    (t.erase socket).toList.filter (fun v => v.socket ≠ socket) =
      t.toList.filter fun v => v.socket ≠ socket := by
  rw [erase, List.filter_filter]
  simp

end WireTable

/-! ## Devices -/

/-- The device with nothing wired to it. -/
def Device.unwired : Device → Device
  | switch s => switch s
  | perceptron p => perceptron { p with slots := List.replicate p.inputCount none }
  | light l => light { l with slot := none }

theorem Device.unwired_wire (d : Device) (index : Nat) (source : Option NodeId) :
    (d.wire index source).unwired = d.unwired := by
  cases d with
  | switch s => rfl
  | perceptron p =>
    have hcount : (p.slots.set index source).length = p.slots.length := List.length_set
    simp only [wire, unwired, Perceptron.inputCount, hcount]
  | light l =>
    unfold wire
    cases index with
    | zero => rfl
    | succ index => rfl

theorem Device.slot?_eq_none_iff (d : Device) (index : Nat) :
    d.slot? index = none ↔ d.kind = .switch ∨ d.sources.length ≤ index := by
  unfold slot?
  rw [List.getElem?_eq_none_iff]
  cases d with
  | switch s => simp [kind, sources, sources?]
  | perceptron p => simp [kind]
  | light l => simp [kind]

def Node.unwired (n : Node) : Node := n.mapDevice Device.unwired

namespace Board

/-! ## What an edit of one socket leaves -/

/-- `b'` is `b` with `source`, or nothing, wired to `socket`: in the node, if it has that input, and
in the table. -/
structure Rewired (b b' : Board) (socket : Socket) (source : Option NodeId) : Prop where
  slot : b'.slot? socket = (b.slot? socket).map fun _ => source
  wire : b'.wires.get? socket = source.map fun source => ⟨source, socket⟩
  otherSlots : ∀ other, other ≠ socket → b'.slot? other = b.slot? other
  otherWires : b'.wires.toList.filter (fun w => w.socket ≠ socket) =
    b.wires.toList.filter fun w => w.socket ≠ socket
  nodes : b'.nodes.map Node.unwired = b.nodes.map Node.unwired
  sampler : b'.sampler = b.sampler

theorem rewired_of_wire {b b' : Board} {socket : Socket} {source : Option NodeId}
    (hnodes : b'.nodes = (b.modifyNode socket.node
      (Node.mapDevice fun d => d.wire socket.index source)).nodes)
    (hsampler : b'.sampler = b.sampler)
    (hwire : b'.wires.get? socket = source.map fun source => ⟨source, socket⟩)
    (hwires : b'.wires.toList.filter (fun w => w.socket ≠ socket) =
      b.wires.toList.filter fun w => w.socket ≠ socket) :
    b.Rewired b' socket source := by
  have hslot := slot?_of_set b b' socket fun id => by
    have hset := sourcesOf_modifyNode b socket.node
      (Node.mapDevice fun d => d.wire socket.index source) (fun l => l.set socket.index source)
      List.set_nil (fun n _ => n.device.sources_wire socket.index source) id
    unfold sourcesOf node? at *
    rw [hnodes]
    exact hset
  refine ⟨?_, hwire, fun other hother => ?_, hwires, ?_, hsampler⟩
  · rw [hslot, if_pos rfl]
  · rw [hslot, if_neg hother]
  · rw [hnodes]
    refine map_modifyNode Node.unwired b socket.node fun n _ => ?_
    exact congrArg (fun d => { n with device := d }) (n.device.unwired_wire socket.index source)

theorem rewired_attach (b : Board) (source : NodeId) (socket : Socket) :
    b.Rewired (b.attach source socket) socket (some source) := by
  refine rewired_of_wire rfl rfl ?_ (b.wires.filter_insert ⟨source, socket⟩)
  exact (b.wires.get?_insert ⟨source, socket⟩ socket).trans (if_pos rfl)

theorem rewired_detach (b : Board) (socket : Socket) :
    b.Rewired (b.detach socket) socket none :=
  rewired_of_wire rfl rfl ((b.wires.get?_erase socket socket).trans (if_pos rfl))
    (b.wires.filter_erase socket)

/-! ## What is refused -/

/-- Why `b` refuses a wire from `source` to `socket`: the first fault that it finds. -/
inductive Refuses (b : Board) (source : NodeId) (socket : Socket) : Fault → Prop
  | unknownSource (hsource : b.node? source = none) :
      Refuses b source socket (.unknownNode source)
  | noOutput (start : Node) (hsource : b.node? source = some start)
      (hkind : start.device.kind = .light) : Refuses b source socket (.noOutput source)
  | unknownTarget (start : Node) (hsource : b.node? source = some start)
      (hkind : start.device.kind ≠ .light) (htarget : b.node? socket.node = none) :
      Refuses b source socket (.unknownNode socket.node)
  | noInput (start target : Node) (hsource : b.node? source = some start)
      (hkind : start.device.kind ≠ .light) (htarget : b.node? socket.node = some target)
      (hinput : target.device.kind = .switch ∨ target.device.sources.length ≤ socket.index) :
      Refuses b source socket (.noInput socket)

theorem refuses_of_checkWire {b : Board} {source : NodeId} {socket : Socket} {fault : Fault}
    (h : b.checkWire source socket = .error fault) : b.Refuses source socket fault := by
  unfold checkWire at h
  cases hsource : b.node? source with
  | none =>
    rw [hsource] at h
    cases h
    exact .unknownSource hsource
  | some start =>
    by_cases hkind : start.device.kind = .light
    · simp only [hsource, start.device.hasOutput_eq, hkind] at h
      cases h
      exact .noOutput start hsource hkind
    · cases htarget : b.node? socket.node with
      | none =>
        simp [hsource, start.device.hasOutput_eq, hkind, htarget] at h
        subst h
        exact .unknownTarget start hsource hkind htarget
      | some target =>
        cases hslot : target.device.slot? socket.index with
        | none =>
          simp [hsource, start.device.hasOutput_eq, hkind, htarget, hslot] at h
          subst h
          exact .noInput start target hsource hkind htarget ((target.device.slot?_eq_none_iff _).1 hslot)
        | some held => simp [hsource, start.device.hasOutput_eq, hkind, htarget, hslot] at h

theorem Refuses.checkWire {b : Board} {source : NodeId} {socket : Socket} {fault : Fault}
    (h : b.Refuses source socket fault) : b.checkWire source socket = .error fault := by
  unfold Board.checkWire
  cases h with
  | unknownSource hsource => rw [hsource]
  | noOutput start hsource hkind => simp [hsource, start.device.hasOutput_eq, hkind]
  | unknownTarget start hsource hkind htarget =>
    simp [hsource, start.device.hasOutput_eq, hkind, htarget]
  | noInput start target hsource hkind htarget hinput =>
    have hslot : target.device.slot? socket.index = none := (target.device.slot?_eq_none_iff _).2 hinput
    simp [hsource, start.device.hasOutput_eq, hkind, htarget, hslot]

theorem connect_of_refuses {b : Board} {source : NodeId} {socket : Socket} {fault : Fault}
    (h : b.Refuses source socket fault) :
    b.connect source socket = .quiet b (.error fault) := by
  unfold connect
  rw [h.checkWire]

theorem refuses_of_connect {b : Board} {source : NodeId} {socket : Socket} {fault : Fault}
    (h : (b.connect source socket).answer = .error fault) : b.Refuses source socket fault := by
  unfold connect at h
  cases hcheck : b.checkWire source socket with
  | error fault' =>
    rw [hcheck] at h
    obtain rfl : fault' = fault := Except.error.inj h
    exact refuses_of_checkWire hcheck
  | ok held =>
    rw [hcheck] at h
    cases h

/-! ## Connecting and disconnecting -/

theorem rewired_of_connect {b : Board} {source : NodeId} {socket : Socket} {held : Option NodeId}
    (h : (b.connect source socket).answer = .ok held) :
    b.slot? socket = some held ∧
      b.Rewired (b.connect source socket).state socket (some source) := by
  cases hcheck : b.checkWire source socket with
  | error fault =>
    rw [connect_of_refuses (refuses_of_checkWire hcheck)] at h
    cases h
  | ok held' =>
    rw [connect_of_checkWire hcheck] at h ⊢
    obtain rfl : held' = held := Except.ok.inj h
    exact ⟨(checkWire_ok hcheck).2, b.rewired_attach source socket⟩

/-- A wire is refused for exactly the first of its faults, and then nothing has changed; else it
takes the place of what the socket held, which is the answer.  A disconnection always succeeds,
answers with what the socket held, and leaves it free. -/
theorem rewiring_exact (b : Board) (socket : Socket) :
    (∀ source,
        (∀ fault, (b.connect source socket).answer = .error fault ↔
          b.Refuses source socket fault) ∧
        (∀ fault, (b.connect source socket).answer = .error fault →
          (b.connect source socket).state = b) ∧
        ∀ held, (b.connect source socket).answer = .ok held →
          b.slot? socket = some held ∧
            b.Rewired (b.connect source socket).state socket (some source)) ∧
      (b.disconnect socket).answer = (b.slot? socket).join ∧
      b.Rewired (b.disconnect socket).state socket none := by
  refine ⟨fun source => ⟨fun fault => ⟨refuses_of_connect, fun h => ?_⟩, fun fault h => ?_,
    fun held => rewired_of_connect⟩, rfl, b.rewired_detach socket⟩
  · rw [connect_of_refuses h]
    rfl
  · rw [connect_of_refuses (refuses_of_connect h)]
    rfl

/-- Two perceptrons whose inputs and whose table of wires disagree: only the second perceptron knows
of its wire from the first, and only the table knows of the wire back. -/
def discordant : Board :=
  let b := ((Workbench.ofBoard (.empty 0)).run
    [.addPerceptron ⟨200, 100⟩ 1 (some [1]) (some 0),
      .addPerceptron ⟨400, 200⟩ 1 (some [1]) (some 0), .connect 0 ⟨1, 0⟩]).board
  { b with wires := (b.wires.erase ⟨1, 0⟩).insert ⟨1, ⟨0, 0⟩⟩ }

/-- The first perceptron is wired to itself.  Its input was free, though the table had a wire there,
and what the records disagree about elsewhere stays as it was. -/
theorem discordant_selfWired :
    let b := (discordant.connect 0 ⟨0, 0⟩).state
    (discordant.connect 0 ⟨0, 0⟩).answer = .ok none ∧ discordant.Rewired b ⟨0, 0⟩ (some 0) ∧
      b.wires.toList = [⟨0, ⟨0, 0⟩⟩] ∧ b.slot? ⟨1, 0⟩ = some (some 0) := by
  have hanswer : (discordant.connect 0 ⟨0, 0⟩).answer = .ok none := by decide +kernel
  obtain ⟨-, hrewired⟩ := ((rewiring_exact discordant ⟨0, 0⟩).1 0).2.2 none hanswer
  refine ⟨hanswer, hrewired, by decide +kernel, ?_⟩
  rw [hrewired.otherSlots ⟨1, 0⟩ (by decide)]
  decide +kernel

end Board

end SignalBoard
