import SignalBoard.Proofs.Mirror
import SignalBoard.Proofs.Rewiring

/-! # Undoing an edit of the wiring

A call that connects a wire or frees a socket answers with what the socket held, and that is enough
to take the call back (`Board.connect_undone`, `Board.replacement_undone`,
`Board.disconnection_undone`).  The order of the wires comes back as well, unless the wire was
removed: then it comes back as the last one.

Calls on different sockets do not see each other.  A call is a check and a write (`Board.write`): a
write of one socket changes no check of another, and two writes of different sockets come to the
same in either order, but for the order of the wires. -/

namespace SignalBoard

set_option autoImplicit false

/-! ## Inputs of a device -/

namespace Device

theorem wire_wire (d : Device) (index : Nat) (first second : Option NodeId) :
    (d.wire index first).wire index second = d.wire index second := by
  cases d with
  | switch s => rfl
  | perceptron p => simp only [wire, List.set_set]
  | light l =>
    unfold wire
    cases index with
    | zero => rfl
    | succ index => rfl

/-- Wiring to an input what is wired there already changes nothing. -/
theorem wire_of_slot? {d : Device} {index : Nat} {held : Option NodeId}
    (h : d.slot? index = some held) : d.wire index held = d := by
  cases d with
  | switch s => rfl
  | perceptron p =>
    have hslot : p.slots[index]? = some held := h
    obtain ⟨hlt, rfl⟩ := List.getElem?_eq_some_iff.1 hslot
    exact congrArg (fun slots => perceptron { p with slots }) (List.set_getElem_self hlt)
  | light l =>
    unfold wire
    cases index with
    | zero =>
      obtain rfl : l.slot = held := Option.some.inj h
      rfl
    | succ index => rfl

theorem wire_comm (d : Device) {i j : Nat} (h : i ≠ j) (first second : Option NodeId) :
    (d.wire i first).wire j second = (d.wire j second).wire i first := by
  cases d with
  | switch s => rfl
  | perceptron p => simp only [wire, List.set_comm _ _ h]
  | light l =>
    unfold wire
    cases i with
    | zero =>
      cases j with
      | zero => exact absurd rfl h
      | succ j => rfl
    | succ i =>
      cases j with
      | zero => rfl
      | succ j => rfl

theorem slot?_wire_of_ne (d : Device) {i j : Nat} (h : i ≠ j) (source : Option NodeId) :
    (d.wire i source).slot? j = d.slot? j := by
  unfold slot?
  rw [sources_wire, List.getElem?_set_ne h]

end Device

/-! ## The table of wires -/

namespace WireTable

theorem filter_of_free {t : WireTable} {socket : Socket} (h : t.get? socket = none) :
    t.toList.filter (fun w => w.socket ≠ socket) = t.toList := by
  refine List.filter_eq_self.2 fun w hw => decide_eq_true fun heq => ?_
  exact get?_eq_none_iff.1 h (heq ▸ List.mem_map_of_mem hw)

/-- A wire that is added and removed leaves no trace. -/
theorem erase_insert {t : WireTable} {w : Wire} (h : t.get? w.socket = none) :
    (t.insert w).erase w.socket = t :=
  ext ((filter_insert t w).trans (filter_of_free h))

/-- A wire that is replaced and comes back is in its old place. -/
theorem insert_insert {t : WireTable} {v w : Wire} (hv : t.get? v.socket = some v)
    (hsocket : w.socket = v.socket) : (t.insert w).insert v = t := by
  have hw : t.get? w.socket ≠ none := by
    rw [hsocket, hv]
    exact Option.some_ne_none v
  have hback : (t.insert w).get? v.socket ≠ none := by
    rw [get?_insert, if_pos hsocket.symm]
    exact Option.some_ne_none w
  apply ext
  rw [toList_insert_of_held hback, toList_insert_of_held hw, replace, replace, List.map_map]
  refine (List.map_congr_left fun u hu => ?_).trans (List.map_id _)
  show (if (if u.socket = w.socket then w else u).socket = v.socket then v
    else if u.socket = w.socket then w else u) = u
  by_cases hu' : u.socket = v.socket
  · rw [if_pos (hu'.trans hsocket.symm), if_pos hsocket]
    exact (eq_of_socket_eq hu (List.mem_of_find?_eq_some hv) hu').symm
  · rw [hsocket, if_neg hu', if_neg hu']

theorem toList_insert_erase (t : WireTable) (w : Wire) :
    ((t.erase w.socket).insert w).toList =
      t.toList.filter (fun v => v.socket ≠ w.socket) ++ [w] := by
  have hfree : (t.erase w.socket).get? w.socket = none :=
    (t.get?_erase w.socket w.socket).trans (if_pos rfl)
  rw [toList_insert_of_free hfree]
  rfl

/-- A wire that is removed and comes back is the last one; the wires are the same. -/
theorem perm_insert_erase {t : WireTable} {w : Wire} (h : t.get? w.socket = some w) :
    ((t.erase w.socket).insert w).toList.Perm t.toList := by
  have hmem : w ∈ t.toList := List.mem_of_find?_eq_some h
  rw [List.perm_ext_iff_of_nodup (List.Nodup.of_map Wire.socket (distinct _))
    (List.Nodup.of_map Wire.socket t.distinct)]
  intro v
  rw [toList_insert_erase, List.mem_append, List.mem_filter, List.mem_singleton,
    decide_eq_true_iff]
  constructor
  · rintro (⟨hv, -⟩ | rfl)
    · exact hv
    · exact hmem
  · intro hv
    by_cases hsocket : v.socket = w.socket
    · exact .inr (eq_of_socket_eq hv hmem hsocket)
    · exact .inl ⟨hv, hsocket⟩

end WireTable

/-! ## Inputs of a node -/

/-- Two sockets of one node have different indices. -/
theorem Socket.index_ne {s t : Socket} (h : s ≠ t) (hnode : s.node = t.node) :
    s.index ≠ t.index := by
  intro hindex
  cases s
  cases t
  exact h (congrArg₂ Socket.mk hnode hindex)

namespace Node

/-- The node with `source`, or nothing, wired to one of its inputs. -/
def plug (index : Nat) (source : Option NodeId) (n : Node) : Node :=
  n.mapDevice fun d => d.wire index source

theorem plug_plug (index : Nat) (first second : Option NodeId) (n : Node) :
    plug index second (plug index first n) = plug index second n :=
  congrArg (fun d => { n with device := d }) (n.device.wire_wire index first second)

theorem plug_comm {i j : Nat} (h : i ≠ j) (first second : Option NodeId) (n : Node) :
    plug j second (plug i first n) = plug i first (plug j second n) :=
  congrArg (fun d => { n with device := d }) (n.device.wire_comm h first second)

theorem plug_of_slot? {n : Node} {index : Nat} {held : Option NodeId}
    (h : n.device.slot? index = some held) : n.plug index held = n :=
  congrArg (fun d => { n with device := d }) (Device.wire_of_slot? h)

end Node

namespace Board

/-- The board with `source`, or nothing, wired to `socket` in the node alone. -/
def plug (b : Board) (socket : Socket) (source : Option NodeId) : Board :=
  b.modifyNode socket.node (Node.plug socket.index source)

theorem nodes_plug_plug (b : Board) (socket : Socket) (first second : Option NodeId) :
    ((b.plug socket first).plug socket second).nodes = (b.plug socket second).nodes := by
  show (b.nodes.modify socket.node (Node.plug socket.index first)).modify socket.node
    (Node.plug socket.index second) = b.nodes.modify socket.node (Node.plug socket.index second)
  rw [List.modify_modify_eq]
  exact congrArg (b.nodes.modify socket.node)
    (funext (Node.plug_plug socket.index first second))

theorem nodes_plug_of_slot? {b : Board} {socket : Socket} {held : Option NodeId}
    (h : b.slot? socket = some held) : (b.plug socket held).nodes = b.nodes := by
  obtain ⟨n, hn, hslot⟩ := Option.bind_eq_some_iff.1 h
  obtain ⟨hlt, hget⟩ := List.getElem?_eq_some_iff.1 hn
  rw [plug, modifyNode_eq_set hn, Node.plug_of_slot? hslot, ← hget]
  exact List.set_getElem_self hlt

theorem nodes_plug_comm (b : Board) {s t : Socket} (h : s ≠ t) (first second : Option NodeId) :
    ((b.plug s first).plug t second).nodes = ((b.plug t second).plug s first).nodes := by
  show (b.nodes.modify s.node (Node.plug s.index first)).modify t.node
      (Node.plug t.index second) =
    (b.nodes.modify t.node (Node.plug t.index second)).modify s.node (Node.plug s.index first)
  by_cases hnode : s.node = t.node
  · rw [hnode, List.modify_modify_eq, List.modify_modify_eq]
    exact congrArg (b.nodes.modify t.node)
      (funext (Node.plug_comm (Socket.index_ne h hnode) first second))
  · exact List.modify_modify_ne _ _ _ hnode

/-- A socket holds what it held when another one is wired. -/
theorem map_slot?_plug (b : Board) {s t : Socket} (h : s ≠ t) (source : Option NodeId) :
    ((b.plug s source).node? t.node).map (fun n => n.device.slot? t.index) =
      (b.node? t.node).map fun n => n.device.slot? t.index := by
  rw [plug, node?_modifyNode]
  by_cases hnode : t.node = s.node
  · have hindex : s.index ≠ t.index := Socket.index_ne h hnode.symm
    rw [if_pos hnode, Option.map_map]
    congr 1
    funext n
    exact n.device.slot?_wire_of_ne hindex source
  · rw [if_neg hnode]

theorem map_hasOutput_plug (b : Board) (socket : Socket) (source : Option NodeId) (id : NodeId) :
    ((b.plug socket source).node? id).map (fun n => n.device.hasOutput) =
      (b.node? id).map fun n => n.device.hasOutput :=
  map_node?_modifyNode (fun n => n.device.hasOutput) b socket.node
    (fun n _ => n.device.hasOutput_wire socket.index source) id

/-! ## Taking a call back -/

theorem connect_answer_eq_ok_iff {b : Board} {source : NodeId} {socket : Socket}
    {held : Option NodeId} :
    (b.connect source socket).answer = .ok held ↔ b.checkWire source socket = .ok held := by
  unfold connect
  cases b.checkWire source socket with
  | error fault => exact ⟨nofun, nofun⟩
  | ok held' => exact Iff.rfl

/-- The table holds what the node does. -/
theorem Wired.get?_of_slot? {b : Board} (h : Wired b) {socket : Socket} {held : Option NodeId}
    (hslot : b.slot? socket = some held) :
    b.wires.get? socket = held.map fun source => ⟨source, socket⟩ := by
  have hlookup : (b.wires.get? socket).map Wire.source = held := by
    rw [h.lookup socket, source?, hslot]
    rfl
  rw [← hlookup]
  cases hw : b.wires.get? socket with
  | none => rfl
  | some w =>
    rw [← WireTable.socket_of_get? hw]
    rfl

/-- A wire that took a free socket is undone by freeing it. -/
theorem Wired.connect_undone {b : Board} (h : Wired b) {source : NodeId} {socket : Socket}
    (hanswer : (b.connect source socket).answer = .ok none) :
    ((b.connect source socket).state.disconnect socket).answer = some source ∧
      ((b.connect source socket).state.disconnect socket).state = b := by
  have hcheck := connect_answer_eq_ok_iff.1 hanswer
  have hslot := (checkWire_ok hcheck).2
  have hfree : b.wires.get? socket = none := h.get?_of_slot? hslot
  rw [connect_of_checkWire hcheck]
  refine ⟨(source?_attach hcheck socket).trans (if_pos rfl), ?_⟩
  show Board.mk ((b.plug socket (some source)).plug socket none).nodes
    ((b.wires.insert ⟨source, socket⟩).erase socket) b.sampler = b
  rw [nodes_plug_plug, nodes_plug_of_slot? hslot,
    WireTable.erase_insert (w := ⟨source, socket⟩) hfree]

/-- A wire that took the place of another is undone by connecting the other one again. -/
theorem Wired.replacement_undone {b : Board} (h : Wired b) {source previous : NodeId}
    {socket : Socket} (hanswer : (b.connect source socket).answer = .ok (some previous)) :
    ((b.connect source socket).state.connect previous socket).answer = .ok (some source) ∧
      ((b.connect source socket).state.connect previous socket).state = b := by
  have hcheck := connect_answer_eq_ok_iff.1 hanswer
  have hslot := (checkWire_ok hcheck).2
  have hsource : b.source? socket = some previous := by
    rw [source?, hslot]
    rfl
  have hheld : b.wires.get? socket = some ⟨previous, socket⟩ := h.get?_of_slot? hslot
  have hback : (b.attach source socket).checkWire previous socket = .ok (some source) := by
    refine checkWire_of_drives ?_ (slot?_attach hcheck)
    rw [drives_attach]
    exact h.driven socket previous hsource
  rw [connect_of_checkWire hcheck, connect_of_checkWire hback]
  refine ⟨rfl, ?_⟩
  show Board.mk ((b.plug socket (some source)).plug socket (some previous)).nodes
    ((b.wires.insert ⟨source, socket⟩).insert ⟨previous, socket⟩) b.sampler = b
  rw [nodes_plug_plug, nodes_plug_of_slot? hslot,
    WireTable.insert_insert (v := ⟨previous, socket⟩) (w := ⟨source, socket⟩) hheld rfl]

/-- A wire that was removed is connected again, as the last one. -/
theorem Wired.disconnection_undone {b : Board} (h : Wired b) {source : NodeId} {socket : Socket}
    (hanswer : (b.disconnect socket).answer = some source) :
    let back := (b.disconnect socket).state.connect source socket
    back.answer = .ok none ∧ back.state.nodes = b.nodes ∧ back.state.sampler = b.sampler ∧
      back.state.wires.toList =
        b.wires.toList.filter (fun w => w.socket ≠ socket) ++ [⟨source, socket⟩] ∧
      back.state.wires.toList.Perm b.wires.toList := by
  have hsource : b.source? socket = some source := hanswer
  have hslot : b.slot? socket = some (some source) := Option.join_eq_some_iff.1 hsource
  have hheld : b.wires.get? socket = some ⟨source, socket⟩ := h.get?_of_slot? hslot
  have hback : (b.detach socket).checkWire source socket = .ok none := by
    refine checkWire_of_drives ?_ ?_
    · rw [drives_detach]
      exact h.driven socket source hsource
    · rw [(b.rewired_detach socket).slot, hslot]
      rfl
  intro back
  have hconnect : back = _ := connect_of_checkWire hback
  rw [hconnect]
  refine ⟨rfl, ?_, rfl, b.wires.toList_insert_erase ⟨source, socket⟩,
    WireTable.perm_insert_erase (w := ⟨source, socket⟩) hheld⟩
  show ((b.plug socket none).plug socket (some source)).nodes = b.nodes
  rw [nodes_plug_plug, nodes_plug_of_slot? hslot]

end Board

/-! ## Calls on different sockets -/

/-- A call that changes what is wired to a socket. -/
inductive Rewiring
  | connect (source : NodeId) (socket : Socket)
  | disconnect (socket : Socket)

namespace Rewiring

def socket : Rewiring → Socket
  | connect _ socket => socket
  | disconnect socket => socket

/-- What is wired to the socket after the call. -/
def source? : Rewiring → Option NodeId
  | connect source _ => some source
  | disconnect _ => none

/-- What the call does to the table of wires. -/
def record (r : Rewiring) (t : WireTable) : WireTable :=
  match r with
  | connect source socket => t.insert ⟨source, socket⟩
  | disconnect socket => t.erase socket

theorem get?_record (r : Rewiring) (t : WireTable) (socket : Socket) :
    (r.record t).get? socket =
      if socket = r.socket then r.source?.map (Wire.mk · socket) else t.get? socket := by
  cases r with
  | connect source target =>
    refine (t.get?_insert ⟨source, target⟩ socket).trans ?_
    by_cases h : socket = target
    · subst h
      rfl
    · exact (if_neg h).trans (if_neg h).symm
  | disconnect target => exact t.get?_erase target socket

end Rewiring

namespace Board

/-- Makes the call; a disconnection is never refused. -/
def rewire (b : Board) : Rewiring → Outcome Board (Except Fault (Option NodeId))
  | .connect source socket => b.connect source socket
  | .disconnect socket => (b.disconnect socket).mapAnswer .ok

/-- What the call answers, which it finds out before it changes anything. -/
def check (b : Board) : Rewiring → Except Fault (Option NodeId)
  | .connect source socket => b.checkWire source socket
  | .disconnect socket => .ok (b.source? socket)

/-- The board as the call leaves it if it is not refused. -/
def write (b : Board) (r : Rewiring) : Board :=
  { b.plug r.socket r.source? with wires := r.record b.wires }

theorem answer_rewire (b : Board) (r : Rewiring) : (b.rewire r).answer = b.check r := by
  cases r with
  | disconnect socket => rfl
  | connect source socket =>
    show (b.connect source socket).answer = b.checkWire source socket
    unfold connect
    cases b.checkWire source socket with
    | error fault => rfl
    | ok held => rfl

theorem state_rewire (b : Board) (r : Rewiring) :
    (b.rewire r).state = if (b.check r).isOk then b.write r else b := by
  cases r with
  | disconnect socket => rfl
  | connect source socket =>
    show (b.connect source socket).state =
      if (b.checkWire source socket).isOk then b.attach source socket else b
    unfold connect
    cases b.checkWire source socket with
    | error fault => rfl
    | ok held => rfl

/-- A check looks at the output of the source and at what the socket holds. -/
theorem checkWire_congr {b c : Board} {source : NodeId} {socket : Socket}
    (hsource : (c.node? source).map (fun n => n.device.hasOutput) =
      (b.node? source).map fun n => n.device.hasOutput)
    (hslot : (c.node? socket.node).map (fun n => n.device.slot? socket.index) =
      (b.node? socket.node).map fun n => n.device.slot? socket.index) :
    c.checkWire source socket = b.checkWire source socket := by
  have hcheck (b : Board) : b.checkWire source socket =
      match (b.node? source).map fun n => n.device.hasOutput with
      | none => .error (.unknownNode source)
      | some false => .error (.noOutput source)
      | some true =>
        match (b.node? socket.node).map fun n => n.device.slot? socket.index with
        | none => .error (.unknownNode socket.node)
        | some none => .error (.noInput socket)
        | some (some held) => .ok held := by
    unfold checkWire
    cases b.node? source with
    | none => rfl
    | some start =>
      cases hout : start.device.hasOutput with
      | false => simp [hout]
      | true =>
        cases b.node? socket.node with
        | none => simp [hout]
        | some target =>
          cases hheld : target.device.slot? socket.index with
          | none => simp [hout, hheld]
          | some held => simp [hout, hheld]
  rw [hcheck, hcheck, hsource, hslot]

/-- A write of one socket changes no check of another. -/
theorem check_write (b : Board) {r r' : Rewiring} (h : r.socket ≠ r'.socket) :
    (b.write r).check r' = b.check r' := by
  cases r' with
  | connect source socket =>
    exact checkWire_congr (b.map_hasOutput_plug r.socket r.source? source)
      (b.map_slot?_plug h r.source?)
  | disconnect socket =>
    have hsource (b : Board) : b.source? socket =
        (((b.node? socket.node).map fun n => n.device.slot? socket.index).join).join := by
      unfold source? slot?
      cases b.node? socket.node with
      | none => rfl
      | some n => rfl
    refine congrArg Except.ok ?_
    rw [hsource, hsource]
    exact congrArg (fun held => held.join.join) (b.map_slot?_plug h r.source?)

theorem check_rewire (b : Board) {r r' : Rewiring} (h : r.socket ≠ r'.socket) :
    (b.rewire r).state.check r' = b.check r' := by
  rw [state_rewire]
  split
  · exact b.check_write h
  · rfl

/-- The boards are the same but for the order of their wires. -/
structure SameWiring (b c : Board) : Prop where
  nodes : b.nodes = c.nodes
  wires : ∀ socket, b.wires.get? socket = c.wires.get? socket
  sampler : b.sampler = c.sampler

theorem sameWiring_self (b : Board) : b.SameWiring b := ⟨rfl, fun _ => rfl, rfl⟩

theorem sameWiring_write (b : Board) {r r' : Rewiring} (h : r.socket ≠ r'.socket) :
    ((b.write r).write r').SameWiring ((b.write r').write r) where
  nodes := b.nodes_plug_comm h r.source? r'.source?
  wires socket := by
    show (r'.record (r.record b.wires)).get? socket = (r.record (r'.record b.wires)).get? socket
    rw [Rewiring.get?_record, Rewiring.get?_record, Rewiring.get?_record, Rewiring.get?_record]
    by_cases hr : socket = r.socket
    · have hr' : socket ≠ r'.socket := fun hr' => h (hr.symm.trans hr')
      rw [if_pos hr, if_neg hr', if_pos hr]
    · rw [if_neg hr, if_neg hr]
  sampler := rfl

theorem sameWiring_rewire (b : Board) {r r' : Rewiring} (h : r.socket ≠ r'.socket) :
    ((b.rewire r).state.rewire r').state.SameWiring ((b.rewire r').state.rewire r).state := by
  rw [state_rewire (b.rewire r).state r', state_rewire (b.rewire r').state r, check_rewire b h,
    check_rewire b h.symm, state_rewire b r, state_rewire b r']
  cases hr : (b.check r).isOk with
  | false => exact sameWiring_self _
  | true =>
    cases hr' : (b.check r').isOk with
    | false => exact sameWiring_self _
    | true => exact b.sameWiring_write h

/-- A call that rewires a socket is taken back by what it answered, and calls on different sockets
answer the same and come to the same in either order. -/
theorem rewiring_undone_and_commutes {b : Board} (h : b.Reachable) :
    (∀ source socket, (b.connect source socket).answer = .ok none →
      ((b.connect source socket).state.disconnect socket).answer = some source ∧
        ((b.connect source socket).state.disconnect socket).state = b) ∧
    (∀ source socket previous, (b.connect source socket).answer = .ok (some previous) →
      ((b.connect source socket).state.connect previous socket).answer = .ok (some source) ∧
        ((b.connect source socket).state.connect previous socket).state = b) ∧
    (∀ source socket, (b.disconnect socket).answer = some source →
      let back := (b.disconnect socket).state.connect source socket
      back.answer = .ok none ∧ back.state.nodes = b.nodes ∧ back.state.sampler = b.sampler ∧
        back.state.wires.toList =
          b.wires.toList.filter (fun w => w.socket ≠ socket) ++ [⟨source, socket⟩] ∧
        back.state.wires.toList.Perm b.wires.toList) ∧
    ∀ first second : Rewiring, first.socket ≠ second.socket →
      ((b.rewire first).state.rewire second).answer = (b.rewire second).answer ∧
        ((b.rewire second).state.rewire first).answer = (b.rewire first).answer ∧
        ((b.rewire first).state.rewire second).state.SameWiring
          ((b.rewire second).state.rewire first).state := by
  refine ⟨fun _ _ => h.wired.connect_undone, fun _ _ _ => h.wired.replacement_undone,
    fun _ _ => h.wired.disconnection_undone, fun first second hne => ⟨?_, ?_, ?_⟩⟩
  · rw [answer_rewire, answer_rewire, check_rewire b hne]
  · rw [answer_rewire, answer_rewire, check_rewire b hne.symm]
  · exact b.sameWiring_rewire hne

/-- A switch that drives both inputs of a perceptron, and a light that the perceptron drives. -/
def forkedSwitch : Board :=
  ((Workbench.ofBoard (.empty 0)).run
    [.addSwitch ⟨50, 50⟩, .addPerceptron ⟨200, 100⟩ 2 (some [1, 1]) (some (-1.5)),
      .addLight ⟨600, 100⟩, .connect 0 ⟨1, 0⟩, .connect 1 ⟨2, 0⟩, .connect 0 ⟨1, 1⟩]).board

/-- The first wire is replaced and comes back in its place, or is removed and comes back last; it
makes no difference whether the light loses its wire before or after. -/
theorem forkedSwitch_undone :
    let replaced := (forkedSwitch.connect 1 ⟨1, 0⟩).state
    let removed := (forkedSwitch.disconnect ⟨1, 0⟩).state
    forkedSwitch.Reachable ∧
      forkedSwitch.wires.toList = [⟨0, ⟨1, 0⟩⟩, ⟨1, ⟨2, 0⟩⟩, ⟨0, ⟨1, 1⟩⟩] ∧
      replaced ≠ forkedSwitch ∧ (replaced.connect 0 ⟨1, 0⟩).state = forkedSwitch ∧
      (removed.connect 0 ⟨1, 0⟩).state.wires.toList =
        [⟨1, ⟨2, 0⟩⟩, ⟨0, ⟨1, 1⟩⟩, ⟨0, ⟨1, 0⟩⟩] ∧
      (replaced.disconnect ⟨2, 0⟩).answer = some 1 ∧
      (replaced.disconnect ⟨2, 0⟩).state.SameWiring
        ((forkedSwitch.disconnect ⟨2, 0⟩).state.connect 1 ⟨1, 0⟩).state := by
  have h : forkedSwitch.Reachable := Reachable.run (.empty 0) _
  obtain ⟨-, hreplaced, hremoved, hcomm⟩ := rewiring_undone_and_commutes h
  have hwires : forkedSwitch.wires.toList = [⟨0, ⟨1, 0⟩⟩, ⟨1, ⟨2, 0⟩⟩, ⟨0, ⟨1, 1⟩⟩] := by
    decide +kernel
  have hback := (hremoved 0 ⟨1, 0⟩ (by decide +kernel)).2.2.2.1
  rw [hwires] at hback
  exact ⟨h, hwires, by decide +kernel, (hreplaced 1 ⟨1, 0⟩ 0 (by decide +kernel)).2,
    hback, by decide +kernel,
    (hcomm (.connect 1 ⟨1, 0⟩) (.disconnect ⟨2, 0⟩) (by decide)).2.2⟩

end Board

end SignalBoard
