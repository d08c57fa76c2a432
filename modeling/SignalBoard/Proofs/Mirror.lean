import Mathlib.Data.List.Nodup
import SignalBoard.Proofs.Slots

/-! # The two records of the wiring

What is wired where is recorded twice, in the inputs of the nodes and in the table of wires, and the
two are written by different operations.  `Board.Mirrored` says that they describe the same wires.

The invariant behind it is `Board.Wired`: looking up any socket, existing or not, gives the same
source in both, and every such source drives its wire.  Each kind of edit is one of three: it leaves
the sources alone (`Wired.of_same`), it puts a source (`Wired.attach`) or it frees a socket
(`Wired.of_erase`). -/

namespace SignalBoard

set_option autoImplicit false

/-! ## Wires of a table -/

namespace WireTable

theorem eq_of_socket_eq {t : WireTable} {v w : Wire} (hv : v ∈ t.toList) (hw : w ∈ t.toList)
    (h : v.socket = w.socket) : v = w :=
  List.inj_on_of_nodup_map t.distinct hv hw h

theorem get?_of_mem {t : WireTable} {w : Wire} (hw : w ∈ t.toList) :
    t.get? w.socket = some w := by
  cases hget : t.get? w.socket with
  | none => exact absurd (List.mem_map_of_mem hw) (get?_eq_none_iff.1 hget)
  | some v =>
    have hv : v ∈ t.toList := List.mem_of_find?_eq_some hget
    rw [eq_of_socket_eq hv hw (socket_of_get? hget)]

end WireTable

namespace Board

def inputs? (b : Board) (id : NodeId) : Option (List (Option NodeId)) :=
  (b.node? id).bind fun n => n.device.sources?

def IsSource (b : Board) (id : NodeId) : Prop :=
  ∃ n, b.node? id = some n ∧ n.device.hasOutput = true

/-- The table of wires and the inputs of the nodes describe the same wires. -/
structure Mirrored (b : Board) : Prop where
  agree : ∀ target slots index, b.inputs? target = some slots → index < slots.length →
    ∀ source, (b.wires.get? ⟨target, index⟩).map Wire.source = some source ↔
      slots[index]? = some (some source)
  target : ∀ w ∈ b.wires.toList, ∃ slots,
    b.inputs? w.socket.node = some slots ∧ w.socket.index < slots.length
  source : ∀ w ∈ b.wires.toList, b.IsSource w.source
  held : ∀ target slots, b.inputs? target = some slots →
    ∀ source, some source ∈ slots → b.IsSource source
  distinct : ∀ v ∈ b.wires.toList, ∀ w ∈ b.wires.toList, v.socket = w.socket → v = w

/-! ## The invariant -/

structure Wired (b : Board) : Prop where
  lookup : ∀ socket, (b.wires.get? socket).map Wire.source = b.source? socket
  driven : ∀ socket source, b.source? socket = some source → b.drives source = true

theorem wired_empty (seed : UInt64) : Wired (.empty seed) :=
  ⟨fun _ => rfl, fun _ _ h => by cases h⟩

theorem Wired.of_same {b b' : Board} (h : Wired b) (hwires : b'.wires = b.wires)
    (hsource : ∀ socket, b'.source? socket = b.source? socket)
    (hdrives : ∀ j, b.drives j = true → b'.drives j = true) : Wired b' := by
  refine ⟨fun socket => ?_, fun socket source hs => ?_⟩
  · rw [hwires, hsource]
    exact h.lookup socket
  · rw [hsource] at hs
    exact hdrives source (h.driven socket source hs)

theorem Wired.attach {b : Board} (h : Wired b) {source : NodeId} {target : Socket}
    {held : Option NodeId} (hcheck : b.checkWire source target = .ok held) :
    Wired (b.attach source target) := by
  refine ⟨fun socket => ?_, fun socket source' hs => ?_⟩
  · have hwires : (b.attach source target).wires = b.wires.insert ⟨source, target⟩ := rfl
    rw [hwires, WireTable.get?_insert, source?_attach hcheck]
    by_cases hsocket : socket = target
    · rw [if_pos hsocket, if_pos hsocket]
      rfl
    · rw [if_neg hsocket, if_neg hsocket]
      exact h.lookup socket
  · rw [drives_attach]
    rw [source?_attach hcheck] at hs
    by_cases hsocket : socket = target
    · rw [if_pos hsocket] at hs
      exact Option.some.inj hs ▸ (checkWire_ok hcheck).1
    · rw [if_neg hsocket] at hs
      exact h.driven socket source' hs

theorem Wired.of_erase {b b' : Board} (h : Wired b) (target : Socket)
    (hwires : b'.wires = b.wires.erase target)
    (hsource : ∀ socket, b'.source? socket = if socket = target then none else b.source? socket)
    (hdrives : ∀ j, b'.drives j = b.drives j) : Wired b' := by
  refine ⟨fun socket => ?_, fun socket source hs => ?_⟩
  · rw [hwires, WireTable.get?_erase, hsource]
    by_cases hsocket : socket = target
    · rw [if_pos hsocket, if_pos hsocket]
      rfl
    · rw [if_neg hsocket, if_neg hsocket]
      exact h.lookup socket
  · rw [hdrives]
    rw [hsource] at hs
    by_cases hsocket : socket = target
    · rw [if_pos hsocket] at hs
      cases hs
    · rw [if_neg hsocket] at hs
      exact h.driven socket source hs

theorem source?_last {b : Board} {id : NodeId} {p : Perceptron} (h : b.perceptron? id = some p) :
    b.source? ⟨id, p.inputCount - 1⟩ = p.lastSource := by
  rw [source?_eq, sourcesOf_of_perceptron? h, Perceptron.lastSource, List.getLast?_eq_getElem?]
  rfl

/-- An input without a source leaves no wire behind when it goes. -/
theorem Wired.shrink {b : Board} (h : Wired b) {id : NodeId} {p : Perceptron}
    (hp : b.perceptron? id = some p) :
    Wired { b.withDevice id (.perceptron p.shrink) with
      wires := if p.lastSource.isSome then b.wires.erase ⟨id, p.inputCount - 1⟩ else b.wires } := by
  by_cases hlast : p.lastSource.isSome = true
  · rw [if_pos hlast]
    exact h.of_erase ⟨id, p.inputCount - 1⟩ rfl (source?_shrink hp) (drives_withDevice hp)
  · rw [if_neg hlast]
    have hnone : p.lastSource = none := by simpa using hlast
    refine h.of_same rfl (fun socket => ?_) fun j hj => (drives_withDevice hp j).trans hj
    refine (source?_shrink hp socket).trans ?_
    by_cases hsocket : socket = ⟨id, p.inputCount - 1⟩
    · rw [if_pos hsocket, hsocket, source?_last hp, hnone]
    · rw [if_neg hsocket]

theorem Wired.edit {b b' : Board} (h : Wired b) (hedit : Edit b b') : Wired b' := by
  cases hedit with
  | keep => exact h
  | add drawn bounds device hfresh =>
    exact h.of_same rfl (source?_add _ bounds hfresh) fun j => drives_add _ bounds device
  | attach source socket held hcheck => exact h.attach hcheck
  | detach socket => exact h.of_erase socket rfl (source?_detach b socket) (drives_detach b socket)
  | grow id p hp hgrow =>
    exact h.of_same rfl (source?_grow hp _) fun j hj => (drives_withDevice hp j).trans hj
  | shrink id p hp hshrink wires hwires =>
    subst hwires
    exact h.shrink hp
  | flip id => exact h.of_same rfl (source?_flip b id) fun j hj => (drives_flip b id j).trans hj
  | carry id corner =>
    exact h.of_same rfl (source?_carry b id corner) fun j hj =>
      (drives_carry b id corner j).trans hj
  | tick => exact h.of_same rfl (source?_tick b) fun j hj => (drives_tick b j).trans hj

theorem Reachable.wired {b : Board} (h : Reachable b) : Wired b :=
  h.invariant wired_empty fun _ _ => Wired.edit

/-! ## What it says about the two records -/

theorem isSource_iff {b : Board} {id : NodeId} : b.IsSource id ↔ b.drives id = true := by
  unfold IsSource drives
  cases b.node? id with
  | none => simp
  | some n => simp

theorem sourcesOf_of_inputs? {b : Board} {id : NodeId} {slots : List (Option NodeId)}
    (h : b.inputs? id = some slots) : b.sourcesOf id = slots := by
  obtain ⟨n, hn, hslots⟩ := Option.bind_eq_some_iff.1 h
  unfold sourcesOf
  rw [hn, Option.map_some, Device.sources, hslots]
  rfl

theorem inputs?_of_source? {b : Board} {socket : Socket} {source : NodeId}
    (h : b.source? socket = some source) :
    ∃ slots, b.inputs? socket.node = some slots ∧ socket.index < slots.length := by
  unfold source? slot? Device.slot? Device.sources at h
  unfold inputs?
  cases hn : b.node? socket.node with
  | none => rw [hn] at h; cases h
  | some n =>
    rw [hn, Option.bind_some] at h
    rw [Option.bind_some]
    cases hslots : n.device.sources? with
    | none => rw [hslots] at h; cases h
    | some slots =>
      rw [hslots, Option.getD_some] at h
      refine ⟨slots, rfl, Nat.lt_of_not_le fun hle => ?_⟩
      rw [List.getElem?_eq_none hle] at h
      cases h

theorem Wired.source?_of_mem {b : Board} (h : Wired b) {w : Wire} (hw : w ∈ b.wires.toList) :
    b.source? w.socket = some w.source := by
  rw [← h.lookup, WireTable.get?_of_mem hw]
  rfl

theorem Wired.slot?_of_mem {b : Board} (h : Wired b) {w : Wire} (hw : w ∈ b.wires.toList) :
    b.slot? w.socket = some (some w.source) :=
  Option.join_eq_some_iff.1 (h.source?_of_mem hw)

theorem Wired.drives_of_mem {b : Board} (h : Wired b) {w : Wire} (hw : w ∈ b.wires.toList) :
    b.drives w.source = true := h.driven w.socket w.source (h.source?_of_mem hw)

theorem Wired.mirrored {b : Board} (h : Wired b) : Mirrored b where
  agree target slots index hslots hindex source := by
    rw [h.lookup, source?_eq, sourcesOf_of_inputs? hslots, List.getElem?_eq_getElem hindex]
    simp
  target w hw := inputs?_of_source? (h.source?_of_mem hw)
  source w hw := isSource_iff.2 (h.drives_of_mem hw)
  held target slots hslots source hmem := by
    obtain ⟨index, hindex⟩ := List.mem_iff_getElem?.1 hmem
    refine isSource_iff.2 (h.driven ⟨target, index⟩ source ?_)
    rw [source?_eq, sourcesOf_of_inputs? hslots, hindex]
    rfl
  distinct v hv w hw := WireTable.eq_of_socket_eq hv hw

theorem Wired.listed {b : Board} (h : Wired b) (socket other : Socket) :
    Notice.wireUnlisted other ∉ (b.disconnect socket).notices := by
  have hlookup := h.lookup socket
  unfold disconnect detachNotices
  cases hs : b.source? socket with
  | none => exact List.not_mem_nil
  | some source =>
    rw [hs] at hlookup
    have hget : b.wires.get? socket ≠ none := fun hnone => by
      rw [hnone] at hlookup
      cases hlookup
    simp [hget]

theorem Wired.dropsWire {b : Board} (h : Wired b) {id : NodeId} {p : Perceptron}
    (hp : b.perceptron? id = some p) :
    b.dropsWire ⟨id, p.inputCount - 1⟩ p.lastSource = p.lastSource.isSome := by
  have hlookup := h.lookup ⟨id, p.inputCount - 1⟩
  rw [source?_last hp] at hlookup
  unfold Board.dropsWire
  rw [← hlookup, Option.isSome_map, Bool.and_self]

/-! ## Reachable boards -/

/-- On every reachable board the two records of the wiring agree.  Freeing a socket never finds a
wire missing from the table, and taking an input away drops a wire if the input had a source. -/
theorem mirrored_of_reachable {b : Board} (h : b.Reachable) :
    b.Mirrored ∧
      (∀ socket other, Notice.wireUnlisted other ∉ (b.disconnect socket).notices) ∧
      ∀ id p, b.perceptron? id = some p →
        b.dropsWire ⟨id, p.inputCount - 1⟩ p.lastSource = p.lastSource.isSome :=
  ⟨h.wired.mirrored, h.wired.listed, fun _ _ => h.wired.dropsWire⟩

/-- A board where a wire went away with its input and a perceptron was wired to itself. -/
def selfWired : Board :=
  ((Workbench.ofBoard (.empty 0)).run
    [.addSwitch ⟨50, 50⟩, .addPerceptron ⟨200, 100⟩ 2 (some [1, 1]) (some (-1.5)),
      .addLight ⟨600, 100⟩, .connect 0 ⟨1, 1⟩, .connect 1 ⟨2, 0⟩, .decrementInputs 1,
      .connect 1 ⟨1, 0⟩]).board

theorem selfWired_mirrored :
    selfWired.Reachable ∧ selfWired.wires.toList = [⟨1, ⟨2, 0⟩⟩, ⟨1, ⟨1, 0⟩⟩] ∧
      selfWired.Mirrored := by
  have h : selfWired.Reachable := Reachable.run (.empty 0) _
  exact ⟨h, by decide +kernel, (mirrored_of_reachable h).1⟩

end Board

end SignalBoard
