import SignalBoard.Editor
import SignalBoard.Proofs.Passes

/-! # The equations of a tick

The signals after a tick are the only solution of a system with one equation for each perceptron
(`Board.Solves`): a wire from a node created earlier carries the new signal, every other wire the
old one.  All that a tick writes follows from the two (`Device.settle`), and it writes nothing else.
-/

namespace SignalBoard

set_option autoImplicit false

/-! ## What the equations say -/

namespace Perceptron

/-- One weight for each input, missing ones zero and surplus ones left out. -/
def fittedWeights (p : Perceptron) : List Float32 :=
  (List.range p.inputCount).map fun k => p.weights.getD k 0

def fit (p : Perceptron) : Perceptron := { p with weights := p.fittedWeights }

theorem fittedWeights_of_length {p : Perceptron} (h : p.weights.length = p.slots.length) :
    p.fittedWeights = p.weights := by
  apply List.ext_getElem
  · simp [fittedWeights, inputCount, h]
  · intro k hk hk'
    simp [fittedWeights, List.getD_eq_getElem?_getD, hk']

theorem fit_of_length {p : Perceptron} (h : p.weights.length = p.slots.length) : p.fit = p := by
  rw [fit, fittedWeights_of_length h]

theorem resize_eq_fittedWeights (p : Perceptron) :
    resize p.inputCount p.weights = p.fittedWeights := by
  apply List.ext_getElem?
  intro k
  rw [resize, fittedWeights, List.getElem?_map, List.getElem?_append, List.length_take]
  by_cases hk : k < p.inputCount
  · rw [List.getElem?_range hk, Option.map_some, List.getD_eq_getElem?_getD]
    by_cases hw : k < p.weights.length
    · rw [if_pos (by omega), List.getElem?_take_of_lt hk, List.getElem?_eq_getElem hw]
      rfl
    · rw [if_neg (by omega), List.getElem?_replicate_of_lt (by omega),
        List.getElem?_eq_none (by omega)]
      rfl
  · have hrange : (List.range p.inputCount)[k]? = none := List.getElem?_eq_none (by simp; omega)
    rw [hrange, if_neg (by omega)]
    exact List.getElem?_eq_none (by simp; omega)

theorem repair_eq_fit (p : Perceptron) : p.repair = p.fit := by
  unfold repair fit
  by_cases h : p.weights.length = p.slots.length
  · rw [fittedWeights_of_length h, if_neg (by simp [needsRepair, inputCount, h])]
  · rw [resize_eq_fittedWeights, if_pos (by simp [needsRepair, inputCount, h])]

theorem length_fittedWeights (p : Perceptron) : p.fittedWeights.length = p.slots.length := by
  simp [fittedWeights, inputCount]

/-- Fitting again changes nothing, whatever has been remembered in between. -/
theorem fit_remembering (p : Perceptron) (values : List Bool) (firing : Bool) :
    fit { p.fit with values := values, firing := firing } =
      { p.fit with values := values, firing := firing } :=
  fit_of_length p.length_fittedWeights

end Perceptron

/-- What a wire into node `id` carries during a tick: the new signal of a node created earlier, the
old signal of any other node, and nothing from no node. -/
def reading (old new : NodeId → Bool) (id : NodeId) : Option NodeId → Bool
  | none => false
  | some j => if j < id then new j else old j

/-- The device of node `id` after a tick that takes the signals from `old` to `new`. -/
def Device.settle (old new : NodeId → Bool) (id : NodeId) : Device → Device
  | .switch s => .switch s
  | .perceptron p => .perceptron
      { p.fit with values := p.slots.map (reading old new id), firing := new id }
  | .light l => .light { l with lit := l.slot.elim false new }

namespace Board

/-- `new` solves the equations of the next tick of `b`. -/
structure Solves (b : Board) (new : NodeId → Bool) : Prop where
  other : ∀ j, b.perceptron? j = none → new j = b.outputOf j
  perceptron : ∀ i p, b.perceptron? i = some p →
    new i = Perceptron.fires (p.fit.weightedSum (p.slots.map (reading b.outputOf new i)))

end Board

/-! ## What the passes leave -/

namespace Board

theorem perceptron?_eq_some_iff {b : Board} {i : NodeId} {p : Perceptron} :
    b.perceptron? i = some p ↔ ∃ n, b.node? i = some n ∧ n.device = .perceptron p := by
  rw [perceptron?, Option.bind_eq_some_iff]
  refine exists_congr fun n => and_congr_right fun _ => ?_
  cases n.device with
  | switch s => simp [Device.perceptron?]
  | perceptron q => simp [Device.perceptron?]
  | light l => simp [Device.perceptron?]

theorem lt_size_of_perceptron? {b : Board} {i : NodeId} (h : (b.perceptron? i).isSome = true) :
    i < b.size := by
  obtain ⟨p, hp⟩ := Option.isSome_iff_exists.1 h
  obtain ⟨n, hn, -⟩ := perceptron?_eq_some_iff.1 hp
  exact lt_size_of_node? hn

theorem outputOf_eq (b : Board) (i : NodeId) :
    b.outputOf i = ((b.node? i).bind fun n => n.device.output?).getD false := rfl

/-- A view of the devices follows a change of the devices. -/
theorem bind_mapDevice {α : Type} (view : Device → Option α) {f : Device → Device} {g : α → α}
    (hf : ∀ d, view (f d) = (view d).map g) (found : Option Node) :
    ((found.map (Node.mapDevice f)).bind fun n => view n.device) =
      (found.bind fun n => view n.device).map g := by
  cases found with
  | none => rfl
  | some n => exact hf n.device

/-- A change that leaves the output of every device but perceptrons alone. -/
theorem outputOf_of_other {b c : Board} {j : NodeId} {f : Device → Device}
    (hnode : c.node? j = (b.node? j).map (Node.mapDevice f)) (hj : b.perceptron? j = none)
    (hf : ∀ d, d.perceptron? = none → (f d).output? = d.output?) : c.outputOf j = b.outputOf j := by
  rw [outputOf_eq, outputOf_eq, hnode]
  rw [perceptron?] at hj
  cases hn : b.node? j with
  | none => rfl
  | some n =>
    rw [hn] at hj
    exact congrArg (Option.getD · false) (hf n.device hj)

theorem outputOf_tick_eq (b : Board) : b.tick.outputOf = signalOf b.fired := by
  have h : b.tick.outputOf = signalOf b.tick.nodes := rfl
  rw [h, nodes_tick, signalOf_turns_shine]

/-- The signals as they stand when the turn of node `i` comes. -/
def standing (b : Board) (i : NodeId) : NodeId → Bool := signalOf (turns Node.fire b.nodes i)

theorem node?_tick_passes (b : Board) (i : NodeId) :
    b.tick.node? i = (b.node? i).map fun n => (n.fire (b.standing i)).shine b.tick.outputOf := by
  have h : b.tick.node? i = b.tick.nodes[i]? := rfl
  rw [h, nodes_tick, getElem?_turns_length, signalOf_turns_shine, outputOf_tick_eq, fired,
    getElem?_turns_length, Option.map_map]
  rfl

/-- What a perceptron reads at its turn is what the equations say. -/
theorem elim_standing (b : Board) (i : NodeId) :
    (fun slot => slot.elim false (b.standing i)) = reading b.outputOf b.tick.outputOf i := by
  funext slot
  cases slot with
  | none => rfl
  | some j =>
    rw [outputOf_tick_eq]
    exact signalOf_turns Node.fire b.nodes i j

theorem outputOf_tick_of_perceptron {b : Board} {i : NodeId} {p : Perceptron}
    (hp : b.perceptron? i = some p) :
    b.tick.outputOf i =
      Perceptron.fires
        (p.fit.weightedSum (p.slots.map (reading b.outputOf b.tick.outputOf i))) := by
  obtain ⟨n, hn, hd⟩ := perceptron?_eq_some_iff.1 hp
  rw [outputOf_eq, node?_tick_passes, hn, ← elim_standing, ← p.repair_eq_fit]
  show ((n.fire _).shine _).output?.getD false = _
  rw [output?_shine]
  unfold Node.output? Node.fire Node.mapDevice
  rw [hd]
  rfl

theorem shine_fire_eq_settle {old new read : NodeId → Bool} {i : NodeId} {d : Device}
    (hread : (fun slot => slot.elim false read) = reading old new i)
    (hnew : ∀ p, d.perceptron? = some p →
      new i = Perceptron.fires (p.fit.weightedSum (p.slots.map (reading old new i)))) :
    (d.fire read).shine new = d.settle old new i := by
  cases d with
  | switch s => rfl
  | perceptron p =>
    simp only [Device.fire, Device.shine, Device.settle, Perceptron.evaluate, hread,
      p.repair_eq_fit, hnew p rfl]
  | light l =>
    cases hslot : l.slot with
    | none => simp [Device.fire, Device.shine, Device.settle, Light.refresh, hslot]
    | some j => simp [Device.fire, Device.shine, Device.settle, Light.refresh, hslot]

theorem node?_tick (b : Board) (i : NodeId) :
    b.tick.node? i =
      (b.node? i).map (Node.mapDevice (Device.settle b.outputOf b.tick.outputOf i)) := by
  rw [node?_tick_passes]
  cases hn : b.node? i with
  | none => rfl
  | some n =>
    have hsettle := shine_fire_eq_settle (d := n.device) (elim_standing b i) fun p hp =>
      outputOf_tick_of_perceptron (Option.bind_eq_some_iff.2 ⟨n, hn, hp⟩)
    exact congrArg (fun d => some { n with device := d }) hsettle

theorem outputOf_tick_of_other {b : Board} {j : NodeId} (hj : b.perceptron? j = none) :
    b.tick.outputOf j = b.outputOf j := by
  apply outputOf_of_other (node?_tick b j) hj
  intro d hd
  cases d with
  | switch s => rfl
  | perceptron p => cases hd
  | light l => rfl

theorem solves_tick (b : Board) : b.Solves b.tick.outputOf :=
  ⟨fun _ => outputOf_tick_of_other, fun _ _ => outputOf_tick_of_perceptron⟩

/-- Equations for earlier nodes fix the signals that later equations read. -/
theorem Solves.unique {b : Board} {new new' : NodeId → Bool} (h : b.Solves new)
    (h' : b.Solves new') : new = new' := by
  funext i
  induction i using Nat.strongRecOn with
  | ind i ih =>
    cases hp : b.perceptron? i with
    | none => rw [h.other i hp, h'.other i hp]
    | some p =>
      have hread : reading b.outputOf new i = reading b.outputOf new' i := by
        funext slot
        cases slot with
        | none => rfl
        | some j =>
          by_cases hj : j < i
          · simp only [reading, if_pos hj, ih j hj]
          · simp only [reading, if_neg hj]
      rw [h.perceptron i p hp, h'.perceptron i p hp, hread]

theorem perceptron?_tick (b : Board) (i : NodeId) :
    b.tick.perceptron? i = (b.perceptron? i).map fun p =>
      { p.fit with
        values := p.slots.map (reading b.outputOf b.tick.outputOf i)
        firing := b.tick.outputOf i } := by
  rw [perceptron?, perceptron?, node?_tick]
  apply bind_mapDevice Device.perceptron?
  intro d
  cases d with
  | switch s => rfl
  | perceptron p => rfl
  | light l => rfl

theorem tick_eq (b : Board) :
    b.tick = { b with
      nodes := b.nodes.mapIdx fun i =>
        Node.mapDevice (Device.settle b.outputOf b.tick.outputOf i) } := by
  have hnodes : b.tick.nodes =
      b.nodes.mapIdx fun i => Node.mapDevice (Device.settle b.outputOf b.tick.outputOf i) := by
    apply List.ext_getElem?
    intro i
    rw [List.getElem?_mapIdx]
    exact node?_tick b i
  rw [← hnodes]
  rfl

/-! ## The report -/

theorem mem_perceptrons {b : Board} {p : Perceptron} :
    p ∈ b.perceptrons ↔ ∃ i, b.perceptron? i = some p := by
  rw [perceptrons, List.mem_filterMap]
  constructor
  · rintro ⟨n, hn, hp⟩
    obtain ⟨i, hi⟩ := List.mem_iff_getElem?.1 hn
    exact ⟨i, Option.bind_eq_some_iff.2 ⟨n, hi, hp⟩⟩
  · rintro ⟨i, hp⟩
    obtain ⟨n, hi, hp⟩ := Option.bind_eq_some_iff.1 hp
    exact ⟨n, List.mem_iff_getElem?.2 ⟨i, hi⟩, hp⟩

theorem foldl_addPerceptron (ps : List Perceptron) (r : TickReport) :
    ps.foldl TickReport.addPerceptron r =
      { r with
        perceptrons := r.perceptrons + ps.length
        repaired := r.repaired + ps.countP Perceptron.needsRepair } := by
  induction ps generalizing r with
  | nil => rfl
  | cons p ps ih =>
    rw [List.foldl_cons, ih, TickReport.addPerceptron, List.length_cons, List.countP_cons]
    cases hrepair : p.needsRepair with
    | false => simp [Nat.add_assoc, Nat.add_comm 1]
    | true => simp [Nat.add_assoc, Nat.add_comm 1]

theorem foldl_addLight (ls : List Light) (r : TickReport) :
    ls.foldl TickReport.addLight r = { r with lights := r.lights + ls.length } := by
  induction ls generalizing r with
  | nil => rfl
  | cons l ls ih => rw [List.foldl_cons, ih, TickReport.addLight, List.length_cons, Nat.add_assoc,
      Nat.add_comm 1]

theorem tickReport_eq_lists (b : Board) : b.tickReport =
    { perceptrons := b.perceptrons.length
      lights := b.lights.length
      repaired := b.perceptrons.countP Perceptron.needsRepair } := by
  rw [tickReport_eq_foldl, foldl_addPerceptron, foldl_addLight]
  simp [TickReport.zero]

/-- The perceptrons, the lights, and the perceptrons with more or fewer weights than inputs. -/
theorem tickReport_eq (b : Board) : b.tickReport =
    { perceptrons := b.nodes.countP fun n => n.device.kind = .perceptron
      lights := b.nodes.countP fun n => n.device.kind = .light
      repaired := b.nodes.countP fun n =>
        n.device.perceptron?.any fun p => p.weights.length ≠ p.slots.length } := by
  rw [tickReport_eq_lists]
  unfold perceptrons lights
  congr 1
  · rw [List.length_filterMap_eq_countP]
    apply List.countP_congr
    intro n _
    cases n.device with
    | switch s => simp [Device.perceptron?, Device.kind]
    | perceptron p => simp [Device.perceptron?, Device.kind]
    | light l => simp [Device.perceptron?, Device.kind]
  · rw [List.length_filterMap_eq_countP]
    apply List.countP_congr
    intro n _
    cases n.device with
    | switch s => simp [Device.light?, Device.kind]
    | perceptron p => simp [Device.light?, Device.kind]
    | light l => simp [Device.light?, Device.kind]
  · rw [List.countP_filterMap]
    apply List.countP_congr
    intro n _
    cases n.device with
    | switch s => simp [Device.perceptron?]
    | perceptron p => exact Iff.rfl
    | light l => simp [Device.perceptron?]

/-- Where every perceptron has as many weights as inputs, a tick repairs nothing. -/
theorem repaired_eq_zero {b : Board}
    (h : ∀ id p, b.perceptron? id = some p → p.weights.length = p.slots.length) :
    b.tickReport.repaired = 0 := by
  rw [tickReport_eq_lists]
  apply List.countP_eq_zero.2
  intro p hp
  obtain ⟨id, hid⟩ := mem_perceptrons.1 hp
  simp [Perceptron.needsRepair, Perceptron.inputCount, h id p hid]

theorem repaired_tick (b : Board) : b.tick.tickReport.repaired = 0 := by
  refine repaired_eq_zero fun id p hp => ?_
  rw [perceptron?_tick] at hp
  obtain ⟨q, -, rfl⟩ := Option.map_eq_some_iff.1 hp
  exact q.length_fittedWeights

end Board

/-! ## A tick of the editor -/

/-- A tick takes the signals to the unique solution of its equations, settles every device on them,
counts what it visits and what it repairs, reports the repairs, and leaves everything else as it
is. -/
theorem Editor.tick_unique_solution (e : Editor) :
    let b := e.bench.board
    let new := e.tick.state.bench.board.outputOf
    b.Solves new ∧ (∀ out, b.Solves out → out = new) ∧
      e.tick.state =
        { bench := e.bench.withBoard
            { b with
              nodes := b.nodes.mapIdx fun i => Node.mapDevice (Device.settle b.outputOf new i) }
          ticks := e.ticks + 1 } ∧
      (∀ p : Perceptron, p.weights.length = p.slots.length → p.fittedWeights = p.weights) ∧
      e.tick.answer =
        { perceptrons := b.nodes.countP fun n => n.device.kind = .perceptron
          lights := b.nodes.countP fun n => n.device.kind = .light
          repaired := b.nodes.countP fun n =>
            n.device.perceptron?.any fun p => p.weights.length ≠ p.slots.length } ∧
      e.tick.notices = b.perceptrons.flatMap Perceptron.repairNotices ∧
      e.tick.state.tick.answer.repaired = 0 := by
  intro b new
  refine ⟨b.solves_tick, fun out hout => hout.unique b.solves_tick, ?_, ?_, b.tickReport_eq,
    b.tickNotices_eq, ?_⟩
  · exact congrArg (fun board => Editor.mk (e.bench.withBoard board) (e.ticks + 1)) b.tick_eq
  · exact fun p => Perceptron.fittedWeights_of_length
  · exact b.repaired_tick

end SignalBoard
