import Mathlib.Data.Set.Basic
import Mathlib.Logic.Function.Iterate
import SignalBoard.Proofs.Forget

/-! # What a tick depends on

A tick reads two things of a board: its design, which is the board without what it remembers and
with its weights fitted to its inputs, and the signals.  Boards with one design and one set of
signals have the same tick (`Board.tick_congr`).

Both may be looked at on some of the nodes only, as long as these are closed under sources.  What
lies outside has no part in what becomes of them (`Board.device?_tick_congr`), however many ticks
pass. -/

namespace SignalBoard

set_option autoImplicit false

/-! ## Designs -/

namespace Device

/-- The device with one weight for each input. -/
def fit : Device → Device
  | perceptron p => perceptron p.fit
  | d => d

/-- The device without what a tick writes: fitted, and without memory of its evaluation. -/
def design (d : Device) : Device := d.fit.forget

theorem design_settle (old new : NodeId → Bool) (id : NodeId) (d : Device) :
    (d.settle old new id).design = d.design := by
  cases d with
  | switch s => rfl
  | light l => rfl
  | perceptron p => exact congrArg (fun q => perceptron q.forget) (p.fit_remembering _ _)

theorem perceptron?_design (d : Device) :
    d.design.perceptron? = d.perceptron?.map fun p => p.fit.forget := by
  cases d <;> rfl

end Device

namespace Perceptron

/-- Perceptrons of one design have the same inputs and fire on the same values. -/
theorem eq_of_design {p q : Perceptron} (h : p.fit.forget = q.fit.forget) :
    p.slots = q.slots ∧ p.fit.weightedSum = q.fit.weightedSum := by
  have hslots : p.fit.forget.slots = q.fit.forget.slots := congrArg slots h
  have hsum : p.fit.forget.weightedSum = q.fit.forget.weightedSum := congrArg weightedSum h
  exact ⟨hslots, hsum⟩

end Perceptron

/-- What a device becomes in a tick follows from its design, from what its wires carry and from the
new signal of its node. -/
theorem Device.settle_congr {d e : Device} {old new old' new' : NodeId → Bool} {id : NodeId}
    (hdesign : d.design = e.design) (hnew : new id = new' id)
    (hread : ∀ slot ∈ d.sources, reading old new id slot = reading old' new' id slot)
    (hshine : ∀ slot ∈ d.sources, slot.elim false new = slot.elim false new') :
    d.settle old new id = e.settle old' new' id := by
  cases d with
  | switch s =>
    cases e with
    | switch s' => exact hdesign
    | perceptron q => cases hdesign
    | light l => cases hdesign
  | perceptron p =>
    cases e with
    | switch s => cases hdesign
    | light l => cases hdesign
    | perceptron q =>
      have h : p.fit.forget = q.fit.forget := Device.perceptron.inj hdesign
      have hvalues : p.slots.map (reading old new id) = q.slots.map (reading old' new' id) := by
        rw [← (Perceptron.eq_of_design h).1]
        exact List.map_congr_left hread
      -- both sides overwrite whatever `forget` erases
      show Device.perceptron { p.fit.forget with
          values := p.slots.map (reading old new id), firing := new id } = _
      rw [h, hvalues, hnew]
      rfl
  | light l =>
    cases e with
    | switch s => cases hdesign
    | perceptron q => cases hdesign
    | light m =>
      obtain ⟨slot, lit⟩ := l
      obtain ⟨slot', lit'⟩ := m
      have hdark : Device.light ⟨slot, false⟩ = Device.light ⟨slot', false⟩ := hdesign
      obtain rfl : slot = slot' := congrArg Light.slot (Device.light.inj hdark)
      have hlit : slot.elim false new = slot.elim false new' :=
        hshine slot (List.mem_singleton_self _)
      exact congrArg (fun lit => Device.light ⟨slot, lit⟩) hlit

namespace Board

/-- What is at node `id`. -/
def device? (b : Board) (id : NodeId) : Option Device := (b.node? id).map Node.device

theorem perceptron?_eq_bind (b : Board) (id : NodeId) :
    b.perceptron? id = (b.device? id).bind Device.perceptron? := by
  rw [perceptron?, device?, Option.bind_map]
  rfl

theorem device?_tick (b : Board) (id : NodeId) :
    b.tick.device? id =
      (b.device? id).map (Device.settle b.outputOf b.tick.outputOf id) := by
  rw [device?, node?_tick, Option.map_map, device?, Option.map_map]
  rfl

/-- The board without what a tick writes. -/
def design (b : Board) : Board := { b with nodes := b.nodes.map (Node.mapDevice Device.design) }

theorem node?_design (b : Board) (id : NodeId) :
    b.design.node? id = (b.node? id).map (Node.mapDevice Device.design) := List.getElem?_map

theorem design_tick (b : Board) : b.tick.design = b.design := by
  refine ext_node? (fun id => ?_) (by rw [tick_eq]; rfl) (by rw [tick_eq]; rfl)
  rw [node?_design, node?_design, node?_tick, Option.map_map]
  cases b.node? id with
  | none => rfl
  | some n => exact congrArg (fun d => some { n with device := d }) (n.device.design_settle _ _ _)

theorem design_iterate (b : Board) (t : Nat) : (tick^[t] b).design = b.design := by
  induction t with
  | zero => rfl
  | succ t ih => rw [Function.iterate_succ_apply', design_tick, ih]

theorem design_device? (b : Board) (id : NodeId) :
    (b.device? id).map Device.design = b.design.device? id := by
  rw [device?, device?, node?_design, Option.map_map, Option.map_map]
  rfl

/-- A board is its design and the states of its devices. -/
theorem eq_of_design {b c : Board} (hdesign : b.design = c.design)
    (hdevice : ∀ id, b.device? id = c.device? id) : b = c := by
  have hwires : b.design.wires = c.design.wires := by rw [hdesign]
  have hsampler : b.design.sampler = c.design.sampler := by rw [hdesign]
  refine ext_node? (fun id => ?_) hwires hsampler
  have hnode : b.design.node? id = c.design.node? id := by rw [hdesign]
  have hdev := hdevice id
  rw [node?_design, node?_design] at hnode
  unfold device? at hdev
  cases hb : b.node? id with
  | none =>
    rw [hb, Option.map_none, eq_comm, Option.map_eq_none_iff] at hnode
    exact hnode.symm
  | some n =>
    rw [hb, Option.map_some, eq_comm, Option.map_eq_some_iff] at hnode
    obtain ⟨m, hm, hmn⟩ := hnode
    rw [hb, hm] at hdev
    have hsame : n.device = m.device := Option.some.inj hdev
    calc some n = some { n.mapDevice Device.design with device := n.device } := rfl
      _ = some { m.mapDevice Device.design with device := m.device } := by rw [hmn, hsame]
      _ = c.node? id := hm.symm

/-! ## Some of the nodes -/

/-- Whatever is wired to one of the nodes in `S` is one of them itself. -/
def ClosedUnderSources (b : Board) (S : Set NodeId) : Prop :=
  ∀ id ∈ S, ∀ source, some source ∈ b.sourcesOf id → source ∈ S

/-- The same devices, in the same states, are at each node in `S`. -/
def AgreeOn (S : Set NodeId) (b c : Board) : Prop := ∀ id ∈ S, b.device? id = c.device? id

/-- Devices of the same design are at each node in `S`, and they give the same signals. -/
structure AlikeOn (S : Set NodeId) (b c : Board) : Prop where
  design : ∀ id ∈ S, (b.device? id).map Device.design = (c.device? id).map Device.design
  output : ∀ id ∈ S, b.outputOf id = c.outputOf id

theorem AgreeOn.alikeOn {S : Set NodeId} {b c : Board} (h : AgreeOn S b c) : AlikeOn S b c where
  design id hid := by rw [h id hid]
  output id hid := by
    have hout (b : Board) : b.outputOf id = ((b.device? id).bind Device.output?).getD false := by
      rw [outputOf_eq, device?, Option.bind_map]
      rfl
    rw [hout, hout, h id hid]

theorem sourcesOf_eq (b : Board) (id : NodeId) :
    b.sourcesOf id = ((b.device? id).map Device.sources).getD [] := by
  rw [device?, Option.map_map]
  rfl

theorem ClosedUnderSources.tick {b : Board} {S : Set NodeId} (h : b.ClosedUnderSources S) :
    b.tick.ClosedUnderSources S := by
  intro id hid source hsource
  rw [sourcesOf_tick] at hsource
  exact h id hid source hsource

section Congruence

variable {b c : Board} {S : Set NodeId} (hclosed : b.ClosedUnderSources S)
  (h : AlikeOn S b c)
include hclosed h

/-- The signals after a tick follow from the designs and the signals before it. -/
theorem outputOf_tick_congr {id : NodeId} (hid : id ∈ S) :
    b.tick.outputOf id = c.tick.outputOf id := by
  -- in the order of the turns: a source created earlier is read after its own turn
  induction id using Nat.strongRecOn with
  | ind id ih =>
    have hunit : (b.perceptron? id).map (fun p => p.fit.forget) =
        (c.perceptron? id).map fun p => p.fit.forget := by
      have hview (b : Board) : ((b.device? id).map Device.design).bind Device.perceptron? =
          (b.perceptron? id).map fun p => p.fit.forget := by
        rw [perceptron?_eq_bind]
        cases b.device? id with
        | none => rfl
        | some d => exact d.perceptron?_design
      rw [← hview, ← hview, h.design id hid]
    cases hp : b.perceptron? id with
    | none =>
      rw [hp, Option.map_none, eq_comm, Option.map_eq_none_iff] at hunit
      rw [outputOf_tick_of_other hp, outputOf_tick_of_other hunit, h.output id hid]
    | some p =>
      rw [hp, Option.map_some, eq_comm, Option.map_eq_some_iff] at hunit
      obtain ⟨q, hq, hdesign⟩ := hunit
      obtain ⟨hslots, hsum⟩ := Perceptron.eq_of_design hdesign
      have hread : p.slots.map (reading b.outputOf b.tick.outputOf id) =
          p.slots.map (reading c.outputOf c.tick.outputOf id) := by
        apply List.map_congr_left
        intro slot hslot
        cases slot with
        | none => rfl
        | some j =>
          have hj : j ∈ S := hclosed id hid j (by rw [sourcesOf_of_perceptron? hp]; exact hslot)
          by_cases hlt : j < id
          · simp only [reading, if_pos hlt, ih j hlt hj]
          · simp only [reading, if_neg hlt, h.output j hj]
      rw [outputOf_tick_of_perceptron hp, outputOf_tick_of_perceptron hq, hsum, hslots, hread]

theorem reading_congr {id j : NodeId} (hj : j ∈ S) :
    reading b.outputOf b.tick.outputOf id (some j) =
      reading c.outputOf c.tick.outputOf id (some j) := by
  simp only [reading, outputOf_tick_congr hclosed h hj, h.output j hj]

/-- What is at a node after a tick follows from the designs and the signals before it. -/
theorem device?_tick_congr : AgreeOn S b.tick c.tick := by
  intro id hid
  have hdesign := h.design id hid
  rw [device?_tick, device?_tick]
  cases hd : b.device? id with
  | none =>
    rw [hd, Option.map_none, eq_comm, Option.map_eq_none_iff] at hdesign
    rw [hdesign]
    rfl
  | some d =>
    rw [hd, Option.map_some, eq_comm, Option.map_eq_some_iff] at hdesign
    obtain ⟨e, he, hde⟩ := hdesign
    have hmem : ∀ j, some j ∈ d.sources → j ∈ S := fun j hj =>
      hclosed id hid j (by rw [sourcesOf_eq, hd]; exact hj)
    rw [he]
    refine congrArg some
      (Device.settle_congr hde.symm (outputOf_tick_congr hclosed h hid) ?_ ?_)
    · intro slot hslot
      cases slot with
      | none => rfl
      | some j => exact reading_congr hclosed h (hmem j hslot)
    · intro slot hslot
      cases slot with
      | none => rfl
      | some j => exact outputOf_tick_congr hclosed h (hmem j hslot)

end Congruence

/-- A tick depends on the design and on the signals. -/
theorem tick_congr {b c : Board} (hdesign : b.design = c.design) (hout : b.outputOf = c.outputOf) :
    b.tick = c.tick := by
  have halike : AlikeOn Set.univ b c :=
    ⟨fun id _ => by rw [design_device?, design_device?, hdesign], fun id _ => by rw [hout]⟩
  have hclosed : b.ClosedUnderSources Set.univ := fun _ _ _ _ => trivial
  apply eq_of_design
  · rw [design_tick, design_tick, hdesign]
  · exact fun id => device?_tick_congr hclosed halike id trivial

/-! ## Any number of ticks -/

/-- Boards of any size that agree on nodes closed under sources agree on them after any number of
ticks, whatever their other nodes are. -/
theorem agreeOn_iterate {b c : Board} {S : Set NodeId} (hclosed : b.ClosedUnderSources S)
    (hagree : AgreeOn S b c) (t : Nat) : AgreeOn S (tick^[t] b) (tick^[t] c) := by
  induction t generalizing b c with
  | zero => exact hagree
  | succ t ih =>
    rw [Function.iterate_succ_apply, Function.iterate_succ_apply]
    exact ih hclosed.tick (device?_tick_congr hclosed hagree.alikeOn)

/-- A perceptron that is wired to a lit switch and to itself, and a light that shows it. -/
def blinker : Board :=
  ((Workbench.ofBoard (.empty 0)).run
    [.addSwitch ⟨50, 50⟩, .addLight ⟨600, 100⟩,
      .addPerceptron ⟨200, 100⟩ 2 (some [1, -1]) (some (-0.5)), .connect 0 ⟨2, 0⟩,
      .connect 2 ⟨2, 1⟩, .connect 2 ⟨1, 0⟩, .handle (.press .primary ⟨70, 70⟩)]).board

/-- The same perceptron and switch on a larger board, where a perceptron is in the place of the
light and reads a second switch as well. -/
def crowdedBlinker : Board :=
  ((Workbench.ofBoard (.empty 7)).run
    [.addSwitch ⟨50, 50⟩, .addPerceptron ⟨400, 300⟩ 3 none none,
      .addPerceptron ⟨200, 100⟩ 2 (some [1, -1]) (some (-0.5)), .addSwitch ⟨50, 150⟩,
      .connect 0 ⟨2, 0⟩, .connect 2 ⟨2, 1⟩, .connect 2 ⟨1, 0⟩, .connect 3 ⟨1, 1⟩,
      .connect 1 ⟨1, 2⟩, .handle (.press .primary ⟨70, 70⟩),
      .handle (.press .primary ⟨70, 170⟩)]).board

theorem blinker_agreeOn :
    blinker.size = 3 ∧ crowdedBlinker.size = 4 ∧ blinker.device? 1 ≠ crowdedBlinker.device? 1 ∧
      blinker.ClosedUnderSources {0, 2} ∧ AgreeOn {0, 2} blinker crowdedBlinker ∧
      ∀ t, AgreeOn {0, 2} (tick^[t] blinker) (tick^[t] crowdedBlinker) := by
  have hswitch : blinker.sourcesOf 0 = [] := by decide +kernel
  have hunit : blinker.sourcesOf 2 = [some 0, some 2] := by decide +kernel
  have hclosed : blinker.ClosedUnderSources {0, 2} := by
    rintro id (rfl | rfl) source hsource
    · rw [hswitch] at hsource
      cases hsource
    · rw [hunit] at hsource
      have hsource : source = 0 ∨ source = 2 := by simpa using hsource
      exact hsource
  have hagree : AgreeOn {0, 2} blinker crowdedBlinker := by
    rintro id (rfl | rfl)
    · decide +kernel
    · decide +kernel
  exact ⟨by decide +kernel, by decide +kernel, by decide +kernel, hclosed, hagree,
    agreeOn_iterate hclosed hagree⟩

end Board

end SignalBoard
