import Mathlib.Logic.Equiv.Fin.Rotate
import Mathlib.Logic.Equiv.Fintype
import Mathlib.Logic.Function.Iterate
import SignalBoard.Proofs.Slots

/-! # Boards in another order

A board is rearranged by giving its nodes new names: node `id` is put in place `σ id`, and whatever
named it names it anew.  The passes of a tick visit the nodes in the order of their places, so a
rearranged board is evaluated in another order.  What comes out is the same up to the new names
(`Board.tick_rearrange`) as long as the perceptrons keep their order among each other
(`Board.Reordering`): only then does a wire between two of them carry the new signal on both boards
or on neither, and a wire from any other node carries a signal that no tick changes. -/

namespace SignalBoard

set_option autoImplicit false

/-! ## New names -/

def Socket.rename (σ : NodeId → NodeId) (s : Socket) : Socket := ⟨σ s.node, s.index⟩

def Wire.rename (σ : NodeId → NodeId) (w : Wire) : Wire := ⟨σ w.source, w.socket.rename σ⟩

def Pin.rename (σ : NodeId → NodeId) (p : Pin) : Pin := { p with owner := σ p.owner }

def Pins.rename (σ : NodeId → NodeId) (pins : Pins) : Pins where
  inputs := pins.inputs.map (Pin.rename σ)
  output := pins.output.map (Pin.rename σ)

def Perceptron.rename (σ : NodeId → NodeId) (p : Perceptron) : Perceptron :=
  { p with slots := p.slots.map (Option.map σ) }

/-- The device with everything that is wired to it under its new name. -/
def Device.rename (σ : NodeId → NodeId) : Device → Device
  | switch s => switch s
  | perceptron p => perceptron (p.rename σ)
  | light l => light { l with slot := l.slot.map σ }

def Node.rename (σ : NodeId → NodeId) (n : Node) : Node where
  id := σ n.id
  bounds := n.bounds
  device := n.device.rename σ
  pins := n.pins.rename σ

theorem Socket.rename_injective {σ : NodeId → NodeId} (hσ : Function.Injective σ) :
    Function.Injective (Socket.rename σ) := by
  intro s t h
  have hnode : s.node = t.node := hσ (congrArg Socket.node h)
  have hindex : (s.rename σ).index = (t.rename σ).index := by rw [h]
  cases s
  cases t
  simp_all [rename]

def WireTable.rename (σ : Equiv.Perm NodeId) (t : WireTable) : WireTable where
  toList := t.toList.map (Wire.rename σ)
  distinct := by
    have hsockets : (t.toList.map (Wire.rename σ)).map Wire.socket =
        (t.toList.map Wire.socket).map (Socket.rename σ) := by simp [Wire.rename]
    rw [hsockets]
    exact t.distinct.map (Socket.rename_injective σ.injective)

namespace Perceptron

theorem fit_rename (σ : NodeId → NodeId) (p : Perceptron) :
    (p.rename σ).fit = p.fit.rename σ := by
  have hcount : (p.rename σ).inputCount = p.inputCount := List.length_map _
  have hweights : (p.rename σ).fittedWeights = p.fittedWeights := by
    unfold fittedWeights
    rw [hcount]
    rfl
  unfold fit
  rw [hweights]
  rfl

end Perceptron

namespace Device

theorem perceptron?_rename (σ : NodeId → NodeId) (d : Device) :
    (d.rename σ).perceptron? = d.perceptron?.map (Perceptron.rename σ) := by
  cases d <;> rfl

theorem output?_rename (σ : NodeId → NodeId) (d : Device) :
    (d.rename σ).output? = d.output? := by
  cases d <;> rfl

theorem kind_rename (σ : NodeId → NodeId) (d : Device) : (d.rename σ).kind = d.kind := by
  cases d <;> rfl

end Device

namespace Board

/-- The node that is named `k` anew. -/
def renamed? (σ : Equiv.Perm NodeId) (b : Board) (k : NodeId) : Option Node :=
  (b.node? (σ.symm k)).map (Node.rename σ)

/-- The board with each node under its new name and in that place. -/
def rearrange (σ : Equiv.Perm NodeId) (b : Board) : Board where
  nodes := (List.range b.size).filterMap (b.renamed? σ)
  wires := b.wires.rename σ
  sampler := b.sampler

/-- The nodes of a board are renamed among each other, and its perceptrons keep their order.  What
names no node names none afterwards. -/
structure Reordering (b : Board) (σ : Equiv.Perm NodeId) : Prop where
  lt_size : ∀ id, σ id < b.size ↔ id < b.size
  ordered : ∀ i j, (b.perceptron? i).isSome → (b.perceptron? j).isSome → i < j → σ i < σ j

/-- Every bijection between the names of a board's nodes is one of all names. -/
theorem reordering_extend {b : Board} (π : Equiv.Perm (Fin b.size))
    (h : ∀ i j, (b.perceptron? (i : Fin b.size)).isSome → (b.perceptron? (j : Fin b.size)).isSome →
      i < j → π i < π j) :
    b.Reordering (π.extendDomain Fin.equivSubtype) := by
  have hinside (i : Fin b.size) : π.extendDomain Fin.equivSubtype (i : NodeId) = π i :=
    π.extendDomain_apply_image Fin.equivSubtype i
  refine ⟨fun id => ?_, fun i j hi hj hij => ?_⟩
  · by_cases hid : id < b.size
    · rw [hinside ⟨id, hid⟩]
      exact ⟨fun _ => hid, fun _ => (π ⟨id, hid⟩).isLt⟩
    · rw [π.extendDomain_apply_not_subtype Fin.equivSubtype hid]
  · have hilt : i < b.size := lt_size_of_perceptron? hi
    have hjlt : j < b.size := lt_size_of_perceptron? hj
    rw [hinside ⟨i, hilt⟩, hinside ⟨j, hjlt⟩]
    exact h ⟨i, hilt⟩ ⟨j, hjlt⟩ hi hj hij

/-! ## The nodes of a rearranged board -/

theorem filterMap_range_of_isSome {α : Type} {f : Nat → Option α} {n : Nat}
    (h : ∀ k < n, (f k).isSome) :
    ((List.range n).filterMap f).length = n ∧
      ∀ k < n, ((List.range n).filterMap f)[k]? = f k := by
  induction n with
  | zero => exact ⟨rfl, fun k hk => absurd hk (Nat.not_lt_zero k)⟩
  | succ m ih =>
    obtain ⟨hlength, hget⟩ := ih fun k hk => h k (by omega)
    obtain ⟨a, ha⟩ := Option.isSome_iff_exists.1 (h m (Nat.lt_succ_self m))
    have hsplit : (List.range (m + 1)).filterMap f = (List.range m).filterMap f ++ [a] := by
      simp [List.range_succ, ha]
    rw [hsplit]
    refine ⟨by simp [hlength], fun k hk => ?_⟩
    by_cases hlt : k < m
    · rw [List.getElem?_append_left (by omega), hget k hlt]
    · obtain rfl : k = m := by omega
      rw [List.getElem?_append_right (by omega)]
      simp [hlength, ha]

section Rearranged

variable {b : Board} {σ : Equiv.Perm NodeId} (h : b.Reordering σ)
include h

theorem Reordering.symm_lt_size (k : NodeId) : σ.symm k < b.size ↔ k < b.size := by
  rw [← h.lt_size, σ.apply_symm_apply]

/-- Between perceptrons the new names are in the order of the old ones. -/
theorem Reordering.lt_iff {i j : NodeId} (hi : (b.perceptron? i).isSome)
    (hj : (b.perceptron? j).isSome) : σ i < σ j ↔ i < j := by
  refine ⟨fun hlt => ?_, h.ordered i j hi hj⟩
  rcases Nat.lt_trichotomy i j with hij | rfl | hji
  · exact hij
  · exact absurd hlt (Nat.lt_irrefl _)
  · exact absurd (h.ordered j i hj hi hji) (Nat.lt_asymm hlt)

theorem Reordering.isSome_renamed? (k : NodeId) (hk : k < b.size) : (b.renamed? σ k).isSome := by
  rw [renamed?, Option.isSome_map, isSome_node?_iff]
  exact (h.symm_lt_size k).2 hk

theorem node?_rearrange (id : NodeId) :
    (b.rearrange σ).node? (σ id) = (b.node? id).map (Node.rename σ) := by
  obtain ⟨hlength, hget⟩ := filterMap_range_of_isSome h.isSome_renamed?
  show ((List.range b.size).filterMap (b.renamed? σ))[σ id]? = _
  by_cases hid : id < b.size
  · rw [hget (σ id) ((h.lt_size id).2 hid), renamed?, σ.symm_apply_apply]
  · have hnone : b.node? id = none := List.getElem?_eq_none (Nat.le_of_not_lt hid)
    have hσid : b.size ≤ σ id := Nat.le_of_not_lt fun hlt => hid ((h.lt_size id).1 hlt)
    rw [hnone, List.getElem?_eq_none (hlength.trans_le hσid)]
    rfl

theorem perceptron?_rearrange (id : NodeId) :
    (b.rearrange σ).perceptron? (σ id) = (b.perceptron? id).map (Perceptron.rename σ) := by
  unfold perceptron?
  rw [node?_rearrange h]
  cases b.node? id with
  | none => rfl
  | some n => exact n.device.perceptron?_rename σ

theorem outputOf_rearrange (id : NodeId) :
    (b.rearrange σ).outputOf (σ id) = b.outputOf id := by
  rw [outputOf_eq, outputOf_eq, node?_rearrange h]
  cases b.node? id with
  | none => rfl
  | some n => exact congrArg (Option.getD · false) (n.device.output?_rename σ)

/-! ## A tick -/

/-- A wire into a perceptron carries the same signal on both boards: the perceptrons come in the
same order, and no other node has a new signal. -/
theorem reading_rearrange {new : NodeId → Bool} (hnew : ∀ j, new (σ j) = b.tick.outputOf j)
    {i : NodeId} (hi : (b.perceptron? i).isSome) (slot : Option NodeId) :
    reading (b.rearrange σ).outputOf new (σ i) (slot.map σ) =
      reading b.outputOf b.tick.outputOf i slot := by
  cases slot with
  | none => rfl
  | some j =>
    show (if σ j < σ i then new (σ j) else (b.rearrange σ).outputOf (σ j)) =
      if j < i then b.tick.outputOf j else b.outputOf j
    rw [hnew, outputOf_rearrange h]
    cases hj : b.perceptron? j with
    | none => rw [outputOf_tick_of_other hj, ite_self, ite_self]
    | some p =>
      have hlt : σ j < σ i ↔ j < i := h.lt_iff (by rw [hj]; rfl) hi
      by_cases hij : j < i
      · rw [if_pos hij, if_pos (hlt.2 hij)]
      · rw [if_neg hij, if_neg fun hlt' => hij (hlt.1 hlt')]

/-- The new signals, under the new names, solve the equations of the rearranged board. -/
theorem solves_rearrange : (b.rearrange σ).Solves fun k => b.tick.outputOf (σ.symm k) := by
  have hnew (j : NodeId) : b.tick.outputOf (σ.symm (σ j)) = b.tick.outputOf j := by
    rw [σ.symm_apply_apply]
  refine ⟨fun k hk => ?_, fun k q hq => ?_⟩
  · obtain ⟨j, rfl⟩ := σ.surjective k
    rw [perceptron?_rearrange h, Option.map_eq_none_iff] at hk
    rw [outputOf_rearrange h, hnew, outputOf_tick_of_other hk]
  · obtain ⟨i, rfl⟩ := σ.surjective k
    rw [perceptron?_rearrange h] at hq
    obtain ⟨p, hp, rfl⟩ := Option.map_eq_some_iff.1 hq
    have hread : (p.rename σ).slots.map (reading (b.rearrange σ).outputOf
        (fun k => b.tick.outputOf (σ.symm k)) (σ i)) =
          p.slots.map (reading b.outputOf b.tick.outputOf i) := by
      unfold Perceptron.rename
      rw [List.map_map]
      exact List.map_congr_left fun slot _ =>
        reading_rearrange h hnew (by rw [hp]; rfl) slot
    rw [hread, hnew, outputOf_tick_of_perceptron hp, Perceptron.fit_rename]
    rfl

theorem outputOf_tick_rearrange (id : NodeId) :
    (b.rearrange σ).tick.outputOf (σ id) = b.tick.outputOf id := by
  rw [((b.rearrange σ).solves_tick).unique (solves_rearrange h)]
  exact congrArg b.tick.outputOf (σ.symm_apply_apply id)

theorem settle_rename {id : NodeId} {n : Node} (hn : b.node? id = some n) :
    (n.device.rename σ).settle (b.rearrange σ).outputOf (b.rearrange σ).tick.outputOf (σ id) =
      (n.device.settle b.outputOf b.tick.outputOf id).rename σ := by
  have hnew := outputOf_tick_rearrange h
  cases hd : n.device with
  | switch s => rfl
  | perceptron p =>
    have hi : (b.perceptron? id).isSome := by
      rw [perceptron?_eq_some_iff.2 ⟨n, hn, hd⟩]
      rfl
    have hread : (p.rename σ).slots.map (reading (b.rearrange σ).outputOf
        (b.rearrange σ).tick.outputOf (σ id)) =
          p.slots.map (reading b.outputOf b.tick.outputOf id) := by
      unfold Perceptron.rename
      rw [List.map_map]
      exact List.map_congr_left fun slot _ => reading_rearrange h hnew hi slot
    simp only [Device.rename, Device.settle, hread, hnew, Perceptron.fit_rename]
    rfl
  | light l =>
    cases hslot : l.slot with
    | none => simp [Device.rename, Device.settle, hslot]
    | some j => simp [Device.rename, Device.settle, hslot, hnew]

theorem Reordering.tick : b.tick.Reordering σ := by
  have hsize : b.tick.size = b.size := by
    rw [tick_eq]
    exact List.length_mapIdx
  have hunit (i : NodeId) : (b.tick.perceptron? i).isSome = (b.perceptron? i).isSome := by
    rw [perceptron?_tick, Option.isSome_map]
  refine ⟨fun id => ?_, fun i j hi hj => ?_⟩
  · rw [hsize]
    exact h.lt_size id
  · rw [hunit] at hi hj
    exact h.ordered i j hi hj

theorem tick_rearrange : (b.rearrange σ).tick = b.tick.rearrange σ := by
  refine ext_node? (fun k => ?_) (by rw [tick_eq, tick_eq]; rfl) (by rw [tick_eq, tick_eq]; rfl)
  obtain ⟨id, rfl⟩ := σ.surjective k
  rw [node?_tick, node?_rearrange h, node?_rearrange h.tick, node?_tick]
  cases hn : b.node? id with
  | none => rfl
  | some n =>
    have hsettle := settle_rename h hn
    exact congrArg (fun d => some { n.rename σ with device := d }) hsettle

/-! ## The report -/

/-- A rearranged board has the same nodes up to their order and their names. -/
theorem perm_rearrange : (b.rearrange σ).nodes.Perm (b.nodes.map (Node.rename σ)) := by
  have hnames : ((List.range b.size).map σ.symm).Perm (List.range b.size) := by
    rw [List.perm_ext_iff_of_nodup (List.nodup_range.map σ.symm.injective) List.nodup_range]
    intro k
    rw [List.mem_map, List.mem_range]
    constructor
    · rintro ⟨id, hid, rfl⟩
      exact (h.symm_lt_size id).2 (List.mem_range.1 hid)
    · intro hk
      exact ⟨σ k, List.mem_range.2 ((h.lt_size k).2 hk), σ.symm_apply_apply k⟩
  let found (id : NodeId) : Option Node := (b.node? id).map (Node.rename σ)
  have hfound : (List.range b.size).filterMap found = b.nodes.map (Node.rename σ) := by
    have hcomp : found = Option.map (Node.rename σ) ∘ b.node? := rfl
    rw [hcomp, ← List.filterMap_map, map_node?_range, List.filterMap_map]
    exact congrFun List.filterMap_eq_map' b.nodes
  have hrenamed : (b.rearrange σ).nodes = ((List.range b.size).map σ.symm).filterMap found := by
    rw [List.filterMap_map]
    rfl
  rw [hrenamed, ← hfound]
  exact hnames.filterMap found

theorem countP_rearrange {q : Node → Bool} (hq : ∀ n : Node, q (n.rename σ) = q n) :
    (b.rearrange σ).nodes.countP q = b.nodes.countP q := by
  rw [(perm_rearrange h).countP_eq q, List.countP_map]
  exact List.countP_congr fun n _ => by rw [Function.comp_apply, hq]

theorem tickReport_rearrange : (b.rearrange σ).tickReport = b.tickReport := by
  have hkind (kind : Kind) (n : Node) :
      decide ((n.rename σ).device.kind = kind) = decide (n.device.kind = kind) := by
    rw [Node.rename, Device.kind_rename]
  rw [tickReport_eq, tickReport_eq, countP_rearrange h (hkind .perceptron),
    countP_rearrange h (hkind .light), countP_rearrange h fun n => ?_]
  rw [Node.rename, Device.perceptron?_rename]
  cases n.device.perceptron? with
  | none => rfl
  | some p => simp [Perceptron.rename]

end Rearranged

/-! ## Any number of ticks -/

/-- If the perceptrons keep their order, a rearranged board goes through the same states as the
board itself, node by node and up to the new names, and every tick of it counts the same. -/
theorem iterate_rearrange {b : Board} {σ : Equiv.Perm NodeId} (h : b.Reordering σ) (t : Nat) :
    tick^[t] (b.rearrange σ) = (tick^[t] b).rearrange σ ∧
      (∀ id, (tick^[t] (b.rearrange σ)).node? (σ id) =
        ((tick^[t] b).node? id).map (Node.rename σ)) ∧
      (tick^[t] (b.rearrange σ)).tickReport = (tick^[t] b).tickReport := by
  have hboard : ∀ t, (tick^[t] b).Reordering σ ∧
      tick^[t] (b.rearrange σ) = (tick^[t] b).rearrange σ := by
    intro t
    induction t with
    | zero => exact ⟨h, rfl⟩
    | succ t ih =>
      obtain ⟨hordered, hsame⟩ := ih
      rw [Function.iterate_succ_apply', Function.iterate_succ_apply', hsame]
      exact ⟨hordered.tick, tick_rearrange hordered⟩
  obtain ⟨hordered, hsame⟩ := hboard t
  rw [hsame]
  exact ⟨rfl, node?_rearrange hordered, tickReport_rearrange hordered⟩

/-- A perceptron that is driven by a lit switch and held back by the one that it drives, and a light
that shows the latter. -/
def feedbackPair : Board :=
  ((Workbench.ofBoard (.empty 0)).run
    [.addSwitch ⟨50, 50⟩, .addPerceptron ⟨200, 100⟩ 2 (some [1, -1]) (some (-1)),
      .addPerceptron ⟨400, 200⟩ 1 (some [1]) (some (-1)), .addLight ⟨600, 100⟩,
      .connect 0 ⟨1, 0⟩, .connect 2 ⟨1, 1⟩, .connect 1 ⟨2, 0⟩, .connect 2 ⟨3, 0⟩,
      .handle (.press .primary ⟨70, 70⟩)]).board

/-- Puts the last node of the board first and moves the others up by one place. -/
def lastFirst : Equiv.Perm NodeId := (finRotate feedbackPair.size).extendDomain Fin.equivSubtype

/-- The light blinks, and blinks alike where it comes first. -/
theorem feedbackPair_rearranged :
    feedbackPair.Reordering lastFirst ∧ lastFirst 3 = 0 ∧
      ((tick^[2] (feedbackPair.rearrange lastFirst)).node? 0).map Node.device =
        some (.light ⟨some 3, false⟩) ∧
      ((tick^[3] (feedbackPair.rearrange lastFirst)).node? 0).map Node.device =
        some (.light ⟨some 3, true⟩) ∧
      tick^[3] (feedbackPair.rearrange lastFirst) = (tick^[3] feedbackPair).rearrange lastFirst ∧
      (tick^[3] (feedbackPair.rearrange lastFirst)).tickReport =
        (tick^[3] feedbackPair).tickReport := by
  have hordered : feedbackPair.Reordering lastFirst := reordering_extend _ (by decide +kernel)
  obtain ⟨hsame, -, hreport⟩ := iterate_rearrange hordered 3
  exact ⟨hordered, by decide +kernel, by decide +kernel, by decide +kernel, hsame, hreport⟩

end Board

end SignalBoard
