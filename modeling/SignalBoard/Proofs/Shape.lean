import SignalBoard.Proofs.Slots

/-! # The shape of perceptrons

Weights, inputs and remembered values of a perceptron are indexed alike, and there are between one
and eight of each.  Every edit keeps this (`Board.Shaped.edit`), so on a reachable board a tick
never has a number of weights to put right. -/

namespace SignalBoard

set_option autoImplicit false

/-! ## One perceptron -/

/-- As many weights and values as inputs, and no fewer or more inputs than allowed. -/
structure Perceptron.Shaped (p : Perceptron) : Prop where
  weights : p.weights.length = p.slots.length
  values : p.values.length = p.slots.length
  atLeast : minInputs ≤ p.slots.length
  atMost : p.slots.length ≤ maxInputs

namespace Perceptron

theorem shaped_ofWeights {weights : List Float32} (bias : Float32)
    (hmin : minInputs ≤ weights.length) (hmax : weights.length ≤ maxInputs) :
    (ofWeights weights bias).Shaped := by
  have hslots : (ofWeights weights bias).slots.length = weights.length := List.length_replicate
  have hvalues : (ofWeights weights bias).values.length = weights.length := List.length_replicate
  exact ⟨hslots.symm, hvalues.trans hslots.symm, hslots ▸ hmin, hslots ▸ hmax⟩

theorem Shaped.grow {p : Perceptron} (h : p.Shaped) (hgrow : p.canGrow = true) (weight : Float32) :
    (p.grow weight).Shaped := by
  have hroom : p.slots.length < maxInputs := of_decide_eq_true hgrow
  have hslots : (p.grow weight).slots.length = p.slots.length + 1 := List.length_append
  have hweights : (p.grow weight).weights.length = p.weights.length + 1 := List.length_append
  have hvalues : (p.grow weight).values.length = p.values.length + 1 := List.length_append
  have hmin := h.atLeast
  have hw := h.weights
  have hv := h.values
  constructor <;> omega

theorem Shaped.shrink {p : Perceptron} (h : p.Shaped) (hshrink : p.canShrink = true) :
    p.shrink.Shaped := by
  have hspare : minInputs < p.slots.length := of_decide_eq_true hshrink
  have hslots : p.shrink.slots.length = p.slots.length - 1 := List.length_dropLast
  have hweights : p.shrink.weights.length = p.weights.length - 1 := List.length_dropLast
  have hvalues : p.shrink.values.length = min (p.slots.length - 1) p.values.length :=
    List.length_take
  have hmax := h.atMost
  have hw := h.weights
  have hv := h.values
  constructor <;> omega

theorem Shaped.wire {p : Perceptron} (h : p.Shaped) (index : Nat) (source : Option NodeId) :
    Shaped { p with slots := p.slots.set index source } := by
  have hslots : (p.slots.set index source).length = p.slots.length := List.length_set
  exact ⟨h.weights.trans hslots.symm, h.values.trans hslots.symm, hslots ▸ h.atLeast,
    hslots ▸ h.atMost⟩

theorem Shaped.read {p : Perceptron} (h : p.Shaped) (read : Option NodeId → Bool) (firing : Bool) :
    Shaped { p.fit with values := p.slots.map read, firing := firing } := by
  rw [fit_of_length h.weights]
  exact ⟨h.weights, List.length_map _, h.atLeast, h.atMost⟩

end Perceptron

/-! ## All perceptrons of a board -/

namespace Board

def Shaped (b : Board) : Prop := ∀ i p, b.perceptron? i = some p → p.Shaped

theorem shaped_empty (seed : UInt64) : Shaped (.empty seed) := by
  intro i p hp
  cases hp

theorem Shaped.add {b : Board} (h : Shaped b) (bounds : Rect) {device : Device}
    (hfresh : device.Fresh) : Shaped (b.add bounds device) := by
  intro i p hp
  obtain ⟨n, hn, hd⟩ := perceptron?_eq_some_iff.1 hp
  rw [node?_add] at hn
  by_cases hi : i = b.size
  · rw [if_pos hi] at hn
    obtain rfl : Node.make b.size bounds device = n := Option.some.inj hn
    obtain rfl : device = .perceptron p := hd
    cases hfresh with
    | perceptron weights bias hmin hmax => exact Perceptron.shaped_ofWeights bias hmin hmax
  · rw [if_neg hi] at hn
    exact h i p (perceptron?_eq_some_iff.2 ⟨n, hn, hd⟩)

theorem Shaped.modifyNode {b : Board} (h : Shaped b) {id : NodeId} {f : Node → Node}
    (hf : ∀ n p, b.node? id = some n → (f n).device = .perceptron p → p.Shaped) :
    Shaped (b.modifyNode id f) := by
  intro i p hp
  obtain ⟨n, hn, hd⟩ := perceptron?_eq_some_iff.1 hp
  rw [node?_modifyNode] at hn
  by_cases hi : i = id
  · subst hi
    rw [if_pos rfl] at hn
    obtain ⟨m, hm, rfl⟩ := Option.map_eq_some_iff.1 hn
    exact hf m p hm hd
  · rw [if_neg hi] at hn
    exact h i p (perceptron?_eq_some_iff.2 ⟨n, hn, hd⟩)

theorem Shaped.wire {b : Board} (h : Shaped b) (socket : Socket) (source : Option NodeId) :
    Shaped (b.modifyNode socket.node (Node.mapDevice fun d => d.wire socket.index source)) := by
  apply h.modifyNode
  intro n p hn hd
  cases hdev : n.device with
  | switch s => simp [Node.mapDevice, Device.wire, hdev] at hd
  | light l =>
    simp only [Node.mapDevice, Device.wire, hdev] at hd
    split at hd <;> cases hd
  | perceptron q =>
    simp only [Node.mapDevice, Device.wire, hdev, Device.perceptron.injEq] at hd
    subst hd
    exact (h _ q (perceptron?_eq_some_iff.2 ⟨n, hn, hdev⟩)).wire socket.index source

theorem Shaped.withDevice {b : Board} (h : Shaped b) (id : NodeId) {p : Perceptron}
    (hp : p.Shaped) : Shaped (b.withDevice id (.perceptron p)) := by
  apply h.modifyNode
  intro n q _ hd
  obtain rfl : p = q := Device.perceptron.inj hd
  exact hp

theorem Shaped.flip {b : Board} (h : Shaped b) (id : NodeId) :
    Shaped (b.modifyNode id (Node.mapDevice Device.toggle)) := by
  apply h.modifyNode
  intro n p hn hd
  cases hdev : n.device with
  | switch s => simp [Node.mapDevice, Device.toggle, hdev] at hd
  | light l => simp [Node.mapDevice, Device.toggle, hdev] at hd
  | perceptron q =>
    obtain rfl : q = p := by simpa [Node.mapDevice, Device.toggle, hdev] using hd
    exact h _ q (perceptron?_eq_some_iff.2 ⟨n, hn, hdev⟩)

theorem Shaped.tick {b : Board} (h : Shaped b) : Shaped b.tick := by
  intro i p hp
  rw [perceptron?_tick] at hp
  obtain ⟨q, hq, rfl⟩ := Option.map_eq_some_iff.1 hp
  exact (h i q hq).read _ _

theorem Shaped.edit {b b' : Board} (h : Shaped b) (hedit : Edit b b') : Shaped b' := by
  cases hedit with
  | keep => exact h
  | add drawn bounds device hfresh => exact Shaped.add h bounds hfresh
  | attach source socket held hcheck => exact h.wire socket (some source)
  | detach socket => exact h.wire socket none
  | grow id p hp hgrow => exact Shaped.withDevice h id ((h id p hp).grow hgrow _)
  | shrink id p hp hshrink wires hwires => exact h.withDevice id ((h id p hp).shrink hshrink)
  | flip id => exact h.flip id
  | carry id corner =>
    apply h.modifyNode
    intro n p hn hd
    exact h id p (perceptron?_eq_some_iff.2 ⟨n, hn, hd⟩)
  | tick => exact h.tick

theorem Reachable.shaped {b : Board} (h : Reachable b) : Shaped b :=
  h.invariant shaped_empty fun _ _ => Shaped.edit

end Board

end SignalBoard
