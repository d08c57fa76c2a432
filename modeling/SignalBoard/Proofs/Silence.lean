import SignalBoard.Proofs.Influence
import SignalBoard.Proofs.Resizing
import SignalBoard.Proofs.Settling
import SignalBoard.Proofs.SignedZero

/-! # Inputs that read false

An input that reads false adds a zero to the sum of its perceptron, whatever its weight is.  That
can change the sign of a zero and nothing else, so the perceptron decides as if the input were not
there (`Perceptron.fires_weightedSum`).

An input that nothing is wired to always reads false.  Boards that differ in such inputs alone are
`Board.Concordant`: they show the same, and because the perceptrons decide alike on whatever the
wires carry, so they do after every tick (`Board.Concordant.tick`). -/

namespace SignalBoard

set_option autoImplicit false

/-! ## What a perceptron decides on -/

namespace Perceptron

/-- The weights of the inputs that read true, in order. -/
def selected (weights : List Float32) (values : List Bool) : List Float32 :=
  ((weights.zip values).filter Prod.snd).map Prod.fst

/-- The sum that leaves out the inputs that read false. -/
def selectedSum (p : Perceptron) (values : List Bool) : Float32 :=
  (selected p.weights values).foldl (· + ·) (-0.0) + p.bias

theorem sameButSign_foldl (weights : List Float32) (values : List Bool) {sum sum' : Float32}
    (h : Binary32.SameButSign sum sum') :
    Binary32.SameButSign ((List.zipWith contribution weights values).foldl (· + ·) sum)
      ((selected weights values).foldl (· + ·) sum') := by
  induction weights generalizing values sum sum' with
  | nil => exact h
  | cons weight weights ih =>
    cases values with
    | nil => exact h
    | cons value values =>
      cases value with
      | true => exact ih values (h.add_right weight)
      | false => exact ih values ((Binary32.sameButSign_add Binary32.isZero_zero sum).trans h)

theorem fires_weightedSum (p : Perceptron) (values : List Bool) :
    fires (p.weightedSum values) = fires (p.selectedSum values) :=
  ((sameButSign_foldl p.weights values (Binary32.sameButSign_self (-0.0))).add_right
    p.bias).fires_eq

theorem firing_evaluate {p : Perceptron} (h : p.weights.length = p.slots.length)
    (values : List Bool) : (p.evaluate values).firing = fires (p.selectedSum values) := by
  have hrepair : p.repair = p := p.repair_eq_fit.trans (fit_of_length h)
  have hfiring : (p.evaluate values).firing = fires (p.repair.weightedSum values) := rfl
  rw [hfiring, hrepair, fires_weightedSum]

/-- The weights of the inputs that read false are not selected. -/
theorem selected_congr {weights weights' : List Float32} {values : List Bool}
    (hlength : weights'.length = weights.length)
    (h : ∀ i : Nat, values[i]? = some true → weights'[i]? = weights[i]?) :
    selected weights' values = selected weights values := by
  induction weights generalizing weights' values with
  | nil =>
    obtain rfl : weights' = [] := List.length_eq_zero_iff.1 hlength
    rfl
  | cons weight weights ih =>
    obtain ⟨weight', rest', rfl⟩ := List.exists_cons_of_length_eq_add_one hlength
    cases values with
    | nil => rfl
    | cons value values =>
      have hrest : selected rest' values = selected weights values :=
        ih (Nat.succ.inj hlength) fun i => h (i + 1)
      cases value with
      | false => exact hrest
      | true =>
        obtain rfl : weight' = weight := Option.some.inj (h 0 rfl)
        exact congrArg (weight' :: ·) hrest

theorem selected_append_false {weights : List Float32} {values : List Bool}
    (h : weights.length = values.length) (weight : Float32) :
    selected (weights ++ [weight]) (values ++ [false]) = selected weights values := by
  unfold selected
  rw [List.zip_append h, List.filter_append]
  exact congrArg (List.map Prod.fst) (List.append_nil _)

/-! ## Perceptrons that decide alike -/

/-- The perceptrons show the same and go on to decide the same, whatever their wires carry. -/
structure Concords (p q : Perceptron) : Prop where
  firing : p.firing = q.firing
  decision : ∀ carry : Option NodeId → Bool, carry none = false →
    fires (p.fit.weightedSum (p.slots.map carry)) = fires (q.fit.weightedSum (q.slots.map carry))

theorem concords_self (p : Perceptron) : p.Concords p := ⟨rfl, fun _ _ => rfl⟩

theorem Concords.symm {p q : Perceptron} (h : p.Concords q) : q.Concords p :=
  ⟨h.firing.symm, fun carry hcarry => (h.decision carry hcarry).symm⟩

/-- A last input that nothing is wired to makes no difference. -/
theorem concords_of_free_last {p q : Perceptron} {weight : Float32}
    (hlength : p.weights.length = p.slots.length) (hfiring : q.firing = p.firing)
    (hbias : q.bias = p.bias) (hweights : q.weights = p.weights ++ [weight])
    (hslots : q.slots = p.slots ++ [none]) : p.Concords q := by
  have hlength' : q.weights.length = q.slots.length := by
    rw [hweights, hslots, List.length_append, List.length_append, hlength]
    rfl
  refine ⟨hfiring.symm, fun carry hcarry => ?_⟩
  have hvalues : q.slots.map carry = p.slots.map carry ++ [false] := by
    rw [hslots, List.map_append, List.map_singleton, hcarry]
  have hselected : selected q.weights (q.slots.map carry) =
      selected p.weights (p.slots.map carry) := by
    rw [hvalues, hweights]
    exact selected_append_false (by rw [List.length_map, hlength]) weight
  rw [fit_of_length hlength, fit_of_length hlength', fires_weightedSum, fires_weightedSum,
    selectedSum, selectedSum, hselected, hbias]

theorem Shaped.concords_grow {p : Perceptron} (h : p.Shaped) (weight : Float32) :
    p.Concords (p.grow weight) :=
  concords_of_free_last h.weights rfl rfl rfl rfl

theorem Shaped.concords_shrink {p : Perceptron} (h : p.Shaped) (hfree : p.lastSource = none) :
    p.Concords p.shrink := by
  have hslots : p.slots ≠ [] := List.ne_nil_of_length_pos h.atLeast
  have hweights : p.weights ≠ [] := List.ne_nil_of_length_pos (h.weights ▸ h.atLeast)
  have hlast : p.slots.getLast hslots = none := by
    rw [lastSource, List.getLast?_eq_some_getLast hslots] at hfree
    exact hfree
  have hlength : p.shrink.weights.length = p.shrink.slots.length := by
    show p.weights.dropLast.length = p.slots.dropLast.length
    rw [List.length_dropLast, List.length_dropLast, h.weights]
  have hallWeights : p.weights = p.shrink.weights ++ [p.weights.getLast hweights] :=
    (List.dropLast_append_getLast hweights).symm
  have hallSlots : p.slots = p.shrink.slots ++ [none] := by
    rw [← hlast]
    exact (List.dropLast_append_getLast hslots).symm
  have hconcords : p.shrink.Concords p :=
    concords_of_free_last hlength rfl rfl hallWeights hallSlots
  exact hconcords.symm

end Perceptron

/-! ## Boards that show the same -/

/-- The devices are the same but for perceptrons, which decide alike. -/
inductive Device.Concords : Device → Device → Prop
  | switch (s : Switch) : Concords (.switch s) (.switch s)
  | perceptron {p q : Perceptron} (h : p.Concords q) : Concords (.perceptron p) (.perceptron q)
  | light (l : Light) : Concords (.light l) (.light l)

namespace Device

theorem concords_self (d : Device) : d.Concords d := by
  cases d with
  | switch s => exact .switch s
  | perceptron p => exact .perceptron p.concords_self
  | light l => exact .light l

theorem Concords.output? {d e : Device} (h : d.Concords e) : d.output? = e.output? := by
  cases h with
  | switch s => rfl
  | perceptron h => exact congrArg some h.firing
  | light l => rfl

theorem Concords.light? {d e : Device} (h : d.Concords e) : d.light? = e.light? := by
  cases h with
  | switch s => rfl
  | perceptron h => rfl
  | light l => rfl

/-- A tick that takes the same signals to the same signals keeps devices in concord. -/
theorem Concords.settle {d e : Device} (h : d.Concords e) (old new : NodeId → Bool) (id : NodeId) :
    (d.settle old new id).Concords (e.settle old new id) := by
  cases h with
  | switch s => exact .switch s
  | light l => exact .light _
  | @perceptron p q h =>
    refine .perceptron ⟨rfl, fun carry hcarry => ?_⟩
    rw [p.fit_remembering, q.fit_remembering]
    exact h.decision carry hcarry

end Device

namespace Board

def Concordant (b c : Board) : Prop :=
  ∀ id, Option.Rel Device.Concords (b.device? id) (c.device? id)

/-- At every node of the boards is the same output, or the same light in the same state. -/
structure ShowsAs (b c : Board) : Prop where
  output : ∀ id, (b.node? id).map Node.output? = (c.node? id).map Node.output?
  light : ∀ id, b.light? id = c.light? id

theorem concordant_self (b : Board) : b.Concordant b := by
  intro id
  cases b.device? id with
  | none => exact .none
  | some d => exact .some d.concords_self

theorem map_eq_of_rel {α : Type} {view : Device → α}
    (hview : ∀ {d e}, d.Concords e → view d = view e) {found found' : Option Device}
    (h : Option.Rel Device.Concords found found') :
    found.map view = found'.map view := by
  cases h with
  | none => rfl
  | some h => exact congrArg some (hview h)

theorem map_output?_eq (b : Board) (id : NodeId) :
    (b.node? id).map Node.output? = (b.device? id).map Device.output? := by
  rw [device?, Option.map_map]
  rfl

theorem light?_eq (b : Board) (id : NodeId) :
    b.light? id = ((b.device? id).map Device.light?).join := by
  rw [light?, device?, Option.map_map]
  cases b.node? id with
  | none => rfl
  | some n => rfl

theorem Concordant.showsAs {b c : Board} (h : b.Concordant c) : b.ShowsAs c where
  output id := by
    rw [map_output?_eq, map_output?_eq]
    exact map_eq_of_rel Device.Concords.output? (h id)
  light id := by
    rw [light?_eq, light?_eq, map_eq_of_rel Device.Concords.light? (h id)]

theorem ShowsAs.outputOf_eq {b c : Board} (h : b.ShowsAs c) : b.outputOf = c.outputOf := by
  funext id
  have hout (b : Board) : b.outputOf id = (((b.node? id).map Node.output?).join).getD false := by
    rw [Board.outputOf_eq]
    cases b.node? id with
    | none => rfl
    | some n => rfl
  rw [hout, hout, h.output id]

theorem Concordant.perceptron? {b c : Board} (h : b.Concordant c) (id : NodeId) :
    Option.Rel Perceptron.Concords (b.perceptron? id) (c.perceptron? id) := by
  have hid := h id
  rw [perceptron?_eq_bind, perceptron?_eq_bind]
  generalize b.device? id = found at hid ⊢
  generalize c.device? id = found' at hid ⊢
  cases hid with
  | none => exact .none
  | some hconcords =>
    cases hconcords with
    | switch s => exact .none
    | perceptron h => exact .some h
    | light l => exact .none

/-- What concordant boards show after a tick solves the equations of both. -/
theorem Concordant.outputOf_tick {b c : Board} (h : b.Concordant c) :
    b.tick.outputOf = c.tick.outputOf := by
  have hout : b.outputOf = c.outputOf := h.showsAs.outputOf_eq
  refine Solves.unique (b := c) ⟨fun id hid => ?_, fun id q hq => ?_⟩ c.solves_tick
  · have hunit := h.perceptron? id
    rw [hid] at hunit
    rw [← hout]
    refine b.solves_tick.other id ?_
    cases hp : b.perceptron? id with
    | none => rfl
    | some p =>
      rw [hp] at hunit
      cases hunit
  · have hunit := h.perceptron? id
    rw [hq] at hunit
    cases hp : b.perceptron? id with
    | none =>
      rw [hp] at hunit
      cases hunit
    | some p =>
      rw [hp] at hunit
      cases hunit with
      | some hconcords =>
        rw [b.solves_tick.perceptron id p hp, ← hout]
        exact hconcords.decision _ rfl

theorem Concordant.tick {b c : Board} (h : b.Concordant c) : b.tick.Concordant c.tick := by
  intro id
  have hid := h id
  rw [device?_tick, device?_tick, ← h.showsAs.outputOf_eq, ← h.outputOf_tick]
  generalize b.device? id = found at hid ⊢
  generalize c.device? id = found' at hid ⊢
  cases hid with
  | none => exact .none
  | some hconcords => exact .some (hconcords.settle _ _ id)

theorem Concordant.iterate {b c : Board} (h : b.Concordant c) (t : Nat) :
    (Board.tick^[t] b).Concordant (Board.tick^[t] c) := by
  induction t with
  | zero => exact h
  | succ t ih =>
    rw [Function.iterate_succ_apply', Function.iterate_succ_apply']
    exact ih.tick

/-! ## One input more or less -/

/-- Perceptrons that decide alike may stand for each other. -/
theorem concordant_withDevice {b c : Board} {id : NodeId} {p q : Perceptron}
    (hp : b.perceptron? id = some p) (hconcords : p.Concords q)
    (hc : c.nodes = (b.withDevice id (.perceptron q)).nodes) : b.Concordant c := by
  intro j
  have hnode : c.node? j = (b.withDevice id (.perceptron q)).node? j := by
    unfold node?
    rw [hc]
  by_cases hj : j = id
  · subst hj
    obtain ⟨n, hn, hd⟩ := perceptron?_eq_some_iff.1 hp
    have hb : b.device? j = some (.perceptron p) := by rw [device?, hn, Option.map_some, hd]
    have hq : c.device? j = some (.perceptron q) := by
      rw [device?, hnode, withDevice, node?_modifyNode_self hn]
      rfl
    rw [hb, hq]
    exact .some (.perceptron hconcords)
  · have hsame : c.device? j = b.device? j := by
      rw [device?, hnode, withDevice, node?_modifyNode, if_neg hj]
      rfl
    rw [hsame]
    exact b.concordant_self j

theorem Reachable.concordant_incrementInputs {b : Board} (h : b.Reachable) (id : NodeId) :
    b.Concordant (b.incrementInputs id).state := by
  rcases b.incrementInputs_cases id with ⟨-, hstate⟩ | ⟨p, hp, hgrow, -⟩
  · rw [hstate]
    exact b.concordant_self
  · rw [incrementInputs_of_canGrow hp hgrow]
    exact concordant_withDevice hp ((h.shaped id p hp).concords_grow _) rfl

theorem Reachable.concordant_decrementInputs {b : Board} (h : b.Reachable) {id : NodeId}
    {p : Perceptron} (hp : b.perceptron? id = some p) (hfree : p.lastSource = none) :
    b.Concordant (b.decrementInputs id).state := by
  cases hshrink : p.canShrink with
  | false =>
    rw [decrementInputs_of_not_canShrink hp hshrink]
    exact b.concordant_self
  | true =>
    rw [decrementInputs_of_canShrink h.wired hp hshrink]
    exact concordant_withDevice hp ((h.shaped id p hp).concords_shrink hfree) rfl

/-- A perceptron decides on the sum of the weights of its true inputs, whatever the other weights
are.  So boards of which one has been given a further input of some perceptron, or has lost one that
nothing was wired to, show the same after any number of ticks. -/
theorem false_inputs_absent :
    (∀ (p : Perceptron) (values : List Bool), p.weights.length = p.slots.length →
      values.length = p.slots.length →
      (p.evaluate values).firing =
          Perceptron.fires
            ((Perceptron.selected p.weights values).foldl (· + ·) (-0.0) + p.bias) ∧
        ∀ weights : List Float32, weights.length = p.weights.length →
          (∀ i : Nat, values[i]? = some true → weights[i]? = p.weights[i]?) →
          (Perceptron.evaluate { p with weights := weights } values).firing =
            (p.evaluate values).firing) ∧
    ∀ b : Board, b.Reachable → ∀ id t,
      (Board.tick^[t] b).ShowsAs (Board.tick^[t] (b.incrementInputs id).state) ∧
        ∀ p, b.perceptron? id = some p → p.lastSource = none →
          (Board.tick^[t] b).ShowsAs (Board.tick^[t] (b.decrementInputs id).state) := by
  refine ⟨fun p values hlength _ => ⟨Perceptron.firing_evaluate hlength values, ?_⟩,
    fun b h id t => ⟨?_, fun p hp hfree => ?_⟩⟩
  · intro weights hweights hsame
    have hselected : Perceptron.selected weights values = Perceptron.selected p.weights values :=
      Perceptron.selected_congr hweights hsame
    have hlength' : ({ p with weights := weights } : Perceptron).weights.length = p.slots.length :=
      hweights.trans hlength
    rw [Perceptron.firing_evaluate hlength, Perceptron.firing_evaluate hlength']
    show Perceptron.fires ((Perceptron.selected weights values).foldl (· + ·) (-0.0) + p.bias) = _
    rw [hselected]
    rfl
  · exact ((h.concordant_incrementInputs id).iterate t).showsAs
  · exact ((h.concordant_decrementInputs hp hfree).iterate t).showsAs

/-- A perceptron with a weight that is not a number; the other weights and the bias add up to zero.
-/
def brokenUnit : Perceptron := .ofWeights [0 / 0, -0.0, 1] (-1)

/-- A perceptron that is wired to a lit switch and to itself, and whose last input is free, and a
light that shows it. -/
def spareInput : Board :=
  ((Workbench.ofBoard (.empty 0)).run
    [.addSwitch ⟨50, 50⟩, .addPerceptron ⟨200, 100⟩ 3 (some [1, -1, 0 / 0]) (some (-0.5)),
      .addLight ⟨600, 100⟩, .connect 0 ⟨1, 0⟩, .connect 1 ⟨1, 1⟩, .connect 1 ⟨2, 0⟩,
      .handle (.press .primary ⟨70, 70⟩)]).board

/-- The broken weight counts only if its input reads true.  The light blinks, with the free input
and without it. -/
theorem spareInput_absent :
    (brokenUnit.evaluate [true, true, true]).firing = false ∧
      (brokenUnit.evaluate [false, true, true]).firing = true ∧
      (Perceptron.evaluate { brokenUnit with weights := [1 / 0, -0.0, 1] }
        [false, true, true]).firing = true ∧
      spareInput.Reachable ∧ spareInput.tick.outputOf 1 = true ∧
      spareInput.tick.tick.outputOf 1 = false ∧
      ((spareInput.incrementInputs 1).state.perceptron? 1).map Perceptron.inputCount = some 4 ∧
      ((spareInput.decrementInputs 1).state.perceptron? 1).map Perceptron.inputCount = some 2 ∧
      ∀ t, (Board.tick^[t] spareInput).ShowsAs
          (Board.tick^[t] (spareInput.incrementInputs 1).state) ∧
        (Board.tick^[t] spareInput).ShowsAs
          (Board.tick^[t] (spareInput.decrementInputs 1).state) := by
  have h : spareInput.Reachable := Reachable.run (.empty 0) _
  obtain ⟨hunit, hboard⟩ := false_inputs_absent
  obtain ⟨hsum, hweights⟩ := hunit brokenUnit [false, true, true] rfl rfl
  have hfiring : (brokenUnit.evaluate [false, true, true]).firing = true :=
    hsum.trans (by decide +kernel)
  have hsame := hweights [1 / 0, -0.0, 1] rfl fun i hi => by
    cases i with
    | zero => cases hi
    | succ i => rfl
  obtain ⟨p, hp⟩ : ∃ p, spareInput.perceptron? 1 = some p :=
    Option.isSome_iff_exists.1 (by decide +kernel)
  have hfree : p.lastSource = none := by
    have hlast : (spareInput.perceptron? 1).map Perceptron.lastSource = some none := by
      decide +kernel
    rw [hp] at hlast
    exact Option.some.inj hlast
  exact ⟨by decide +kernel, hfiring, hsame.trans hfiring, h, by decide +kernel, by decide +kernel,
    by decide +kernel, by decide +kernel,
    fun t => ⟨(hboard spareInput h 1 t).1, (hboard spareInput h 1 t).2 p hp hfree⟩⟩

end Board

end SignalBoard
