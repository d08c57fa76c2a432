import Mathlib.Logic.Function.Iterate
import SignalBoard.Proofs.Acyclic
import SignalBoard.Proofs.Shape

/-! # Boards that settle

Ticks alone change nothing but what perceptrons and lights remember (`Board.Alike`).  If the wiring
among the perceptrons has no cycle, then each of them shows its settled signal once more ticks have
passed than its lag, whatever was shown before (`outputOf_iterate`), and after one tick more than
the largest lag a tick changes nothing at all (`tick_iterate`).

The first is an induction along the wiring for all numbers of ticks at once: a source created
earlier is read as it is after the same tick, a source created later as it was one tick ago, and
that is the tick by which it lags less. -/

namespace SignalBoard

set_option autoImplicit false

/-! ## What ticks leave alone -/

/-- The device with another signal, if it is a perceptron. -/
def Device.withFiring (firing : Bool) : Device → Device
  | perceptron p => perceptron { p with firing := firing }
  | d => d

/-- What a perceptron remembers has no part in how its weights are fitted. -/
theorem Perceptron.Shaped.fit_remembering {p : Perceptron} (h : p.Shaped) (values : List Bool)
    (firing : Bool) : fit { p with values := values, firing := firing } =
      { p with values := values, firing := firing } :=
  fit_of_length h.weights

namespace Board

def light? (b : Board) (id : NodeId) : Option Light := (b.node? id).bind fun n => n.device.light?

/-- The board with other signals of its perceptrons. -/
def withOutputs (b : Board) (out : NodeId → Bool) : Board :=
  { b with nodes := b.nodes.mapIdx fun i => Node.mapDevice (Device.withFiring (out i)) }

/-- `c` is `b` but for what its perceptrons and lights remember. -/
structure Alike (b c : Board) : Prop where
  unit : ∀ i p, b.perceptron? i = some p →
    ∃ values firing, c.perceptron? i = some { p with values := values, firing := firing }
  other : ∀ j, b.perceptron? j = none → c.perceptron? j = none ∧ c.outputOf j = b.outputOf j
  light : ∀ k l, b.light? k = some l → ∃ lit, c.light? k = some { l with lit := lit }

theorem node?_withOutputs (b : Board) (out : NodeId → Bool) (i : NodeId) :
    (b.withOutputs out).node? i =
      (b.node? i).map (Node.mapDevice (Device.withFiring (out i))) :=
  List.getElem?_mapIdx

theorem perceptron?_withOutputs (b : Board) (out : NodeId → Bool) (i : NodeId) :
    (b.withOutputs out).perceptron? i =
      (b.perceptron? i).map fun p => { p with firing := out i } := by
  rw [perceptron?, perceptron?, node?_withOutputs]
  apply bind_mapDevice Device.perceptron?
  intro d
  cases d with
  | switch s => rfl
  | perceptron p => rfl
  | light l => rfl

theorem light?_withOutputs (b : Board) (out : NodeId → Bool) (k : NodeId) :
    (b.withOutputs out).light? k = (b.light? k).map id := by
  rw [light?, light?, node?_withOutputs]
  apply bind_mapDevice Device.light?
  intro d
  cases d with
  | switch s => rfl
  | perceptron p => rfl
  | light l => rfl

theorem outputOf_withOutputs_of_other {b : Board} (out : NodeId → Bool) {j : NodeId}
    (hj : b.perceptron? j = none) : (b.withOutputs out).outputOf j = b.outputOf j := by
  apply outputOf_of_other (node?_withOutputs b out j) hj
  intro d hd
  cases d with
  | switch s => rfl
  | perceptron p => cases hd
  | light l => rfl

theorem alike_withOutputs (b : Board) (out : NodeId → Bool) : b.Alike (b.withOutputs out) := by
  refine ⟨fun i p hp => ?_, fun j hj => ?_, fun k l hl => ?_⟩
  · refine ⟨p.values, out i, ?_⟩
    rw [perceptron?_withOutputs, hp]
    rfl
  · refine ⟨?_, outputOf_withOutputs_of_other out hj⟩
    rw [perceptron?_withOutputs, hj]
    rfl
  · refine ⟨l.lit, ?_⟩
    rw [light?_withOutputs, hl]
    rfl

theorem light?_tick (b : Board) (k : NodeId) :
    b.tick.light? k =
      (b.light? k).map fun l => { l with lit := l.slot.elim false b.tick.outputOf } := by
  rw [light?, light?, node?_tick]
  apply bind_mapDevice Device.light?
  intro d
  cases d with
  | switch s => rfl
  | perceptron p => rfl
  | light l => rfl

theorem Alike.tick {b c : Board} (h : b.Alike c) (hb : b.Shaped) : b.Alike c.tick := by
  refine ⟨fun i p hp => ?_, fun j hj => ?_, fun k l hl => ?_⟩
  · obtain ⟨values, firing, hc⟩ := h.unit i p hp
    refine ⟨p.slots.map (reading c.outputOf c.tick.outputOf i), c.tick.outputOf i, ?_⟩
    rw [perceptron?_tick, hc, Option.map_some, (hb i p hp).fit_remembering]
  · obtain ⟨hc, hout⟩ := h.other j hj
    constructor
    · rw [perceptron?_tick, hc]
      rfl
    · rw [outputOf_tick_of_other hc, hout]
  · obtain ⟨lit, hc⟩ := h.light k l hl
    refine ⟨l.slot.elim false c.tick.outputOf, ?_⟩
    rw [light?_tick, hc]
    rfl

theorem Alike.iterate {b c : Board} (h : b.Alike c) (hb : b.Shaped) (t : Nat) :
    b.Alike (Board.tick^[t] c) := by
  induction t with
  | zero => exact h
  | succ t ih =>
    rw [Function.iterate_succ_apply']
    exact ih.tick hb

theorem Alike.outputOf_tick {b c : Board} (h : b.Alike c) (hb : b.Shaped) {i : NodeId}
    {p : Perceptron} (hp : b.perceptron? i = some p) :
    c.tick.outputOf i = Perceptron.fires
      (p.weightedSum (p.slots.map (reading c.outputOf c.tick.outputOf i))) := by
  obtain ⟨values, firing, hc⟩ := h.unit i p hp
  rw [outputOf_tick_of_perceptron hc, (hb i p hp).fit_remembering]
  rfl

/-! ## The signals -/

/-- Once the sources have settled, so has what a perceptron reads of them. -/
theorem reading_iterate {b c : Board} (h : b.Acyclic) (hc : ∀ t, b.Alike (tick^[t] c)) {i : NodeId}
    {p : Perceptron} (hp : b.perceptron? i = some p)
    (hsources : ∀ j, some j ∈ p.slots → ∀ t, b.lag h j < t →
      (tick^[t] c).outputOf j = b.settled h j)
    {t : Nat} (ht : b.lag h i ≤ t) {slot : Option NodeId} (hslot : slot ∈ p.slots) :
    reading (tick^[t] c).outputOf (tick^[t + 1] c).outputOf i slot =
      slot.elim false (b.settled h) := by
  cases slot with
  | none => rfl
  | some j =>
    have hhop := hop_le_lag h hp hslot
    show (if j < i then (tick^[t + 1] c).outputOf j else (tick^[t] c).outputOf j) = b.settled h j
    by_cases hq : (b.perceptron? j).isSome = true
    · rw [hop, if_pos hq] at hhop
      by_cases hj : j < i
      · rw [if_pos hj] at hhop ⊢
        exact hsources j hslot (t + 1) (by omega)
      · rw [if_neg hj] at hhop ⊢
        exact hsources j hslot t (by omega)
    · have hnone : b.perceptron? j = none := by simpa using hq
      rw [((hc (t + 1)).other j hnone).2, ((hc t).other j hnone).2, ite_self,
        settled_of_other h hnone]

/-- A node shows its settled signal once more ticks have passed than its lag. -/
theorem outputOf_iterate {b c : Board} (h : b.Acyclic) (hb : b.Shaped) (hc : b.Alike c)
    (i : NodeId) :
    ∀ t, b.lag h i < t → (tick^[t] c).outputOf i = b.settled h i := by
  -- along the wiring, and for every `t` at once: a later source is asked about one tick earlier
  induction hr : b.height i using Nat.strongRecOn generalizing i with
  | ind r ih =>
    intro t ht
    cases hp : b.perceptron? i with
    | none => rw [((hc.iterate hb t).other i hp).2, settled_of_other h hp]
    | some p =>
      obtain ⟨s, rfl⟩ : ∃ s, t = s + 1 := ⟨t - 1, by omega⟩
      have hsources : ∀ j, some j ∈ p.slots → ∀ t, b.lag h j < t →
          (tick^[t] c).outputOf j = b.settled h j :=
        fun j hj => ih (b.height j) (hr ▸ h.height_lt hp hj) j rfl
      have hread : p.slots.map (reading (tick^[s] c).outputOf (tick^[s + 1] c).outputOf i) =
          p.slots.map fun slot => slot.elim false (b.settled h) :=
        List.map_congr_left fun slot hslot =>
          reading_iterate h (hc.iterate hb) hp hsources (Nat.le_of_lt_succ ht) hslot
      rw [settled_of_perceptron h hp, ← hread, Function.iterate_succ_apply']
      exact (hc.iterate hb s).outputOf_tick hb hp

theorem light?_iterate {b c : Board} (h : b.Acyclic) (hb : b.Shaped) (hc : b.Alike c) {k : NodeId}
    {l : Light} (hl : b.light? k = some l) {t : Nat} (hpos : 0 < t)
    (ht : ∀ i, l.slot = some i → b.lag h i < t) :
    ((tick^[t] c).light? k).map Light.lit = some (l.slot.elim false (b.settled h)) := by
  obtain ⟨s, rfl⟩ : ∃ s, t = s + 1 := ⟨t - 1, by omega⟩
  obtain ⟨lit, hlight⟩ := (hc.iterate hb s).light k l hl
  rw [Function.iterate_succ_apply', light?_tick, hlight, Option.map_some, Option.map_some]
  cases hslot : l.slot with
  | none => rfl
  | some i =>
    have hout := outputOf_iterate h hb hc i (s + 1) (ht i hslot)
    rw [Function.iterate_succ_apply'] at hout
    exact congrArg some hout

/-! ## The fixed point -/

theorem settle_settle {old new : NodeId → Bool} {i : NodeId} {d : Device}
    (hread : ∀ p, d.perceptron? = some p → ∀ slot ∈ p.slots,
      reading old new i slot = slot.elim false new) :
    (d.settle old new i).settle new new i = d.settle old new i := by
  cases d with
  | switch s => rfl
  | light l => rfl
  | perceptron p =>
    have hvalues : p.slots.map (reading new new i) = p.slots.map (reading old new i) := by
      apply List.map_congr_left
      intro slot hslot
      rw [hread p rfl slot hslot]
      cases slot with
      | none => rfl
      | some j => exact ite_self _
    show Device.perceptron { ({ p.fit with
        values := p.slots.map (reading old new i), firing := new i } : Perceptron).fit with
        values := p.slots.map (reading new new i), firing := new i } = _
    rw [p.fit_remembering, hvalues]
    rfl

theorem tick_tick {b : Board} (hout : b.tick.tick.outputOf = b.tick.outputOf)
    (hread : ∀ i p, b.perceptron? i = some p → ∀ slot ∈ p.slots,
      reading b.outputOf b.tick.outputOf i slot = slot.elim false b.tick.outputOf) :
    b.tick.tick = b.tick := by
  have hnodes : b.tick.tick.nodes = b.tick.nodes := by
    apply List.ext_getElem?
    intro i
    show b.tick.tick.node? i = b.tick.node? i
    rw [node?_tick, hout, node?_tick, Option.map_map]
    cases hn : b.node? i with
    | none => rfl
    | some n =>
      have hsettle := settle_settle (d := n.device) fun p hp =>
        hread i p (Option.bind_eq_some_iff.2 ⟨n, hn, hp⟩)
      exact congrArg (fun d => some { n with device := d }) hsettle
  calc b.tick.tick = { b.tick with nodes := b.tick.tick.nodes } := rfl
    _ = b.tick := by rw [hnodes]

/-- `c` shows the settled signals of `b`, and a tick changes nothing about it. -/
structure Rests (b : Board) (h : b.Acyclic) (c : Board) : Prop where
  output : ∀ i, c.outputOf i = b.settled h i
  light : ∀ k l, b.light? k = some l →
    (c.light? k).map Light.lit = some (l.slot.elim false (b.settled h))
  fixed : c.tick = c

theorem rests_iterate {b c : Board} (h : b.Acyclic) (hb : b.Shaped) (hc : b.Alike c) {t : Nat}
    (ht : 1 + b.maxLag h ≤ t) : b.Rests h (tick^[t] c) := by
  have hlag (i : NodeId) : b.lag h i ≤ b.maxLag h := lag_le_maxLag h i
  obtain ⟨s, rfl⟩ : ∃ s, t = s + 1 := ⟨t - 1, by omega⟩
  have hout : (tick^[s + 1] c).outputOf = b.settled h :=
    funext fun i => outputOf_iterate h hb hc i (s + 1) (by have := hlag i; omega)
  have hnext : (tick^[s + 2] c).outputOf = b.settled h :=
    funext fun i => outputOf_iterate h hb hc i (s + 2) (by have := hlag i; omega)
  refine ⟨congrFun hout, fun k l hl => ?_, ?_⟩
  · exact light?_iterate h hb hc hl (Nat.succ_pos s) fun i _ => by have := hlag i; omega
  · rw [Function.iterate_succ_apply'] at hout ⊢
    rw [Function.iterate_succ_apply', Function.iterate_succ_apply'] at hnext
    apply tick_tick
    · rw [hout, hnext]
    · intro i q hq slot hslot
      cases hp : b.perceptron? i with
      | none =>
        rw [((hc.iterate hb s).other i hp).1] at hq
        cases hq
      | some p =>
        obtain ⟨values, firing, hp'⟩ := (hc.iterate hb s).unit i p hp
        obtain rfl : { p with values := values, firing := firing } = q :=
          Option.some.inj (hp'.symm.trans hq)
        have hread := reading_iterate h (hc.iterate hb) hp
          (fun j _ => outputOf_iterate h hb hc j) (t := s) (by have := hlag i; omega) hslot
        rw [Function.iterate_succ_apply'] at hread
        rw [hread, hout]

/-- On a reachable board whose perceptrons are wired without a cycle, and from whatever outputs,
each node shows its settled signal once more ticks have passed than its lag, and so does a light
that it feeds; after one tick more than the largest lag, which is at most as many ticks as there are
perceptrons, the board rests.  If perceptrons are fed by earlier ones only, it rests after one. -/
theorem settles_of_reachable {b : Board} (hb : b.Reachable) :
    (∀ h : b.Acyclic,
      (∀ out t i, b.lag h i < t →
        (tick^[t] (b.withOutputs out)).outputOf i = b.settled h i ∧
        ∀ k l, b.light? k = some l → l.slot = some i →
          ((tick^[t] (b.withOutputs out)).light? k).map Light.lit = some (b.settled h i)) ∧
      (∀ out t, 1 + b.maxLag h ≤ t → b.Rests h (tick^[t] (b.withOutputs out))) ∧
      (0 < b.perceptrons.length → 1 + b.maxLag h ≤ b.perceptrons.length)) ∧
    (b.FeedForward → ∃ h : b.Acyclic, ∀ out, b.Rests h (b.withOutputs out).tick) := by
  have hshaped := hb.shaped
  constructor
  · intro h
    refine ⟨fun out t i ht => ⟨?_, fun k l hl hslot => ?_⟩, fun out t ht => ?_, fun hpos => ?_⟩
    · exact outputOf_iterate h hshaped (alike_withOutputs b out) i t ht
    · have hlight := light?_iterate h hshaped (alike_withOutputs b out) hl (t := t) (by omega)
        fun j hj => by
          obtain rfl : i = j := Option.some.inj (hslot.symm.trans hj)
          exact ht
      rw [hlight, hslot]
      rfl
    · exact rests_iterate h hshaped (alike_withOutputs b out) ht
    · have hlt := maxLag_lt_perceptrons h hpos
      omega
  · intro hforward
    have hzero : b.maxLag hforward.acyclic ≤ 0 :=
      maxLag_le _ fun i => Nat.le_of_eq (hforward.lag_eq_zero hforward.acyclic i)
    exact ⟨hforward.acyclic, fun out =>
      rests_iterate (t := 1) hforward.acyclic hshaped (alike_withOutputs b out) (by omega)⟩

/-- A switch drives a perceptron that drives the perceptron created before it, and that a
light.  Two ticks settle it, and one does not. -/
def backwardChain : Board :=
  ((Workbench.ofBoard (.empty 0)).run
    [.addSwitch ⟨50, 50⟩, .addPerceptron ⟨200, 100⟩ 1 (some [1]) (some (-0.5)),
      .addPerceptron ⟨400, 200⟩ 1 (some [-1]) (some 0.5), .addLight ⟨600, 100⟩,
      .connect 0 ⟨2, 0⟩, .connect 2 ⟨1, 0⟩, .connect 1 ⟨3, 0⟩]).board

theorem backwardChain_acyclic : backwardChain.Acyclic := by
  have hsize : backwardChain.size = 4 := by decide +kernel
  have hlater : ∀ i < 4, (backwardChain.perceptron? i).all (fun p => p.slots.all fun slot =>
      slot.all fun j => !(backwardChain.perceptron? j).isSome || decide (i < j)) = true := by
    decide +kernel
  apply acyclic_of_lt fun i => 4 - i
  rintro j i ⟨hj, p, hp, hmem⟩
  have hj' : j < 4 := hsize ▸ lt_size_of_perceptron? hj
  have hi : i < 4 := hsize ▸ lt_size_of_perceptron? (by rw [hp]; rfl)
  have hp' := hlater i hi
  rw [hp] at hp'
  have hslot : (!(backwardChain.perceptron? j).isSome || decide (i < j)) = true :=
    List.all_eq_true.1 hp' (some j) hmem
  rw [hj] at hslot
  have hij : i < j := of_decide_eq_true hslot
  exact Nat.sub_lt_sub_left hi hij

theorem backwardChain_settles :
    backwardChain.Reachable ∧ backwardChain.tick.tick ≠ backwardChain.tick ∧
      ∃ h : backwardChain.Acyclic,
        ∀ out, backwardChain.Rests h (tick^[2] (backwardChain.withOutputs out)) := by
  have hreach : backwardChain.Reachable := Reachable.run (.empty 0) _
  have hcount : backwardChain.perceptrons.length = 2 := by decide +kernel
  obtain ⟨-, hrests, hbound⟩ := (settles_of_reachable hreach).1 backwardChain_acyclic
  rw [hcount] at hbound
  exact ⟨hreach, by decide +kernel, backwardChain_acyclic,
    fun out => hrests out 2 (hbound Nat.zero_lt_two)⟩

end Board

end SignalBoard
