import SignalBoard.Proofs.Layout
import SignalBoard.Proofs.Mirror

/-! # Gaining and losing inputs

A perceptron gains and loses inputs at its end only.  So what a run of such changes leaves of it
depends neither on the order of the changes nor on their sum but on the low-water mark, the smallest
number of inputs that it had on the way (`Board.lowWater`): the inputs below the mark are as they
were and the others are new (`Board.KeptBelow`).  Changes in a row have the smaller of their two
marks (`Board.KeptBelow.trans`), and the rest is what one change does. -/

namespace SignalBoard

set_option autoImplicit false

/-! ## One change -/

namespace Board

theorem incrementInputs_of_canGrow {b : Board} {id : NodeId} {p : Perceptron}
    (hp : b.perceptron? id = some p) (hgrow : p.canGrow = true) :
    b.incrementInputs id =
      ⟨{ b with sampler := b.sampler.advance 1 }.withDevice id (.perceptron (p.grow b.sampler.next)),
        .changed (p.inputCount + 1), [.inputsGrown id (p.inputCount + 1)]⟩ := by
  have hcount : (p.grow b.sampler.next).inputCount = p.inputCount + 1 := List.length_append
  unfold incrementInputs
  rw [hp]
  simp only [Perceptron.grow?, hgrow, if_true, hcount]

theorem perceptron?_incrementInputs {b : Board} {id : NodeId} {p : Perceptron}
    (hp : b.perceptron? id = some p) (hgrow : p.canGrow = true) :
    (b.incrementInputs id).state.perceptron? id = some (p.grow b.sampler.next) := by
  have hp' : ({ b with sampler := b.sampler.advance 1 } : Board).perceptron? id = some p := hp
  rw [incrementInputs_of_canGrow hp hgrow]
  exact (perceptron?_withDevice hp' _ id).trans (if_pos rfl)

theorem incrementInputs_of_not_canGrow {b : Board} {id : NodeId} {p : Perceptron}
    (hp : b.perceptron? id = some p) (hgrow : p.canGrow = false) :
    b.incrementInputs id = ⟨b, .atLimit, [.inputsAtMost id Perceptron.maxInputs]⟩ := by
  unfold incrementInputs
  rw [hp]
  simp only [Perceptron.grow?, hgrow]
  rfl

theorem incrementInputs_of_none {b : Board} {id : NodeId} (hp : b.perceptron? id = none) :
    b.incrementInputs id = .quiet b .notAPerceptron := by
  unfold incrementInputs
  rw [hp]

/-- An increment changes the board if it answers that it has, and otherwise does nothing. -/
theorem incrementInputs_cases (b : Board) (id : NodeId) :
    ((∀ count, (b.incrementInputs id).answer ≠ .changed count) ∧ (b.incrementInputs id).state = b) ∨
      ∃ p, b.perceptron? id = some p ∧ p.canGrow = true ∧
        (b.incrementInputs id).answer = .changed (p.inputCount + 1) := by
  cases hp : b.perceptron? id with
  | none =>
    rw [incrementInputs_of_none hp]
    exact .inl ⟨nofun, rfl⟩
  | some p =>
    cases hgrow : p.canGrow with
    | true => exact .inr ⟨p, rfl, hgrow, by rw [incrementInputs_of_canGrow hp hgrow]⟩
    | false =>
      rw [incrementInputs_of_not_canGrow hp hgrow]
      exact .inl ⟨nofun, rfl⟩

/-- The wires of a board where the last input of a perceptron has gone.  A wire of the input goes
with it, and if there was none then there is nothing in the table to go. -/
theorem Wired.erase_last {b : Board} (h : Wired b) {id : NodeId} {p : Perceptron}
    (hp : b.perceptron? id = some p) :
    (if p.lastSource.isSome then b.wires.erase ⟨id, p.inputCount - 1⟩ else b.wires) =
      b.wires.erase ⟨id, p.inputCount - 1⟩ := by
  by_cases hlast : p.lastSource.isSome = true
  · rw [if_pos hlast]
  · rw [if_neg hlast]
    have hnone : b.source? ⟨id, p.inputCount - 1⟩ = none := by
      rw [source?_last hp]
      simpa using hlast
    apply WireTable.ext
    refine (List.filter_eq_self.2 fun w hw => ?_).symm
    have hsocket : w.socket ≠ ⟨id, p.inputCount - 1⟩ := fun heq => by
      have hsource := h.source?_of_mem hw
      rw [heq, hnone] at hsource
      cases hsource
    exact decide_eq_true hsocket

theorem decrementInputs_of_canShrink {b : Board} (h : Wired b) {id : NodeId} {p : Perceptron}
    (hp : b.perceptron? id = some p) (hshrink : p.canShrink = true) :
    (b.decrementInputs id).state =
      { b.withDevice id (.perceptron p.shrink) with
        wires := b.wires.erase ⟨id, p.inputCount - 1⟩ } := by
  rw [← h.erase_last hp]
  unfold decrementInputs
  rw [hp]
  simp only [Perceptron.shrink?, hshrink, if_true]
  split
  · rfl
  · rfl

theorem perceptron?_decrementInputs {b : Board} (h : Wired b) {id : NodeId} {p : Perceptron}
    (hp : b.perceptron? id = some p) (hshrink : p.canShrink = true) :
    (b.decrementInputs id).state.perceptron? id = some p.shrink := by
  rw [decrementInputs_of_canShrink h hp hshrink]
  exact (perceptron?_withDevice hp _ id).trans (if_pos rfl)

theorem decrementInputs_of_not_canShrink {b : Board} {id : NodeId} {p : Perceptron}
    (hp : b.perceptron? id = some p) (hshrink : p.canShrink = false) :
    b.decrementInputs id = ⟨b, .atLimit, [.inputsAtLeast id Perceptron.minInputs]⟩ := by
  unfold decrementInputs
  rw [hp]
  simp only [Perceptron.shrink?, hshrink]
  rfl

/-! ## Changes in a row -/

/-- A change of the number of inputs. -/
inductive Change
  | grow
  | shrink
  deriving DecidableEq

def change (b : Board) (id : NodeId) : Change → Outcome Board Resized
  | .grow => b.incrementInputs id
  | .shrink => b.decrementInputs id

/-- The board after changes to the inputs of node `id`. -/
def changeAll (b : Board) (id : NodeId) (changes : List Change) : Board :=
  changes.foldl (fun b c => (b.change id c).state) b

def inputCountOf (b : Board) (id : NodeId) : Nat :=
  ((b.perceptron? id).map Perceptron.inputCount).getD 0

/-- The smallest number of inputs that node `id` has before, between or after changes. -/
def lowWater (b : Board) (id : NodeId) : List Change → Nat
  | [] => b.inputCountOf id
  | c :: rest => min (b.inputCountOf id) ((b.change id c).state.lowWater id rest)

end Board

/-! ## What is left below a mark -/

/-- The inputs of `p` and of `q` below `mark` are the same, and those of `q` from there on are new.
-/
structure Perceptron.KeptBelow (mark : Nat) (p q : Perceptron) : Prop where
  le_before : mark ≤ p.inputCount
  le_after : mark ≤ q.inputCount
  bias : q.bias = p.bias
  firing : q.firing = p.firing
  weights : ∀ i < mark, q.weights[i]? = p.weights[i]?
  slots : ∀ i < mark, q.slots[i]? = p.slots[i]?
  values : ∀ i < mark, q.values[i]? = p.values[i]?
  free : ∀ i, mark ≤ i → i < q.inputCount → q.slots[i]? = some none ∧ q.values[i]? = some false

namespace Perceptron

theorem keptBelow_self (p : Perceptron) : KeptBelow p.inputCount p p where
  le_before := Nat.le_refl _
  le_after := Nat.le_refl _
  bias := rfl
  firing := rfl
  weights _ _ := rfl
  slots _ _ := rfl
  values _ _ := rfl
  free _ hmark hlt := absurd hlt (Nat.not_lt_of_le hmark)

theorem KeptBelow.trans {m m' : Nat} {p q r : Perceptron} (h : KeptBelow m p q)
    (h' : KeptBelow m' q r) : KeptBelow (min m m') p r where
  le_before := Nat.le_trans (Nat.min_le_left _ _) h.le_before
  le_after := Nat.le_trans (Nat.min_le_right _ _) h'.le_after
  bias := h'.bias.trans h.bias
  firing := h'.firing.trans h.firing
  weights i hi := (h'.weights i (by omega)).trans (h.weights i (by omega))
  slots i hi := (h'.slots i (by omega)).trans (h.slots i (by omega))
  values i hi := (h'.values i (by omega)).trans (h.values i (by omega))
  free i hmark hlt := by
    by_cases hi : i < m'
    · -- below the second mark nothing has happened since `q`
      have hq := h'.le_after
      have hq' := h'.le_before
      rw [h'.slots i hi, h'.values i hi]
      exact h.free i (by omega) (by omega)
    · exact h'.free i (by omega) hlt

theorem Shaped.shrink_grow {p : Perceptron} (h : p.Shaped) (weight : Float32) :
    (p.grow weight).shrink = p := by
  have hvalues : (p.grow weight).inputCount - 1 = p.values.length := by
    have hcount : (p.grow weight).inputCount = p.slots.length + 1 := List.length_append
    have hshaped := h.values
    omega
  unfold Perceptron.shrink
  rw [hvalues]
  simp [Perceptron.grow]

theorem Shaped.keptBelow_grow {p : Perceptron} (h : p.Shaped) (weight : Float32) :
    KeptBelow p.inputCount p (p.grow weight) := by
  have hcount : (p.grow weight).inputCount = p.inputCount + 1 := List.length_append
  have hweights := h.weights
  have hvalues := h.values
  have hslots : p.inputCount = p.slots.length := rfl
  refine ⟨Nat.le_refl _, by omega, rfl, rfl, fun i hi => ?_, fun i hi => ?_, fun i hi => ?_, ?_⟩
  · exact List.getElem?_append_left (by omega)
  · exact List.getElem?_append_left hi
  · exact List.getElem?_append_left (by omega)
  · intro i hmark hlt
    obtain rfl : i = p.slots.length := by omega
    refine ⟨List.getElem?_concat_length, ?_⟩
    rw [← hvalues]
    exact List.getElem?_concat_length

theorem Shaped.keptBelow_shrink {p : Perceptron} (h : p.Shaped) :
    KeptBelow (p.inputCount - 1) p p.shrink := by
  have hcount : p.shrink.inputCount = p.inputCount - 1 := List.length_dropLast
  have hweights := h.weights
  have hslots : p.inputCount = p.slots.length := rfl
  refine ⟨Nat.sub_le _ _, by omega, rfl, rfl, fun i hi => ?_, fun i hi => ?_, fun i hi => ?_, ?_⟩
  · exact List.getElem?_dropLast.trans (if_pos (by omega))
  · exact List.getElem?_dropLast.trans (if_pos (by omega))
  · exact List.getElem?_take_of_lt hi
  · exact fun i hmark hlt => absurd hlt (by omega)

end Perceptron

namespace Board

/-- Board `c` is `b` but for the inputs of perceptron `id` from number `mark` on, which are new: the
old ones took their wires with them, and the pins have been laid out for those that there are. -/
structure KeptBelow (id : NodeId) (mark : Nat) (b c : Board) : Prop where
  unit : ∃ p q, b.perceptron? id = some p ∧ p.KeptBelow mark q ∧
    c.node? id = (b.node? id).map fun n => (n.mapDevice fun _ => .perceptron q).refresh
  others : ∀ j, j ≠ id → c.node? j = b.node? j
  wires : c.wires.toList =
    b.wires.toList.filter fun w => ¬ (w.socket.node = id ∧ mark ≤ w.socket.index)

theorem KeptBelow.trans {id : NodeId} {m m' : Nat} {b c d : Board} (h : KeptBelow id m b c)
    (h' : KeptBelow id m' c d) : KeptBelow id (min m m') b d := by
  obtain ⟨p, q, hp, hkept, hc⟩ := h.unit
  obtain ⟨q', r, hq', hkept', hd⟩ := h'.unit
  obtain ⟨n, hn, -⟩ := perceptron?_eq_some_iff.1 hp
  rw [hn] at hc
  obtain rfl : q = q' := by
    rw [perceptron?, hc] at hq'
    exact Option.some.inj hq'
  refine ⟨⟨p, r, hp, hkept.trans hkept', ?_⟩, fun j hj => (h'.others j hj).trans (h.others j hj), ?_⟩
  · rw [hd, hc, hn]
    rfl
  · rw [h'.wires, h.wires, List.filter_filter]
    refine List.filter_congr fun w _ => ?_
    rw [← Bool.decide_and, decide_eq_decide]
    by_cases hid : w.socket.node = id
    · simp only [hid, true_and]
      omega
    · simp [hid]

theorem Wired.index_lt {b : Board} (h : Wired b) {id : NodeId} {p : Perceptron}
    (hp : b.perceptron? id = some p) {w : Wire} (hw : w ∈ b.wires.toList)
    (hid : w.socket.node = id) : w.socket.index < p.inputCount := by
  have hsource := h.source?_of_mem hw
  rw [source?_eq, hid, sourcesOf_of_perceptron? hp] at hsource
  refine Nat.lt_of_not_le fun hle => ?_
  rw [List.getElem?_eq_none hle] at hsource
  cases hsource

/-- Laying out the pins of a perceptron that is what it was changes nothing. -/
theorem Placed.refresh_eq {b : Board} (h : Placed b) {id : NodeId} {p : Perceptron}
    (hp : b.perceptron? id = some p) :
    (b.node? id).map (fun n => (n.mapDevice fun _ => .perceptron p).refresh) = b.node? id := by
  obtain ⟨n, hn, hd⟩ := perceptron?_eq_some_iff.1 hp
  rw [hn, Option.map_some]
  refine congrArg some ?_
  have hpins := (h id n hn).pins
  unfold Node.refresh Node.mapDevice
  rw [← hd]
  exact congrArg (fun pins => { n with pins := pins }) hpins.symm

theorem Reachable.keptBelow_self {b : Board} (h : b.Reachable) {id : NodeId} {p : Perceptron}
    (hp : b.perceptron? id = some p) : KeptBelow id p.inputCount b b where
  unit := ⟨p, p, hp, p.keptBelow_self, (h.placed.refresh_eq hp).symm⟩
  others _ _ := rfl
  wires := by
    refine (List.filter_eq_self.2 fun w hw => decide_eq_true ?_).symm
    exact fun hmark => absurd (h.wired.index_lt hp hw hmark.1) (Nat.not_lt_of_le hmark.2)

theorem inputCountOf_eq {b : Board} {id : NodeId} {p : Perceptron}
    (hp : b.perceptron? id = some p) : b.inputCountOf id = p.inputCount := by
  rw [inputCountOf, hp]
  rfl

theorem Reachable.keptBelow_grow {b : Board} (h : b.Reachable) {id : NodeId} {p : Perceptron}
    (hp : b.perceptron? id = some p) (sampler : Sampler) (weight : Float32) :
    KeptBelow id p.inputCount b
      ({ b with sampler := sampler }.withDevice id (.perceptron (p.grow weight))) where
  unit := ⟨p, p.grow weight, hp, (h.shaped id p hp).keptBelow_grow weight,
    (node?_modifyNode _ _ _ _).trans (if_pos rfl)⟩
  others _ hj := (node?_modifyNode _ _ _ _).trans (if_neg hj)
  wires := (h.keptBelow_self hp).wires

theorem Reachable.keptBelow_shrink {b : Board} (h : b.Reachable) {id : NodeId} {p : Perceptron}
    (hp : b.perceptron? id = some p) :
    KeptBelow id (p.inputCount - 1) b { b.withDevice id (.perceptron p.shrink) with
      wires := b.wires.erase ⟨id, p.inputCount - 1⟩ } where
  unit := ⟨p, p.shrink, hp, (h.shaped id p hp).keptBelow_shrink,
    (node?_modifyNode _ _ _ _).trans (if_pos rfl)⟩
  others _ hj := (node?_modifyNode _ _ _ _).trans (if_neg hj)
  wires := by
    refine List.filter_congr fun w hw => decide_eq_decide.2 (not_congr ?_)
    constructor
    · intro heq
      rw [heq]
      exact ⟨rfl, Nat.le_refl _⟩
    · rintro ⟨hid, hmark⟩
      -- no wire ends behind the last input
      have hlt := h.wired.index_lt hp hw hid
      have hindex : w.socket.index = p.inputCount - 1 := by omega
      exact congr (congrArg Socket.mk hid) hindex

/-! ## Runs -/

theorem Reachable.change {b : Board} (h : b.Reachable) (id : NodeId) (c : Change) :
    (b.change id c).state.Reachable := by
  cases c with
  | grow => exact h.obey .idle ⟨0, 0⟩ (.incrementInputs id)
  | shrink => exact h.obey .idle ⟨0, 0⟩ (.decrementInputs id)

/-- A change leaves alone what lies below the smaller of the numbers of inputs before and after. -/
theorem Reachable.keptBelow_change {b : Board} (h : b.Reachable) {id : NodeId} {p : Perceptron}
    (hp : b.perceptron? id = some p) (c : Change) :
    KeptBelow id (min (b.inputCountOf id) ((b.change id c).state.inputCountOf id)) b
      (b.change id c).state := by
  have hcount := inputCountOf_eq hp
  cases c with
  | grow =>
    cases hgrow : p.canGrow with
    | true =>
      have hafter : (b.change id .grow).state.inputCountOf id = p.inputCount + 1 :=
        (inputCountOf_eq (perceptron?_incrementInputs hp hgrow)).trans List.length_append
      have hstate : (b.change id .grow).state = _ :=
        congrArg Outcome.state (incrementInputs_of_canGrow hp hgrow)
      rw [hafter, hcount, Nat.min_eq_left (Nat.le_succ _), hstate]
      exact h.keptBelow_grow hp _ _
    | false =>
      have hsame : (b.change id .grow).state = b :=
        congrArg Outcome.state (incrementInputs_of_not_canGrow hp hgrow)
      rw [hsame, Nat.min_self, hcount]
      exact h.keptBelow_self hp
  | shrink =>
    cases hshrink : p.canShrink with
    | true =>
      have hafter : (b.change id .shrink).state.inputCountOf id = p.inputCount - 1 :=
        (inputCountOf_eq (perceptron?_decrementInputs h.wired hp hshrink)).trans List.length_dropLast
      have hstate : (b.change id .shrink).state = _ := decrementInputs_of_canShrink h.wired hp hshrink
      rw [hafter, hcount, Nat.min_eq_right (Nat.sub_le _ _), hstate]
      exact h.keptBelow_shrink hp
    | false =>
      have hsame : (b.change id .shrink).state = b :=
        congrArg Outcome.state (decrementInputs_of_not_canShrink hp hshrink)
      rw [hsame, Nat.min_self, hcount]
      exact h.keptBelow_self hp

theorem lowWater_le (b : Board) (id : NodeId) (changes : List Change) :
    b.lowWater id changes ≤ b.inputCountOf id := by
  cases changes with
  | nil => exact Nat.le_refl _
  | cons c rest => exact Nat.min_le_left _ _

theorem KeptBelow.perceptron? {id : NodeId} {m : Nat} {b c : Board} (h : KeptBelow id m b c) :
    ∃ q, c.perceptron? id = some q := by
  obtain ⟨p, q, hp, -, hc⟩ := h.unit
  obtain ⟨n, hn, -⟩ := perceptron?_eq_some_iff.1 hp
  refine ⟨q, ?_⟩
  rw [Board.perceptron?, hc, hn]
  rfl

/-- Changes leave alone what lies below the low-water mark. -/
theorem Reachable.keptBelow_changeAll {b : Board} (h : b.Reachable) {id : NodeId} {p : Perceptron}
    (hp : b.perceptron? id = some p) (changes : List Change) :
    KeptBelow id (b.lowWater id changes) b (b.changeAll id changes) := by
  induction changes generalizing b p with
  | nil =>
    rw [lowWater, inputCountOf_eq hp]
    exact h.keptBelow_self hp
  | cons c rest ih =>
    have hstep := h.keptBelow_change hp c
    obtain ⟨q, hq⟩ := hstep.perceptron?
    have hrun := hstep.trans (ih (h.change id c) hq)
    have hle := (b.change id c).state.lowWater_le id rest
    rw [Nat.min_assoc, Nat.min_eq_right hle] at hrun
    exact hrun

/-! ## Changes that cancel out -/

/-- A board that has kept all inputs of a perceptron, and the perceptron itself, differs in nothing
but its sampler. -/
theorem Reachable.eq_of_keptBelow {b c : Board} (h : b.Reachable) {id : NodeId} {p : Perceptron}
    (hp : b.perceptron? id = some p) (hkept : KeptBelow id p.inputCount b c)
    (hc : c.perceptron? id = some p) : c = { b with sampler := c.sampler } := by
  refine ext_node? (fun j => ?_) (WireTable.ext ?_) rfl
  · by_cases hj : j = id
    · subst hj
      obtain ⟨p', q, -, -, hnode⟩ := hkept.unit
      obtain ⟨n, hn, -⟩ := perceptron?_eq_some_iff.1 hp
      rw [perceptron?, hnode, hn] at hc
      obtain rfl : q = p := Option.some.inj hc
      exact hnode.trans (h.placed.refresh_eq hp)
    · exact hkept.others j hj
  · exact hkept.wires.trans (h.keptBelow_self hp).wires.symm

/-- An input that is taken away again leaves nothing behind but the step of the sampler. -/
theorem Reachable.shrink_grow {b : Board} (h : b.Reachable) {id : NodeId} {p : Perceptron}
    (hp : b.perceptron? id = some p) (hlt : p.inputCount < Perceptron.maxInputs) :
    b.changeAll id [.grow, .shrink] = { b with sampler := b.sampler.advance 1 } := by
  have hgrow : p.canGrow = true := decide_eq_true hlt
  have hgrown := perceptron?_incrementInputs hp hgrow
  have hcount : (p.grow b.sampler.next).inputCount = p.inputCount + 1 := List.length_append
  have hatLeast : Perceptron.minInputs ≤ p.inputCount := (h.shaped id p hp).atLeast
  have hshrink : (p.grow b.sampler.next).canShrink = true := decide_eq_true (by omega)
  have hwired := (h.change id .grow).wired
  have hback := perceptron?_decrementInputs hwired hgrown hshrink
  rw [(h.shaped id p hp).shrink_grow] at hback
  have hmark : b.lowWater id [.grow, .shrink] = p.inputCount := by
    have h1 : (b.change id .grow).state.inputCountOf id = p.inputCount + 1 :=
      (inputCountOf_eq hgrown).trans hcount
    have h2 : ((b.change id .grow).state.change id .shrink).state.inputCountOf id = p.inputCount :=
      inputCountOf_eq hback
    rw [lowWater, lowWater, lowWater, h1, h2, inputCountOf_eq hp]
    omega
  have hkept := h.keptBelow_changeAll hp [.grow, .shrink]
  rw [hmark] at hkept
  have hsampler : (b.changeAll id [.grow, .shrink]).sampler = b.sampler.advance 1 := by
    have hlost := congrArg sampler (decrementInputs_of_canShrink hwired hgrown hshrink)
    have hdrawn := congrArg (fun o => o.state.sampler) (incrementInputs_of_canGrow hp hgrow)
    exact hlost.trans hdrawn
  rw [h.eq_of_keptBelow hp hkept hback, hsampler]

/-- An input that comes in the place of one that went has no wire. -/
theorem Reachable.slot?_grow_shrink {b : Board} (h : b.Reachable) {id : NodeId} {p : Perceptron}
    (hp : b.perceptron? id = some p) (hlt : Perceptron.minInputs < p.inputCount) :
    (b.changeAll id [.shrink, .grow]).slot? ⟨id, p.inputCount - 1⟩ = some none ∧
      (b.changeAll id [.shrink, .grow]).wires.get? ⟨id, p.inputCount - 1⟩ = none := by
  have hshrink : p.canShrink = true := decide_eq_true hlt
  have hshrunk := perceptron?_decrementInputs h.wired hp hshrink
  have hcount : p.shrink.slots.length = p.inputCount - 1 := List.length_dropLast
  have hgrow : p.shrink.canGrow = true := by
    have hmax : p.inputCount ≤ Perceptron.maxInputs := (h.shaped id p hp).atMost
    refine decide_eq_true ?_
    show p.shrink.slots.length < _
    omega
  have hgrown := perceptron?_incrementInputs hshrunk hgrow
  have hslot : (b.changeAll id [.shrink, .grow]).slot? ⟨id, p.inputCount - 1⟩ = some none := by
    have hsources : (b.changeAll id [.shrink, .grow]).sourcesOf id = p.shrink.slots ++ [none] :=
      sourcesOf_of_perceptron? hgrown
    rw [slot?_eq, hsources, ← hcount]
    exact List.getElem?_concat_length
  have hwired : (b.changeAll id [.shrink, .grow]).Wired :=
    ((h.change id .shrink).change id .grow).wired
  refine ⟨hslot, ?_⟩
  have hlookup := hwired.lookup ⟨id, p.inputCount - 1⟩
  rw [source?, hslot] at hlookup
  exact Option.map_eq_none_iff.1 hlookup

theorem state_change_of_atLimit {b : Board} {id : NodeId} {c : Change}
    (h : (b.change id c).answer = .atLimit) : (b.change id c).state = b := by
  cases c with
  | grow =>
    rcases b.incrementInputs_cases id with ⟨-, hsame⟩ | ⟨p, -, -, hanswer⟩
    · exact hsame
    · rw [change, hanswer] at h
      cases h
  | shrink =>
    unfold change decrementInputs at h ⊢
    cases hp : b.perceptron? id with
    | none => rfl
    | some p =>
      rw [hp] at h
      cases hshrink : p.shrink? with
      | none => simp only [hshrink]
      | some shrunk => simp only [hshrink] at h; cases h

/-- After changes to the inputs of a perceptron the board is what it was but for the inputs from the
low-water mark on.  A gain that is undone leaves no trace but in the sampler, a loss that is made
good does not bring a wire back, and at a limit nothing changes. -/
theorem changes_keep_below_lowWater {b : Board} (h : b.Reachable) {id : NodeId} {p : Perceptron}
    (hp : b.perceptron? id = some p) :
    (∀ changes, KeptBelow id (b.lowWater id changes) b (b.changeAll id changes)) ∧
      (p.inputCount < Perceptron.maxInputs →
        b.changeAll id [.grow, .shrink] = { b with sampler := b.sampler.advance 1 }) ∧
      (Perceptron.minInputs < p.inputCount →
        (b.changeAll id [.shrink, .grow]).slot? ⟨id, p.inputCount - 1⟩ = some none ∧
          (b.changeAll id [.shrink, .grow]).wires.get? ⟨id, p.inputCount - 1⟩ = none) ∧
      ∀ c, (b.change id c).answer = .atLimit → (b.change id c).state = b :=
  ⟨h.keptBelow_changeAll hp, h.shrink_grow hp, h.slot?_grow_shrink hp,
    fun _ => state_change_of_atLimit⟩

/-- A perceptron with four inputs, all but the second of them wired, after a tick. -/
def wiredUnit : Board :=
  ((Workbench.ofBoard (.empty 0)).run
    [.addSwitch ⟨50, 50⟩, .addPerceptron ⟨200, 100⟩ 4 (some [1, -1, 0.5, 2]) (some 0.25),
      .addLight ⟨600, 100⟩, .connect 0 ⟨1, 3⟩, .connect 1 ⟨2, 0⟩, .connect 0 ⟨1, 0⟩,
      .connect 1 ⟨1, 2⟩, .tick]).board

/-- Six changes that bring the number of inputs up to five, down to two and back to four. -/
def dip : List Change := [.grow, .shrink, .shrink, .shrink, .grow, .grow]

theorem wiredUnit_dip :
    wiredUnit.Reachable ∧ (wiredUnit.perceptron? 1).isSome = true ∧ wiredUnit.lowWater 1 dip = 2 ∧
      wiredUnit.wires.toList = [⟨0, ⟨1, 3⟩⟩, ⟨1, ⟨2, 0⟩⟩, ⟨0, ⟨1, 0⟩⟩, ⟨1, ⟨1, 2⟩⟩] ∧
      KeptBelow 1 2 wiredUnit (wiredUnit.changeAll 1 dip) ∧
      (wiredUnit.changeAll 1 dip).inputCountOf 1 = 4 ∧
      (wiredUnit.changeAll 1 dip).wires.toList = [⟨1, ⟨2, 0⟩⟩, ⟨0, ⟨1, 0⟩⟩] := by
  have h : wiredUnit.Reachable := Reachable.run (.empty 0) _
  have hsome : (wiredUnit.perceptron? 1).isSome = true := by decide +kernel
  have hmark : wiredUnit.lowWater 1 dip = 2 := by decide +kernel
  obtain ⟨p, hp⟩ := Option.isSome_iff_exists.1 hsome
  have hkept := (changes_keep_below_lowWater h hp).1 dip
  rw [hmark] at hkept
  exact ⟨h, hsome, hmark, by decide +kernel, hkept, by decide +kernel, by decide +kernel⟩

end Board

end SignalBoard
