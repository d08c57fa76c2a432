import Mathlib.Data.Finset.Card
import Mathlib.Data.Finset.Range
import Mathlib.Data.List.MinMax
import Mathlib.Logic.Relation
import Mathlib.Order.Nat
import SignalBoard.Proofs.TickEquations

/-! # Wiring without cycles

`Board.Feeds` is the wiring among the perceptrons.  If it has no cycle, then two quantities are
defined by recursion along it: the signal that a node settles on (`Board.settled`) and the number of
ticks that it takes beyond the first (`Board.lag`).  A wire costs a tick if it comes from a
perceptron created later, and nothing otherwise.

Both recursions descend in the number of perceptrons that lead to a node (`Board.rank`).  It also
bounds the lag, and so the lag is smaller than the number of perceptrons. -/

namespace SignalBoard

set_option autoImplicit false

namespace Board

/-! ## The wiring among perceptrons -/

/-- Perceptron `j` is wired to an input of perceptron `i`. -/
def Feeds (b : Board) (j i : NodeId) : Prop :=
  (b.perceptron? j).isSome = true ∧ ∃ p, b.perceptron? i = some p ∧ some j ∈ p.slots

def Acyclic (b : Board) : Prop := ∀ i, ¬ Relation.TransGen b.Feeds i i

def FeedForward (b : Board) : Prop := ∀ j i, b.Feeds j i → j < i

/-- A number that grows along every wire rules cycles out. -/
theorem acyclic_of_lt {b : Board} (f : NodeId → Nat) (h : ∀ j i, b.Feeds j i → f j < f i) :
    b.Acyclic := by
  have hlt : ∀ j i, Relation.TransGen b.Feeds j i → f j < f i := by
    intro j i hji
    induction hji with
    | single hfeeds => exact h _ _ hfeeds
    | tail _ hfeeds ih => exact Nat.lt_trans ih (h _ _ hfeeds)
  exact fun i hi => Nat.lt_irrefl (f i) (hlt i i hi)

theorem FeedForward.acyclic {b : Board} (h : b.FeedForward) : b.Acyclic := acyclic_of_lt id h

theorem isSome_of_leads {b : Board} {j i : NodeId} (h : Relation.TransGen b.Feeds j i) :
    (b.perceptron? j).isSome = true := by
  obtain ⟨k, hjk, -⟩ := Relation.TransGen.head'_iff.1 h
  exact hjk.1

/-! ## The perceptrons that lead to a node -/

open Classical in
noncomputable def ancestors (b : Board) (i : NodeId) : Finset NodeId :=
  (Finset.range b.size).filter fun j => Relation.TransGen b.Feeds j i

theorem mem_ancestors {b : Board} {j i : NodeId} :
    j ∈ b.ancestors i ↔ Relation.TransGen b.Feeds j i := by
  classical
  unfold ancestors
  rw [Finset.mem_filter, Finset.mem_range]
  exact ⟨fun h => h.2, fun h => ⟨lt_size_of_perceptron? (isSome_of_leads h), h⟩⟩

/-- The number of perceptrons that lead to node `i`. -/
noncomputable def rank (b : Board) (i : NodeId) : Nat := (b.ancestors i).card

theorem Acyclic.rank_lt {b : Board} (h : b.Acyclic) {j i : NodeId} (hji : b.Feeds j i) :
    b.rank j < b.rank i := by
  apply Finset.card_lt_card
  rw [Finset.ssubset_iff_of_subset]
  · exact ⟨j, mem_ancestors.2 (.single hji), fun hj => h j (mem_ancestors.1 hj)⟩
  · intro k hk
    exact mem_ancestors.2 ((mem_ancestors.1 hk).tail hji)

/-- The rank counted so that every perceptron lies above every other node. -/
noncomputable def height (b : Board) (i : NodeId) : Nat :=
  if (b.perceptron? i).isSome then b.rank i + 1 else 0

theorem Acyclic.height_lt {b : Board} (h : b.Acyclic) {i j : NodeId} {p : Perceptron}
    (hp : b.perceptron? i = some p) (hj : some j ∈ p.slots) : b.height j < b.height i := by
  have hi : b.height i = b.rank i + 1 := by rw [height, hp]; rfl
  rw [hi, height]
  by_cases hq : (b.perceptron? j).isSome = true
  · rw [if_pos hq]
    have hlt := h.rank_lt ⟨hq, p, hp, hj⟩
    omega
  · rw [if_neg hq]
    omega

/-! ## Recursion along the wiring -/

/-- The signal that node `i` settles on: a perceptron's follows from those of its sources, a free
input reads false, and any other node keeps the signal it has. -/
noncomputable def settled (b : Board) (h : b.Acyclic) (i : NodeId) : Bool :=
  match hp : b.perceptron? i with
  | none => b.outputOf i
  | some p => Perceptron.fires (p.weightedSum (p.slots.attach.map fun slot =>
      match hslot : slot.1 with
      | none => false
      | some j =>
        have : b.height j < b.height i := h.height_lt hp (hslot ▸ slot.2)
        b.settled h j))
termination_by b.height i

/-- What source `j` with the given lag adds to perceptron `i`: a perceptron created earlier passes
its lag on, a perceptron created later costs one more tick, and no other node lags. -/
def hop (b : Board) (i j : NodeId) (lag : Nat) : Nat :=
  if (b.perceptron? j).isSome then (if j < i then lag else lag + 1) else 0

/-- The number of ticks beyond the first that perceptron `i` takes to settle. -/
noncomputable def lag (b : Board) (h : b.Acyclic) (i : NodeId) : Nat :=
  match hp : b.perceptron? i with
  | none => 0
  | some p => (p.slots.attach.map fun slot =>
      match hslot : slot.1 with
      | none => 0
      | some j =>
        have : b.height j < b.height i := h.height_lt hp (hslot ▸ slot.2)
        b.hop i j (b.lag h j)).foldr max 0
termination_by b.height i

noncomputable def maxLag (b : Board) (h : b.Acyclic) : Nat :=
  ((List.range b.size).map (b.lag h)).foldr max 0

/-! ## The equations of the recursion -/

theorem map_attach_eq {α β : Type} (l : List α) {g : { x // x ∈ l } → β} {f : α → β}
    (hg : ∀ x, g x = f x.1) : l.attach.map g = l.map f := by
  conv_rhs => rw [← List.attach_map_subtype_val l, List.map_map]
  apply List.map_congr_left
  intro x _
  exact hg x

theorem settled_of_other {b : Board} (h : b.Acyclic) {i : NodeId} (hp : b.perceptron? i = none) :
    b.settled h i = b.outputOf i := by
  rw [settled]
  split
  · rfl
  · rename_i p hp'
    rw [hp] at hp'
    cases hp'

theorem settled_of_perceptron {b : Board} (h : b.Acyclic) {i : NodeId} {p : Perceptron}
    (hp : b.perceptron? i = some p) :
    b.settled h i =
      Perceptron.fires (p.weightedSum (p.slots.map fun slot => slot.elim false (b.settled h))) := by
  rw [settled]
  split
  · rename_i hp'
    rw [hp] at hp'
    cases hp'
  · rename_i p' hp'
    obtain rfl : p = p' := Option.some.inj (hp.symm.trans hp')
    congr 2
    apply map_attach_eq
    intro slot
    split
    · rename_i hslot
      rw [hslot]
      rfl
    · rename_i j hslot
      show b.settled h j = _
      rw [hslot]
      rfl

theorem lag_of_other {b : Board} (h : b.Acyclic) {i : NodeId} (hp : b.perceptron? i = none) :
    b.lag h i = 0 := by
  rw [lag]
  split
  · rfl
  · rename_i p hp'
    rw [hp] at hp'
    cases hp'

theorem lag_of_perceptron {b : Board} (h : b.Acyclic) {i : NodeId} {p : Perceptron}
    (hp : b.perceptron? i = some p) :
    b.lag h i =
      (p.slots.map fun slot => slot.elim 0 fun j => b.hop i j (b.lag h j)).foldr max 0 := by
  rw [lag]
  split
  · rename_i hp'
    rw [hp] at hp'
    cases hp'
  · rename_i p' hp'
    obtain rfl : p = p' := Option.some.inj (hp.symm.trans hp')
    congr 1
    apply map_attach_eq
    intro slot
    split
    · rename_i hslot
      rw [hslot]
      rfl
    · rename_i j hslot
      show b.hop i j (b.lag h j) = _
      rw [hslot]
      rfl

/-! ## Bounds on the lag -/

theorem hop_le_lag {b : Board} (h : b.Acyclic) {i j : NodeId} {p : Perceptron}
    (hp : b.perceptron? i = some p) (hj : some j ∈ p.slots) :
    b.hop i j (b.lag h j) ≤ b.lag h i := by
  rw [lag_of_perceptron h hp]
  have hmem : b.hop i j (b.lag h j) ∈
      p.slots.map fun slot => slot.elim 0 fun j => b.hop i j (b.lag h j) :=
    List.mem_map.2 ⟨some j, hj, rfl⟩
  exact List.le_max_of_le' 0 hmem (Nat.le_refl _)

theorem lag_le {b : Board} (h : b.Acyclic) {i : NodeId} {p : Perceptron}
    (hp : b.perceptron? i = some p) {n : Nat}
    (hn : ∀ j, some j ∈ p.slots → b.hop i j (b.lag h j) ≤ n) : b.lag h i ≤ n := by
  rw [lag_of_perceptron h hp]
  apply List.max_le_of_forall_le
  intro x hx
  obtain ⟨slot, hslot, rfl⟩ := List.mem_map.1 hx
  cases slot with
  | none => exact Nat.zero_le n
  | some j => exact hn j hslot

theorem lag_le_rank {b : Board} (h : b.Acyclic) (i : NodeId) : b.lag h i ≤ b.rank i := by
  induction hr : b.rank i using Nat.strongRecOn generalizing i with
  | ind r ih =>
    cases hp : b.perceptron? i with
    | none =>
      rw [lag_of_other h hp]
      exact Nat.zero_le r
    | some p =>
      apply lag_le h hp
      intro j hj
      unfold hop
      by_cases hq : (b.perceptron? j).isSome = true
      · have hlt : b.rank j < r := hr ▸ h.rank_lt ⟨hq, p, hp, hj⟩
        have hle := ih (b.rank j) hlt j rfl
        rw [if_pos hq]
        split
        · omega
        · omega
      · rw [if_neg hq]
        exact Nat.zero_le r

theorem lag_le_maxLag {b : Board} (h : b.Acyclic) (i : NodeId) : b.lag h i ≤ b.maxLag h := by
  cases hp : b.perceptron? i with
  | none =>
    rw [lag_of_other h hp]
    exact Nat.zero_le _
  | some p =>
    have hi : i < b.size := lt_size_of_perceptron? (by rw [hp]; rfl)
    have hmem : b.lag h i ∈ (List.range b.size).map (b.lag h) :=
      List.mem_map.2 ⟨i, List.mem_range.2 hi, rfl⟩
    exact List.le_max_of_le' 0 hmem (Nat.le_refl _)

theorem maxLag_le {b : Board} (h : b.Acyclic) {n : Nat} (hn : ∀ i, b.lag h i ≤ n) :
    b.maxLag h ≤ n := by
  apply List.max_le_of_forall_le
  intro x hx
  obtain ⟨i, -, rfl⟩ := List.mem_map.1 hx
  exact hn i

def perceptronIds (b : Board) : Finset NodeId :=
  (Finset.range b.size).filter fun i => (b.perceptron? i).isSome

theorem mem_perceptronIds {b : Board} {i : NodeId} :
    i ∈ b.perceptronIds ↔ (b.perceptron? i).isSome = true := by
  unfold perceptronIds
  rw [Finset.mem_filter, Finset.mem_range]
  exact ⟨fun h => h.2, fun h => ⟨lt_size_of_perceptron? h, h⟩⟩

theorem card_perceptronIds (b : Board) : b.perceptronIds.card = b.perceptrons.length := by
  have hlist : (List.range b.size).filterMap b.perceptron? = b.perceptrons := by
    have hcomp : b.perceptron? = (fun o => o.bind fun n => n.device.perceptron?) ∘ b.node? := rfl
    rw [hcomp, ← List.filterMap_map, map_node?_range, List.filterMap_map]
    rfl
  rw [← hlist, List.length_filterMap_eq_countP, List.countP_eq_length_filter]
  show ((List.range b.size).filter fun i => decide ((b.perceptron? i).isSome = true)).length = _
  simp only [Bool.decide_eq_true]

theorem rank_lt_perceptrons {b : Board} (h : b.Acyclic) {i : NodeId}
    (hi : (b.perceptron? i).isSome = true) : b.rank i < b.perceptrons.length := by
  rw [← card_perceptronIds]
  apply Finset.card_lt_card
  rw [Finset.ssubset_iff_of_subset]
  · exact ⟨i, mem_perceptronIds.2 hi, fun hmem => h i (mem_ancestors.1 hmem)⟩
  · intro j hj
    exact mem_perceptronIds.2 (isSome_of_leads (mem_ancestors.1 hj))

theorem maxLag_lt_perceptrons {b : Board} (h : b.Acyclic) (hpos : 0 < b.perceptrons.length) :
    b.maxLag h < b.perceptrons.length := by
  have hle : b.maxLag h ≤ b.perceptrons.length - 1 := by
    apply maxLag_le h
    intro i
    cases hp : b.perceptron? i with
    | none =>
      rw [lag_of_other h hp]
      exact Nat.zero_le _
    | some p =>
      have hlag := lag_le_rank h i
      have hrank := rank_lt_perceptrons h (by rw [hp]; rfl : (b.perceptron? i).isSome = true)
      omega
  omega

theorem FeedForward.lag_eq_zero {b : Board} (hf : b.FeedForward) (h : b.Acyclic) (i : NodeId) :
    b.lag h i = 0 := by
  induction i using Nat.strongRecOn with
  | ind i ih =>
    cases hp : b.perceptron? i with
    | none => exact lag_of_other h hp
    | some p =>
      apply Nat.eq_zero_of_le_zero
      apply lag_le h hp
      intro j hj
      unfold hop
      by_cases hq : (b.perceptron? j).isSome = true
      · have hlt : j < i := hf j i ⟨hq, p, hp, hj⟩
        rw [if_pos hq, if_pos hlt, ih j hlt]
      · rw [if_neg hq]

end Board

end SignalBoard
