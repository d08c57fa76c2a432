import Mathlib.Data.Fintype.BigOperators
import Mathlib.Data.Fintype.Pigeonhole
import SignalBoard.Proofs.Acyclic
import SignalBoard.Proofs.Influence

/-! # Boards that repeat

Ticks alone never change the design of a board, nor the signal of a node that is not a perceptron.
So all that distinguishes one tick from another is which perceptrons fire (`Board.firingAt`), and
there are only so many sets of perceptrons: some two of the first ticks find the same one, and from
the tick after that on the board repeats itself. -/

namespace SignalBoard

set_option autoImplicit false

namespace Board

theorem perceptron?_iterate_eq_none {b : Board} {j : NodeId} (h : b.perceptron? j = none)
    (t : Nat) : (tick^[t] b).perceptron? j = none := by
  induction t with
  | zero => exact h
  | succ t ih =>
    rw [Function.iterate_succ_apply', perceptron?_tick, ih]
    rfl

theorem outputOf_iterate_of_other {b : Board} {j : NodeId} (h : b.perceptron? j = none) (t : Nat) :
    (tick^[t] b).outputOf j = b.outputOf j := by
  induction t with
  | zero => rfl
  | succ t ih =>
    rw [Function.iterate_succ_apply', outputOf_tick_of_other (perceptron?_iterate_eq_none h t), ih]

/-- The signals of the perceptrons after `t` ticks. -/
def firingAt (b : Board) (t : Nat) (i : b.perceptronIds) : Bool := (tick^[t] b).outputOf i

theorem outputOf_eq_of_firingAt {b : Board} {s t : Nat} (h : b.firingAt s = b.firingAt t) :
    (tick^[s] b).outputOf = (tick^[t] b).outputOf := by
  funext j
  cases hp : b.perceptron? j with
  | none => rw [outputOf_iterate_of_other hp, outputOf_iterate_of_other hp]
  | some p =>
    have hj : j ∈ b.perceptronIds := mem_perceptronIds.2 (by rw [hp]; rfl)
    exact congrFun h ⟨j, hj⟩

/-- The tick after `s` ticks is determined by the perceptrons that fire then. -/
theorem iterate_succ_eq_of_firingAt {b : Board} {s t : Nat} (h : b.firingAt s = b.firingAt t) :
    tick^[s + 1] b = tick^[t + 1] b := by
  rw [Function.iterate_succ_apply', Function.iterate_succ_apply']
  exact tick_congr (by rw [design_iterate, design_iterate]) (outputOf_eq_of_firingAt h)

/-- What happens once after two ticks happens for ever after them. -/
theorem iterate_add_eq {b : Board} {s t : Nat} (h : tick^[s + 1] b = tick^[t + 1] b) (k : Nat) :
    tick^[s + (k + 1)] b = tick^[t + (k + 1)] b := by
  have hsplit (n : Nat) : tick^[n + (k + 1)] b = tick^[k] (tick^[n + 1] b) := by
    rw [← Function.iterate_add_apply]
    congr 1
    omega
  rw [hsplit, hsplit, h]

/-- Among one more ticks than there are sets of perceptrons, two find the same ones firing. -/
theorem exists_firingAt_eq (b : Board) :
    ∃ s t, s < t ∧ t ≤ 2 ^ b.perceptrons.length ∧ b.firingAt s = b.firingAt t := by
  have hcard : Fintype.card (b.perceptronIds → Bool) = 2 ^ b.perceptrons.length := by
    rw [Fintype.card_fun, Fintype.card_bool, Fintype.card_coe, card_perceptronIds]
  have hlt : Fintype.card (b.perceptronIds → Bool) <
      Fintype.card (Fin (2 ^ b.perceptrons.length + 1)) := by
    rw [hcard, Fintype.card_fin]
    exact Nat.lt_succ_self _
  obtain ⟨s, t, hne, heq⟩ :=
    Fintype.exists_ne_map_eq_of_card_lt (fun k : Fin _ => b.firingAt k) hlt
  have hs := s.isLt
  have ht := t.isLt
  rcases Nat.lt_or_gt_of_ne (Fin.val_ne_of_ne hne) with h | h
  · exact ⟨s, t, h, Nat.le_of_lt_succ ht, heq⟩
  · exact ⟨t, s, h, Nat.le_of_lt_succ hs, heq.symm⟩

/-- With nothing but ticks every board repeats itself, cycles or not: there are two moments in its
first `2 ^ n` ticks, `n` being the number of its perceptrons, after which it is the same for ever. -/
theorem eventually_periodic (b : Board) :
    ∃ s t, s < t ∧ t ≤ 2 ^ b.perceptrons.length ∧
      ∀ k, 1 ≤ k → tick^[s + k] b = tick^[t + k] b := by
  obtain ⟨s, t, hlt, hle, hfiring⟩ := b.exists_firingAt_eq
  refine ⟨s, t, hlt, hle, fun k hk => ?_⟩
  obtain ⟨j, rfl⟩ : ∃ j, k = j + 1 := ⟨k - 1, by omega⟩
  exact iterate_add_eq (iterate_succ_eq_of_firingAt hfiring) j

end Board

end SignalBoard
