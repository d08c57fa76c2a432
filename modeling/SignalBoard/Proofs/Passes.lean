import SignalBoard.Board.Tick

/-! # The passes of a tick

A pass is a loop over `List.range` that writes to the nodes it reads.  Its invariant is
`getElem?_turns`: after `k` turns the nodes before `k` have been changed on what stood there at
their own turn, the others are as they were.  What a pass has counted and reported after `k` turns
follows from what `view` finds among the first `k` nodes (`answer_turns`, `notices_turns`), because
a turn changes no node before its own. -/

namespace SignalBoard

set_option autoImplicit false

theorem filterMap_toList {α β : Type} (x : Option α) (f : α → Option β) :
    x.toList.filterMap f = (x.bind f).toList := by
  cases x with
  | none => rfl
  | some a =>
    show [a].filterMap f = (f a).toList
    cases h : f a with
    | none => simp [h]
    | some b => simp [h]

theorem signalOf_congr {nodes nodes' : List Node} {j : NodeId} (h : nodes[j]? = nodes'[j]?) :
    signalOf nodes j = signalOf nodes' j := by
  rw [signalOf, signalOf, h]

/-! ## The nodes -/

section Nodes

variable (step : (NodeId → Bool) → Node → Node)

/-- The nodes after the turns of the first `k` of them. -/
def turns (nodes : List Node) (k : Nat) : List Node :=
  (List.range k).foldl (fun nodes id => nodes.modify id (step (signalOf nodes))) nodes

theorem turns_succ (nodes : List Node) (k : Nat) :
    turns step nodes (k + 1) =
      (turns step nodes k).modify k (step (signalOf (turns step nodes k))) := by
  rw [turns, List.range_succ, List.foldl_append]
  rfl

theorem getElem?_turns (nodes : List Node) (k i : Nat) :
    (turns step nodes k)[i]? =
      if i < k then nodes[i]?.map (step (signalOf (turns step nodes i))) else nodes[i]? := by
  -- by the turns taken: turn `k` changes node `k` only, and reads what the turns before it left
  induction k with
  | zero => rw [if_neg (Nat.not_lt_zero i)]; rfl
  | succ k ih =>
    rw [turns_succ]
    by_cases hik : k = i
    · subst hik
      rw [List.getElem?_modify_eq, ih, if_neg (Nat.lt_irrefl k), if_pos (Nat.lt_succ_self k)]
      rfl
    · rw [List.getElem?_modify_ne _ _ hik, ih]
      by_cases hlt : i < k
      · rw [if_pos hlt, if_pos (by omega)]
      · rw [if_neg hlt, if_neg (by omega)]

theorem getElem?_turns_length (nodes : List Node) (i : Nat) :
    (turns step nodes nodes.length)[i]? =
      nodes[i]?.map (step (signalOf (turns step nodes i))) := by
  rw [getElem?_turns]
  by_cases hi : i < nodes.length
  · rw [if_pos hi]
  · rw [if_neg hi, List.getElem?_eq_none (by omega)]
    rfl

/-- In the middle of a pass the nodes that had their turn show what they show after it. -/
theorem signalOf_turns (nodes : List Node) (k : Nat) (j : NodeId) :
    signalOf (turns step nodes k) j =
      if j < k then signalOf (turns step nodes nodes.length) j else signalOf nodes j := by
  by_cases hj : j < k
  · rw [if_pos hj]
    apply signalOf_congr
    rw [getElem?_turns, if_pos hj, getElem?_turns_length]
  · rw [if_neg hj]
    apply signalOf_congr
    rw [getElem?_turns, if_neg hj]

end Nodes

/-! ## The whole outcome -/

section Outcomes

variable {α : Type} {view : Device → Option α} {step : (NodeId → Bool) → Node → Node}
  {count : TickReport → α → TickReport} {notices : α → List Notice}

theorem turn_of_none {o : Outcome (List Node) TickReport} {id : NodeId}
    (h : (o.state[id]?.bind fun n => view n.device) = none) :
    turn view step count notices o id = o := by
  rw [turn, h]

theorem turn_of_some {o : Outcome (List Node) TickReport} {id : NodeId} {found : α}
    (h : (o.state[id]?.bind fun n => view n.device) = some found) :
    turn view step count notices o id =
      ⟨o.state.modify id (step (signalOf o.state)), count o.answer found,
        o.notices ++ notices found⟩ := by
  rw [turn, h]

variable (hstep : ∀ read n, view n.device = none → step read n = n)
include hstep

theorem state_turn (o : Outcome (List Node) TickReport) (id : NodeId) :
    (turn view step count notices o id).state =
      o.state.modify id (step (signalOf o.state)) := by
  cases hfound : o.state[id]?.bind fun n => view n.device with
  | some found => rw [turn_of_some hfound]
  | none =>
    rw [turn_of_none hfound]
    apply List.ext_getElem?
    intro j
    by_cases hj : id = j
    · subst hj
      rw [List.getElem?_modify_eq]
      cases hn : o.state[id]? with
      | none => rfl
      | some n =>
        rw [hn] at hfound
        exact congrArg some (hstep _ n hfound).symm
    · rw [List.getElem?_modify_ne _ _ hj]

theorem state_turns (o : Outcome (List Node) TickReport) (k : Nat) :
    ((List.range k).foldl (turn view step count notices) o).state = turns step o.state k :=
  (List.foldl_hom Outcome.state fun o id => (state_turn hstep o id).symm).symm

/-- What a pass visits is what `view` finds among the nodes before the pass. -/
theorem turns_found (o : Outcome (List Node) TickReport) (k : Nat) :
    ((List.range k).foldl (turn view step count notices) o).answer =
        ((o.state.take k).filterMap fun n => view n.device).foldl count o.answer ∧
      ((List.range k).foldl (turn view step count notices) o).notices =
        o.notices ++ ((o.state.take k).filterMap fun n => view n.device).flatMap notices := by
  induction k with
  | zero => exact ⟨rfl, (List.append_nil _).symm⟩
  | succ k ih =>
    obtain ⟨hanswer, hnotices⟩ := ih
    -- node `k` has not been written to when its turn comes
    have hnode : ((List.range k).foldl (turn view step count notices) o).state[k]? =
        o.state[k]? := by
      rw [state_turns hstep, getElem?_turns, if_neg (Nat.lt_irrefl k)]
    rw [List.range_succ, List.foldl_append, List.take_add_one, List.filterMap_append,
      filterMap_toList, List.foldl_append, List.flatMap_append, ← hanswer, ← List.append_assoc,
      ← hnotices, ← hnode]
    cases hv : ((List.range k).foldl (turn view step count notices) o).state[k]?.bind
        fun n => view n.device with
    | none =>
      rw [List.foldl_cons, List.foldl_nil, turn_of_none hv]
      exact ⟨rfl, (List.append_nil _).symm⟩
    | some found =>
      rw [List.foldl_cons, List.foldl_nil, turn_of_some hv]
      exact ⟨rfl, by simp⟩

theorem state_pass (o : Outcome (List Node) TickReport) :
    (pass (turn view step count notices) o).state = turns step o.state o.state.length :=
  state_turns hstep o o.state.length

theorem answer_pass (o : Outcome (List Node) TickReport) :
    (pass (turn view step count notices) o).answer =
      (o.state.filterMap fun n => view n.device).foldl count o.answer := by
  have h : (pass (turn view step count notices) o).answer =
      ((o.state.take o.state.length).filterMap fun n => view n.device).foldl count o.answer :=
    (turns_found hstep o o.state.length).1
  rw [h, List.take_length]

theorem notices_pass (o : Outcome (List Node) TickReport) :
    (pass (turn view step count notices) o).notices =
      o.notices ++ (o.state.filterMap fun n => view n.device).flatMap notices := by
  have h : (pass (turn view step count notices) o).notices =
      o.notices ++
        ((o.state.take o.state.length).filterMap fun n => view n.device).flatMap notices :=
    (turns_found hstep o o.state.length).2
  rw [h, List.take_length]

end Outcomes

/-! ## The two kinds of turns -/

theorem fire_of_none (read : NodeId → Bool) (n : Node) (h : n.device.perceptron? = none) :
    n.fire read = n := by
  obtain ⟨id, bounds, device, pins⟩ := n
  cases device with
  | switch s => rfl
  | perceptron p => cases h
  | light l => rfl

theorem shine_of_none (read : NodeId → Bool) (n : Node) (h : n.device.light? = none) :
    n.shine read = n := by
  obtain ⟨id, bounds, device, pins⟩ := n
  cases device with
  | switch s => rfl
  | perceptron p => rfl
  | light l => cases h

theorem output?_shine (read : NodeId → Bool) (n : Node) : (n.shine read).output? = n.output? := by
  unfold Node.output? Node.shine Node.mapDevice
  cases n.device with
  | switch s => rfl
  | perceptron p => rfl
  | light l => rfl

/-- Lights have no output, so the second pass reads the same signals all along. -/
theorem signalOf_turns_shine (nodes : List Node) (k : Nat) :
    signalOf (turns Node.shine nodes k) = signalOf nodes := by
  funext j
  rw [signalOf, signalOf, getElem?_turns]
  split
  · cases nodes[j]? with
    | none => rfl
    | some n => exact congrArg (Option.getD · false) (output?_shine _ n)
  · rfl

theorem light?_fire (read : NodeId → Bool) (n : Node) :
    (n.fire read).device.light? = n.device.light? := by
  unfold Node.fire Node.mapDevice
  cases n.device with
  | switch s => rfl
  | perceptron p => rfl
  | light l => rfl

theorem lights_turns_fire (nodes : List Node) :
    ((turns Node.fire nodes nodes.length).filterMap fun n => n.device.light?) =
      nodes.filterMap fun n => n.device.light? := by
  have hmap : (turns Node.fire nodes nodes.length).map (fun n => n.device.light?) =
      nodes.map fun n => n.device.light? := by
    apply List.ext_getElem?
    intro i
    rw [List.getElem?_map, List.getElem?_map, getElem?_turns_length]
    cases nodes[i]? with
    | none => rfl
    | some n => exact congrArg some (light?_fire _ n)
  have hid := congrArg (List.filterMap id) hmap
  rw [List.filterMap_map, List.filterMap_map] at hid
  exact hid

namespace Board

/-! ## A tick -/

def perceptrons (b : Board) : List Perceptron := b.nodes.filterMap fun n => n.device.perceptron?

def lights (b : Board) : List Light := b.nodes.filterMap fun n => n.device.light?

/-- The nodes after the first pass. -/
def fired (b : Board) : List Node := turns Node.fire b.nodes b.nodes.length

theorem state_fire (b : Board) : (pass fireAt (.quiet b.nodes .zero)).state = b.fired :=
  state_pass fire_of_none _

theorem nodes_tick (b : Board) : b.tick.nodes = turns Node.shine b.fired b.fired.length := by
  have h : b.tick.nodes = (pass shineAt (pass fireAt (.quiet b.nodes .zero))).state := rfl
  rw [h, shineAt, state_pass shine_of_none, state_fire]

theorem tickReport_eq_foldl (b : Board) :
    b.tickReport =
      b.lights.foldl TickReport.addLight (b.perceptrons.foldl TickReport.addPerceptron .zero) := by
  have h : b.tickReport = (pass shineAt (pass fireAt (.quiet b.nodes .zero))).answer := rfl
  rw [h, shineAt, answer_pass shine_of_none, state_fire, fireAt, answer_pass fire_of_none, fired,
    lights_turns_fire]
  rfl

theorem tickNotices_eq (b : Board) :
    b.tickNotices = b.perceptrons.flatMap Perceptron.repairNotices := by
  have h : b.tickNotices = (pass shineAt (pass fireAt (.quiet b.nodes .zero))).notices := rfl
  rw [h, shineAt, notices_pass shine_of_none, fireAt, notices_pass fire_of_none]
  simp [perceptrons]

end Board

end SignalBoard
