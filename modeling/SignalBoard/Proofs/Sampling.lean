import SignalBoard.Proofs.Resizing

/-! # What is drawn

`Workbench.drawn` are the values that a command takes from the sampler, read off the board that it
leaves: the weights and then the bias that a new perceptron got without being given any, and a
weight that a perceptron got together with a new input.  The commands that draw anything are listed
by `Workbench.Draws`; all others leave the sampler where it stands.

What one command draws is what the sampler gives next (`Workbench.yields_obey`), so the values that
a run draws are dealt out of the stream of its seed in the order of the commands, as many to each as
it asks for (`Workbench.samples_eq_deal`). -/

namespace SignalBoard

set_option autoImplicit false

/-! ## Drawing from a sampler -/

namespace Sampler

/-- `values` are what the sampler gives next, and `after` stands behind them. -/
structure Yields (s : Sampler) (values : List Float32) (after : Sampler) : Prop where
  given : values = s.upcoming values.length
  moved : after = s.advance values.length

theorem yields_nil (s : Sampler) : s.Yields [] s := ⟨rfl, rfl⟩

theorem yields_upcoming (s : Sampler) (count : Nat) :
    s.Yields (s.upcoming count) (s.advance count) := by
  constructor <;> rw [length_upcoming]

theorem yields_next (s : Sampler) : s.Yields [s.next] (s.advance 1) := s.yields_upcoming 1

theorem Yields.append {s s' s'' : Sampler} {values values' : List Float32}
    (h : s.Yields values s') (h' : s'.Yields values' s'') : s.Yields (values ++ values') s'' := by
  constructor
  · rw [List.length_append, upcoming_add, ← h.given, ← h.moved, ← h'.given]
  · rw [List.length_append, ← advance_advance, ← h.moved]
    exact h'.moved

theorem Yields.eq_nil {s : Sampler} {values : List Float32} (h : s.Yields values s) :
    values = [] := by
  have hdrawn : s.drawn = s.drawn + values.length := congrArg drawn h.moved
  exact List.eq_nil_of_length_eq_zero (by omega)

/-- Deals out values from `s` onwards, as many at a time as `counts` says. -/
def deal (s : Sampler) : List Nat → List (List Float32)
  | [] => []
  | count :: counts => s.upcoming count :: (s.advance count).deal counts

end Sampler

/-! ## What commands draw -/

/-- The weights and then the bias of a perceptron, as far as they were not given. -/
def Perceptron.unchosen (weights? : Option (List Float32)) (bias? : Option Float32)
    (p : Perceptron) : List Float32 :=
  (if weights?.isNone then p.weights else []) ++ if bias?.isNone then [p.bias] else []

namespace Board

def weightsOf (b : Board) (id : NodeId) : List Float32 :=
  ((b.perceptron? id).map Perceptron.weights).getD []

/-- The weights behind those that the perceptrons had before, in the order of the nodes. -/
def appended (before after : Board) : List Float32 :=
  (List.range before.size).flatMap fun id =>
    (after.weightsOf id).drop (before.weightsOf id).length

end Board

namespace Workbench

/-- The values that a command draws, in the order in which it draws them. -/
def drawn (w : Workbench) (command : Command) : List Float32 :=
  let after := (w.obey command).state.board
  match command with
  | .addPerceptron corner inputs weights? bias? =>
    match (w.board.addPerceptron corner inputs weights? bias?).answer with
    | .error _ => []
    | .ok id => ((after.perceptron? id).map (Perceptron.unchosen weights? bias?)).getD []
  | .incrementInputs id =>
    match (w.board.incrementInputs id).answer with
    | .changed count => (after.weightsOf id)[count - 1]?.toList
    | .atLimit | .notAPerceptron => []
  | .handle _ => w.board.appended after
  | _ => []

/-- What each of some commands draws, leaving out those that draw nothing. -/
def samples (w : Workbench) : List Command → List (List Float32)
  | [] => []
  | command :: rest =>
    let later := (w.obey command).state.samples rest
    if (w.drawn command).isEmpty then later else w.drawn command :: later

/-- The commands that draw: those that put a perceptron on the board without all of its weights and
its bias given, and those that add an input to one, by themselves or by a press on its button. -/
inductive Draws (w : Workbench) : Command → Prop
  | add {corner : Point} {inputs : Nat} {weights? : Option (List Float32)} {bias? : Option Float32}
      {id : NodeId} (hmissing : weights? = none ∨ bias? = none)
      (hadded : (w.board.addPerceptron corner inputs weights? bias?).answer = .ok id) :
      Draws w (.addPerceptron corner inputs weights? bias?)
  | increment {id : NodeId} {count : Nat}
      (hchanged : (w.board.incrementInputs id).answer = .changed count) :
      Draws w (.incrementInputs id)
  | press {pos : Point} {id : NodeId} {n : Node} {count : Nat} (hn : w.board.node? id = some n)
      (hregion : n.regionAt? pos = some .grow)
      (htop : ∀ j, id < j → ¬ w.Accepts .primary pos j)
      (hchanged : (w.board.incrementInputs id).answer = .changed count) :
      Draws w (.handle (.press .primary pos))

end Workbench

/-! ## New perceptrons -/

theorem Perceptron.unchosen_ne_nil {requested : Nat} {weights? : Option (List Float32)}
    {bias? : Option Float32} {sampler : Sampler} {p : Perceptron}
    (h : (create requested weights? bias? sampler).answer = .ok p)
    (hmissing : weights? = none ∨ bias? = none) : p.unchosen weights? bias? ≠ [] := by
  rcases hmissing with rfl | rfl
  · obtain ⟨weights, bias, -, rfl, hlen, -⟩ := Board.create_ok h
    obtain ⟨hmin, -⟩ := Board.clampInputs_bounds requested
    have hpos : weights ≠ [] := List.ne_nil_of_length_pos (hlen ▸ hmin)
    exact List.append_ne_nil_of_left_ne_nil hpos _
  · exact List.append_ne_nil_of_right_ne_nil _ (List.cons_ne_nil _ _)

theorem Perceptron.yields_create {requested : Nat} {weights? : Option (List Float32)}
    {bias? : Option Float32} {sampler : Sampler} {p : Perceptron}
    (h : (create requested weights? bias? sampler).answer = .ok p) :
    sampler.Yields (p.unchosen weights? bias?) (create requested weights? bias? sampler).state := by
  unfold create at h ⊢
  cases weights? with
  | none =>
    have hlen : (sampler.upcoming (clampInputs requested)).length = clampInputs requested :=
      Sampler.length_upcoming _ _
    have hweights := sampler.yields_upcoming (clampInputs requested)
    cases bias? with
    | none =>
      simp only [hlen, if_true] at h ⊢
      obtain rfl := Except.ok.inj h
      exact hweights.append (Sampler.yields_next _)
    | some bias =>
      simp only [hlen, if_true] at h ⊢
      obtain rfl := Except.ok.inj h
      exact hweights.append (Sampler.yields_nil _)
  | some weights =>
    by_cases hlen : weights.length = clampInputs requested
    · cases bias? with
      | none =>
        simp only [hlen, if_true] at h ⊢
        obtain rfl := Except.ok.inj h
        exact sampler.yields_next
      | some bias =>
        simp only [hlen, if_true] at h ⊢
        obtain rfl := Except.ok.inj h
        exact sampler.yields_nil
    · simp only [hlen, if_false] at h
      cases h

namespace Board

theorem addPerceptron_of_error {b : Board} {corner : Point} {inputs : Nat}
    {weights? : Option (List Float32)} {bias? : Option Float32} {fault : Fault}
    (h : (b.addPerceptron corner inputs weights? bias?).answer = .error fault) :
    (b.addPerceptron corner inputs weights? bias?).state = b := by
  unfold addPerceptron at h ⊢
  cases hmade : (Perceptron.create inputs weights? bias? b.sampler).answer with
  | error fault' => simp only [hmade]
  | ok p => simp only [hmade] at h; cases h

/-- A perceptron that has been added is found under its name, and the sampler stands where making it
left it. -/
theorem addPerceptron_of_ok {b : Board} {corner : Point} {inputs : Nat}
    {weights? : Option (List Float32)} {bias? : Option Float32} {id : NodeId}
    (h : (b.addPerceptron corner inputs weights? bias?).answer = .ok id) :
    ∃ p, (Perceptron.create inputs weights? bias? b.sampler).answer = .ok p ∧
      (b.addPerceptron corner inputs weights? bias?).state.perceptron? id = some p ∧
      (b.addPerceptron corner inputs weights? bias?).state.sampler =
        (Perceptron.create inputs weights? bias? b.sampler).state := by
  unfold addPerceptron at h ⊢
  cases hmade : (Perceptron.create inputs weights? bias? b.sampler).answer with
  | error fault => simp only [hmade] at h; cases h
  | ok p =>
    simp only [hmade] at h ⊢
    obtain rfl : b.size = id := Except.ok.inj h
    refine ⟨p, rfl, ?_, rfl⟩
    rw [perceptron?, node?_add]
    exact congrArg (Option.bind · _) (if_pos rfl)

theorem sampler_addPerceptron_of_given (b : Board) (corner : Point) (inputs : Nat)
    (weights : List Float32) (bias : Float32) :
    (b.addPerceptron corner inputs (some weights) (some bias)).state.sampler = b.sampler := by
  cases hanswer : (b.addPerceptron corner inputs (some weights) (some bias)).answer with
  | error fault => rw [addPerceptron_of_error hanswer]
  | ok id =>
    obtain ⟨p, hmade, -, hsampler⟩ := addPerceptron_of_ok hanswer
    rw [hsampler]
    exact (Perceptron.yields_create hmade).moved

/-! ## Weights under edits -/

theorem weightsOf_eq_of_perceptron? {b : Board} {id : NodeId} {p : Perceptron}
    (hp : b.perceptron? id = some p) : b.weightsOf id = p.weights := by
  rw [weightsOf, hp]
  rfl

theorem weightsOf_modifyNode (b : Board) (id : NodeId) {f : Node → Node}
    (h : ∀ n, (f n).device.perceptron?.map Perceptron.weights =
      n.device.perceptron?.map Perceptron.weights) (j : NodeId) :
    (b.modifyNode id f).weightsOf j = b.weightsOf j := by
  have hweights (b : Board) : b.weightsOf j =
      (((b.node? j).map fun n => n.device.perceptron?.map Perceptron.weights).getD none).getD [] := by
    unfold weightsOf perceptron?
    cases b.node? j with
    | none => rfl
    | some n => rfl
  rw [hweights, hweights, map_node?_modifyNode _ b id fun n _ => h n]

theorem weightsOf_withDevice {b : Board} {id : NodeId} {p : Perceptron}
    (hp : b.perceptron? id = some p) (q : Perceptron) (j : NodeId) :
    (b.withDevice id (.perceptron q)).weightsOf j = if j = id then q.weights else b.weightsOf j := by
  unfold weightsOf
  rw [perceptron?_withDevice hp]
  by_cases hj : j = id
  · rw [if_pos hj, if_pos hj]
    rfl
  · rw [if_neg hj, if_neg hj]

theorem weights_wire (d : Device) (index : Nat) (source : Option NodeId) :
    (d.wire index source).perceptron?.map Perceptron.weights =
      d.perceptron?.map Perceptron.weights := by
  cases d with
  | switch s => rfl
  | perceptron p => rfl
  | light l =>
    unfold Device.wire
    cases index with
    | zero => rfl
    | succ index => rfl

theorem appended_eq_nil {b b' : Board}
    (h : ∀ id, (b'.weightsOf id).length ≤ (b.weightsOf id).length) : b.appended b' = [] :=
  List.flatMap_eq_nil_iff.2 fun id _ => List.drop_eq_nil_of_le (h id)

theorem flatMap_range_eq {α : Type} (l : List α) {id n : Nat} (h : id < n) :
    ((List.range n).flatMap fun j => if j = id then l else []) = l := by
  induction n with
  | zero => exact absurd h (Nat.not_lt_zero _)
  | succ n ih =>
    rw [List.range_succ, List.flatMap_append, List.flatMap_singleton]
    by_cases hid : id < n
    · rw [ih hid, if_neg (by omega), List.append_nil]
    · obtain rfl : n = id := by omega
      have hnil : ((List.range n).flatMap fun j => if j = n then l else []) = [] :=
        List.flatMap_eq_nil_iff.2 fun j hj => if_neg (by have := List.mem_range.1 hj; omega)
      rw [hnil, if_pos rfl, List.nil_append]

theorem appended_grow {b : Board} {id : NodeId} {p : Perceptron} (hp : b.perceptron? id = some p)
    (sampler : Sampler) (weight : Float32) :
    b.appended ({ b with sampler := sampler }.withDevice id (.perceptron (p.grow weight))) =
      [weight] := by
  obtain ⟨n, hn, -⟩ := perceptron?_eq_some_iff.1 hp
  have hlt : id < b.size := lt_size_of_node? hn
  have hp' : ({ b with sampler := sampler } : Board).perceptron? id = some p := hp
  rw [← flatMap_range_eq [weight] hlt]
  refine congrArg (List.flatMap · (List.range b.size)) (funext fun j => ?_)
  rw [weightsOf_withDevice hp']
  by_cases hj : j = id
  · subst hj
    rw [if_pos rfl, if_pos rfl, weightsOf_eq_of_perceptron? hp]
    exact List.drop_left
  · rw [if_neg hj, if_neg hj]
    exact List.drop_length

/-- An edit that adds no node appends exactly what it draws. -/
theorem Edit.yields {b b' : Board} (h : Edit b b') (hb : b.Shaped) (hsize : b'.size = b.size) :
    b.sampler.Yields (b.appended b') b'.sampler := by
  have hkeep (c : Board) (hsampler : c.sampler = b.sampler)
      (hweights : ∀ id, (c.weightsOf id).length ≤ (b.weightsOf id).length) :
      b.sampler.Yields (b.appended c) c.sampler := by
    rw [appended_eq_nil hweights, hsampler]
    exact b.sampler.yields_nil
  have hsame (id : NodeId) {f : Node → Node}
      (hf : ∀ n, (f n).device.perceptron?.map Perceptron.weights =
        n.device.perceptron?.map Perceptron.weights) (j : NodeId) :
      ((b.modifyNode id f).weightsOf j).length ≤ (b.weightsOf j).length :=
    Nat.le_of_eq (congrArg List.length (weightsOf_modifyNode b id hf j))
  cases h with
  | keep => exact hkeep b rfl fun _ => Nat.le_refl _
  | add drawn bounds device hfresh =>
    have hgrown : ({ b with sampler := b.sampler.advance drawn }.add bounds device).size =
        b.size + 1 := List.length_append
    omega
  | attach source socket held hcheck =>
    exact hkeep _ rfl (hsame socket.node fun n => weights_wire n.device _ _)
  | detach socket => exact hkeep _ rfl (hsame socket.node fun n => weights_wire n.device _ _)
  | grow id p hp hgrow =>
    rw [appended_grow hp]
    exact b.sampler.yields_next
  | shrink id p hp hshrink wires hwires =>
    refine hkeep _ rfl fun j => ?_
    show ((b.withDevice id (.perceptron p.shrink)).weightsOf j).length ≤ _
    rw [weightsOf_withDevice hp]
    by_cases hj : j = id
    · subst hj
      rw [if_pos rfl, weightsOf_eq_of_perceptron? hp]
      exact (List.dropLast_sublist _).length_le
    · exact Nat.le_of_eq (congrArg List.length (if_neg hj))
  | flip id =>
    refine hkeep _ rfl (hsame id fun n => ?_)
    unfold Node.mapDevice
    cases n.device <;> rfl
  | carry id corner => exact hkeep _ rfl (hsame id fun n => rfl)
  | tick =>
    refine hkeep _ rfl fun j => ?_
    have hweights : b.tick.weightsOf j = b.weightsOf j := by
      unfold weightsOf
      rw [hb.weights_tick]
    exact Nat.le_of_eq (congrArg List.length hweights)

end Board

/-! ## One command -/

namespace Board

theorem sampler_connect (b : Board) (source : NodeId) (socket : Socket) :
    (b.connect source socket).state.sampler = b.sampler := by
  unfold connect
  cases b.checkWire source socket with
  | error fault => rfl
  | ok held => rfl

theorem sampler_decrementInputs (b : Board) (id : NodeId) :
    (b.decrementInputs id).state.sampler = b.sampler := by
  unfold decrementInputs
  cases b.perceptron? id with
  | none => rfl
  | some p =>
    simp only
    cases p.shrink? with
    | none => rfl
    | some shrunk =>
      simp only
      split
      · rfl
      · rfl

theorem sampler_incrementInputs {b : Board} {id : NodeId} {count : Nat}
    (h : (b.incrementInputs id).answer = .changed count) :
    (b.incrementInputs id).state.sampler = b.sampler.advance 1 := by
  rcases b.incrementInputs_cases id with ⟨hanswer, -⟩ | ⟨p, hp, hgrow, -⟩
  · exact absurd h (hanswer count)
  · rw [incrementInputs_of_canGrow hp hgrow]
    rfl

theorem Shaped.weight_incrementInputs {b : Board} (hb : b.Shaped) {id : NodeId} {p : Perceptron}
    (hp : b.perceptron? id = some p) (hgrow : p.canGrow = true) :
    ((b.incrementInputs id).state.weightsOf id)[p.inputCount]? = some b.sampler.next := by
  have hweights : p.inputCount = p.weights.length := (hb id p hp).weights.symm
  rw [weightsOf_eq_of_perceptron? (perceptron?_incrementInputs hp hgrow), hweights]
  exact List.getElem?_concat_length

end Board

namespace Workbench

theorem sampler_finishWiring (w : Workbench) (pos : Point) :
    (w.finishWiring pos).state.board.sampler = w.board.sampler := by
  rcases w.board_finishWiring pos with h | ⟨source, socket, h⟩
  · rw [h]
  · rw [h, Board.sampler_connect]

theorem drawn_addPerceptron {w : Workbench} {corner : Point} {inputs : Nat}
    {weights? : Option (List Float32)} {bias? : Option Float32} {id : NodeId}
    (h : (w.board.addPerceptron corner inputs weights? bias?).answer = .ok id) :
    ∃ p, (Perceptron.create inputs weights? bias? w.board.sampler).answer = .ok p ∧
      w.drawn (.addPerceptron corner inputs weights? bias?) = p.unchosen weights? bias? ∧
      (w.obey (.addPerceptron corner inputs weights? bias?)).state.board.sampler =
        (Perceptron.create inputs weights? bias? w.board.sampler).state := by
  obtain ⟨p, hmade, hp, hsampler⟩ := Board.addPerceptron_of_ok h
  have hp' : (w.obey (.addPerceptron corner inputs weights? bias?)).state.board.perceptron? id =
      some p := hp
  refine ⟨p, hmade, ?_, hsampler⟩
  unfold drawn
  simp only [h, hp', Option.map_some, Option.getD_some]

/-- What a command draws is what the sampler gives next. -/
theorem yields_obey {w : Workbench} (h : w.board.Reachable) (command : Command) :
    w.board.sampler.Yields (w.drawn command) (w.obey command).state.board.sampler := by
  have hquiet {after : Sampler} (hafter : after = w.board.sampler) :
      w.board.sampler.Yields [] after := by
    rw [hafter]
    exact w.board.sampler.yields_nil
  cases command with
  | addSwitch corner => exact hquiet rfl
  | addLight center => exact hquiet rfl
  | connect source socket => exact hquiet (w.board.sampler_connect source socket)
  | disconnect socket => exact hquiet rfl
  | decrementInputs id => exact hquiet (w.board.sampler_decrementInputs id)
  | tick => exact hquiet rfl
  | beginWiring source => exact hquiet (congrArg Board.sampler (w.board_beginWiring source))
  | finishWiring pos => exact hquiet (w.sampler_finishWiring pos)
  | removeWire socket => exact hquiet rfl
  | addPerceptron corner inputs weights? bias? =>
    cases hanswer : (w.board.addPerceptron corner inputs weights? bias?).answer with
    | error fault =>
      have hsame := congrArg Board.sampler (Board.addPerceptron_of_error hanswer)
      unfold drawn
      simp only [hanswer]
      exact hquiet hsame
    | ok id =>
      obtain ⟨p, hmade, hdrawn, hsampler⟩ := drawn_addPerceptron hanswer
      rw [hdrawn, hsampler]
      exact Perceptron.yields_create hmade
  | incrementInputs id =>
    have hstate : (w.obey (.incrementInputs id)).state.board =
        (w.board.incrementInputs id).state := rfl
    unfold drawn
    simp only [hstate]
    rcases w.board.incrementInputs_cases id with ⟨hanswer, hsame⟩ | ⟨p, hp, hgrow, hanswer⟩
    · rw [hsame]
      cases hresized : (w.board.incrementInputs id).answer with
      | changed count => exact absurd hresized (hanswer count)
      | atLimit => exact w.board.sampler.yields_nil
      | notAPerceptron => exact w.board.sampler.yields_nil
    · have hweight := h.shaped.weight_incrementInputs hp hgrow
      have hsampler := Board.sampler_incrementInputs hanswer
      simp only [hanswer, Nat.add_sub_cancel, hweight, hsampler]
      exact w.board.sampler.yields_next
  | handle event =>
    have hsize : (w.handle event).state.board.size = w.board.size := by
      have hroster := congrArg List.length (roster_handle w event)
      rwa [Board.roster, Board.roster, List.length_map, List.length_map] at hroster
    exact (edit_handle w event).yields h.shaped hsize

/-! ## Which commands draw -/

theorem sampler_press {w : Workbench} {button : Button} {pos : Point}
    (h : ¬ w.Draws (.handle (.press button pos))) :
    (w.handle (.press button pos)).state.board.sampler = w.board.sampler := by
  show ((w.pointAt pos).offerBelow button pos w.board.size).state.board.sampler = _
  rcases offerBelow_cases (w.pointAt pos) button pos w.board.size with
    ⟨-, hscan⟩ | ⟨id, -, hacc, hnone, hscan⟩
  · rw [hscan]
    rfl
  · obtain ⟨-, n, region, hn, hr, -, hpressed⟩ := offer_of_accepts hacc
    rw [hscan]
    generalize ((w.pointAt pos).offer button pos id).state = after at hpressed ⊢
    cases hpressed with
    | grow =>
      rcases w.board.incrementInputs_cases id with ⟨-, hsame⟩ | ⟨p, -, -, hanswer⟩
      · exact congrArg Board.sampler hsame
      · exact absurd (.press hn hr (fun j hj hj' => hnone j hj'.lt_size hj hj') hanswer) h
    | shrink => exact w.board.sampler_decrementInputs id
    | _ => rfl

theorem sampler_handle {w : Workbench} {event : Event} (h : ¬ w.Draws (.handle event)) :
    (w.handle event).state.board.sampler = w.board.sampler := by
  cases event with
  | press button pos => exact sampler_press h
  | release button pos =>
    show ((w.pointAt pos).release button pos).state.board.sampler = _
    rcases (w.pointAt pos).board_release button pos with hsame | ⟨source, socket, hconnect⟩
    · rw [hsame]
      rfl
    · rw [hconnect, Board.sampler_connect]
      rfl
  | move pos =>
    show ((w.pointAt pos).move pos).state.board.sampler = _
    rcases (w.pointAt pos).board_move pos with hsame | ⟨id, corner, hmove⟩
    · rw [hsame]
      rfl
    · rw [hmove]
      rfl
  | quit => rfl

/-- Commands that draw nothing leave the sampler where it stands. -/
theorem sampler_obey {w : Workbench} {command : Command} (h : ¬ w.Draws command) :
    (w.obey command).state.board.sampler = w.board.sampler := by
  cases command with
  | addSwitch corner => rfl
  | addLight center => rfl
  | addPerceptron corner inputs weights? bias? =>
    show (w.board.addPerceptron corner inputs weights? bias?).state.sampler = _
    cases hanswer : (w.board.addPerceptron corner inputs weights? bias?).answer with
    | error fault => rw [Board.addPerceptron_of_error hanswer]
    | ok id =>
      cases weights? with
      | none => exact absurd (.add (.inl rfl) hanswer) h
      | some weights =>
        cases bias? with
        | none => exact absurd (.add (.inr rfl) hanswer) h
        | some bias => exact w.board.sampler_addPerceptron_of_given corner inputs weights bias
  | connect source socket => exact w.board.sampler_connect source socket
  | disconnect socket => rfl
  | incrementInputs id =>
    rcases w.board.incrementInputs_cases id with ⟨-, hsame⟩ | ⟨p, -, -, hanswer⟩
    · exact congrArg Board.sampler hsame
    · exact absurd (.increment hanswer) h
  | decrementInputs id => exact w.board.sampler_decrementInputs id
  | tick => rfl
  | handle event => exact sampler_handle h
  | beginWiring source => exact congrArg Board.sampler (w.board_beginWiring source)
  | finishWiring pos => exact w.sampler_finishWiring pos
  | removeWire socket => rfl

/-- A press on the plus button of the topmost node that takes it is an increment. -/
theorem board_press_grow {w : Workbench} {pos : Point} {id : NodeId} {n : Node}
    (hn : w.board.node? id = some n) (hregion : n.regionAt? pos = some .grow)
    (htop : ∀ j, id < j → ¬ w.Accepts .primary pos j) :
    (w.handle (.press .primary pos)).state.board = (w.board.incrementInputs id).state := by
  show ((w.pointAt pos).offerBelow .primary pos w.board.size).state.board = _
  have hid : (w.pointAt pos).Accepts .primary pos id := ⟨n, .grow, hn, hregion, trivial⟩
  rcases offerBelow_cases (w.pointAt pos) .primary pos w.board.size with
    ⟨hnone, -⟩ | ⟨j, -, hacc, hnone, hscan⟩
  · exact absurd hid (hnone id hid.lt_size)
  · have hsame : j = id := by
      rcases Nat.lt_trichotomy j id with hlt | heq | hlt
      · exact absurd hid (hnone id hid.lt_size hlt)
      · exact heq
      · exact absurd hacc (htop j hlt)
    have hn' : (w.pointAt pos).board.node? id = some n := hn
    rw [hscan, hsame, offer_eq hn' hregion]
    rfl

theorem Draws.drawn_ne_nil {w : Workbench} (h : w.board.Reachable) {command : Command}
    (hdraws : w.Draws command) : w.drawn command ≠ [] := by
  have hyields := yields_obey h command
  have hgain {id : NodeId} {count : Nat} {b : Board}
      (hchanged : (w.board.incrementInputs id).answer = .changed count)
      (hb : b = (w.board.incrementInputs id).state) : b.sampler ≠ w.board.sampler := by
    rw [hb, Board.sampler_incrementInputs hchanged]
    intro hsame
    exact absurd (congrArg Sampler.drawn hsame) (Nat.succ_ne_self _)
  have hmoved (hnil : w.drawn command = []) :
      (w.obey command).state.board.sampler = w.board.sampler := by
    rw [hnil] at hyields
    exact hyields.moved
  cases hdraws with
  | add hmissing hadded =>
    obtain ⟨p, hmade, hdrawn, -⟩ := drawn_addPerceptron hadded
    rw [hdrawn]
    exact Perceptron.unchosen_ne_nil hmade hmissing
  | increment hchanged => exact fun hnil => hgain hchanged rfl (hmoved hnil)
  | press hn hregion htop hchanged =>
    exact fun hnil => hgain hchanged (board_press_grow hn hregion htop) (hmoved hnil)

/-- The commands that draw are those that `Draws` lists. -/
theorem drawn_eq_nil_iff {w : Workbench} (h : w.board.Reachable) {command : Command} :
    w.drawn command = [] ↔ ¬ w.Draws command := by
  constructor
  · exact fun hnil hdraws => hdraws.drawn_ne_nil h hnil
  · intro hquiet
    have hyields := yields_obey h command
    rw [sampler_obey hquiet] at hyields
    exact hyields.eq_nil

/-! ## Runs -/

/-- What a run draws is what the sampler gives next. -/
theorem yields_run {w : Workbench} (h : w.board.Reachable) (commands : List Command) :
    w.board.sampler.Yields (w.samples commands).flatten (w.run commands).board.sampler := by
  induction commands generalizing w with
  | nil => exact w.board.sampler.yields_nil
  | cons command rest ih =>
    have hrun := (yields_obey h command).append (ih (h.obey w.gesture w.pointer command))
    unfold samples
    by_cases hempty : (w.drawn command).isEmpty = true
    · rw [if_pos hempty]
      rw [List.isEmpty_iff.1 hempty, List.nil_append] at hrun
      exact hrun
    · rw [if_neg hempty]
      exact hrun

/-- The values of a run are dealt out in the order of the commands that draw. -/
theorem samples_eq_deal {w : Workbench} (h : w.board.Reachable) (commands : List Command) :
    w.samples commands = w.board.sampler.deal ((w.samples commands).map List.length) := by
  induction commands generalizing w with
  | nil => rfl
  | cons command rest ih =>
    have hstep := yields_obey h command
    have hrest := ih (h.obey w.gesture w.pointer command)
    unfold samples
    by_cases hempty : (w.drawn command).isEmpty = true
    · rw [if_pos hempty]
      rw [List.isEmpty_iff.1 hempty] at hstep
      have hsame : (w.obey command).state.board.sampler = w.board.sampler := hstep.moved
      rw [hsame] at hrest
      exact hrest
    · rw [if_neg hempty, List.map_cons, Sampler.deal, ← hstep.given, ← hstep.moved, ← hrest]

theorem samples_congr {w w' : Workbench} (h : w.board.Reachable) (h' : w'.board.Reachable)
    (hsampler : w.board.sampler = w'.board.sampler) {commands commands' : List Command}
    (hcounts : (w.samples commands).map List.length = (w'.samples commands').map List.length) :
    w.samples commands = w'.samples commands' := by
  rw [samples_eq_deal h, samples_eq_deal h', hsampler, hcounts]

end Workbench

/-- The commands that make the starting scene. -/
def Command.scene : List Command :=
  [.addSwitch ⟨50, 50⟩, .addSwitch ⟨50, 150⟩, .addPerceptron ⟨200, 100⟩ 2 none none,
    .addPerceptron ⟨400, 200⟩ 1 none none, .addLight ⟨600, 100⟩, .addLight ⟨600, 250⟩]

namespace Workbench

theorem board_run_scene (seed : UInt64) :
    ((ofBoard (.empty seed)).run Command.scene).board = (Board.startingScene seed).state := rfl

/-- What is drawn on a board from its first command on, be the board empty or the starting scene,
is the beginning of the stream of its seed.  Commands that are not among those that draw take
nothing from it.  Hence of two runs that begin at one place of the stream, and in which the commands
that draw ask for as many values, the two get the same values, whatever else is done in between. -/
theorem draws_follow_stream (seed : UInt64) :
    (∀ (w : Workbench) (commands : List Command), w.board = .empty seed →
        (Sampler.ofSeed seed).Yields (w.samples commands).flatten
          (w.run commands).board.sampler) ∧
      (∀ (w : Workbench) (commands : List Command), w.board = (Board.startingScene seed).state →
        (Sampler.ofSeed seed).Yields
          ((ofBoard (.empty seed)).samples Command.scene ++ w.samples commands).flatten
          (w.run commands).board.sampler) ∧
      (∀ (w : Workbench) (command : Command), w.board.Reachable →
        (w.drawn command = [] ↔ ¬ w.Draws command) ∧
          (¬ w.Draws command → (w.obey command).state.board.sampler = w.board.sampler)) ∧
      ∀ (w w' : Workbench) (commands commands' : List Command), w.board.Reachable →
        w'.board.Reachable → w.board.sampler = w'.board.sampler →
        (w.samples commands).map List.length = (w'.samples commands').map List.length →
        w.samples commands = w'.samples commands' := by
  refine ⟨fun w commands hw => ?_, fun w commands hw => ?_,
    fun w command h => ⟨drawn_eq_nil_iff h, sampler_obey⟩,
    fun w w' commands commands' h h' hsampler hcounts => samples_congr h h' hsampler hcounts⟩
  · have hreach : w.board.Reachable := hw ▸ .empty seed
    have hrun := yields_run hreach commands
    rw [hw] at hrun
    exact hrun
  · have hscene := yields_run (w := ofBoard (.empty seed)) (.empty seed) Command.scene
    have hreach : w.board.Reachable := hw ▸ .scene seed
    have hrun := yields_run hreach commands
    rw [board_run_scene, ← hw] at hscene
    rw [List.flatten_append]
    exact hscene.append hrun

/-- Three commands that draw among four that do not: a perceptron is refused, another one made, a
switch added, the plus button of the perceptron pressed, and the input lost, wired and gained. -/
def patchwork : List Command :=
  [.addPerceptron ⟨0, 0⟩ 3 (some [1]) none, .addPerceptron ⟨200, 100⟩ 2 none none,
    .addSwitch ⟨50, 50⟩, .handle (.press .primary ⟨250, 109⟩), .decrementInputs 0,
    .connect 1 ⟨0, 0⟩, .incrementInputs 0]

/-- Those commands of `patchwork` that draw. -/
def patches : List Command :=
  [.addPerceptron ⟨200, 100⟩ 2 none none, .handle (.press .primary ⟨250, 109⟩), .incrementInputs 0]

theorem patchwork_samples :
    ((ofBoard (.empty 7)).samples patchwork).map List.length = [3, 1, 1] ∧
      (Sampler.ofSeed 7).Yields ((ofBoard (.empty 7)).samples patchwork).flatten
        ((ofBoard (.empty 7)).run patchwork).board.sampler ∧
      (Sampler.ofSeed 7).Yields
        ((ofBoard (.empty 7)).samples Command.scene ++
          (ofBoard (Board.startingScene 7).state).samples patchwork).flatten
        ((ofBoard (Board.startingScene 7).state).run patchwork).board.sampler ∧
      (ofBoard (.empty 7)).drawn (.addPerceptron ⟨0, 0⟩ 3 (some [1]) none) = [] ∧
      (ofBoard (.empty 7)).samples patchwork = (ofBoard (.empty 7)).samples patches := by
  obtain ⟨hempty, hscene, hquiet, hcongr⟩ := draws_follow_stream 7
  have hrefused : ¬ (ofBoard (.empty 7)).Draws (.addPerceptron ⟨0, 0⟩ 3 (some [1]) none) := by
    intro hdraws
    cases hdraws with
    | add hmissing hadded => cases hadded
  have hcounts : ((ofBoard (.empty 7)).samples patchwork).map List.length = [3, 1, 1] := by
    decide +kernel
  have hcounts' : ((ofBoard (.empty 7)).samples patches).map List.length = [3, 1, 1] := by
    decide +kernel
  exact ⟨hcounts, hempty _ _ rfl, hscene _ _ rfl, (hquiet _ _ (.empty 7)).1.2 hrefused,
    hcongr _ _ _ _ (.empty 7) (.empty 7) rfl (hcounts.trans hcounts'.symm)⟩

/-- A perceptron with as many inputs as it can have, all of its weights given. -/
def fullUnit : Workbench :=
  (ofBoard (.empty 0)).run [.addPerceptron ⟨200, 100⟩ 8 (some (List.replicate 8 1)) (some 0)]

/-- A loss of an input draws nothing, but it makes room for a gain that does, and then a perceptron
that is added later gets other values. -/
theorem fullUnit_room_shifts_samples :
    ¬ fullUnit.Draws (.decrementInputs 0) ∧ fullUnit.drawn (.decrementInputs 0) = [] ∧
      (fullUnit.run [.incrementInputs 0]).drawn (.addPerceptron ⟨400, 200⟩ 1 none none) =
        [Sampler.sample 0 0, Sampler.sample 0 1] ∧
      (fullUnit.run [.decrementInputs 0, .incrementInputs 0]).drawn
          (.addPerceptron ⟨400, 200⟩ 1 none none) =
        [Sampler.sample 0 1, Sampler.sample 0 2] ∧
      [Sampler.sample 0 0, Sampler.sample 0 1] ≠ [Sampler.sample 0 1, Sampler.sample 0 2] :=
  ⟨nofun, rfl, rfl, rfl, by decide +kernel⟩

end Workbench

end SignalBoard
