import SignalBoard.Proofs.Coherence

/-! # Gestures hold

Only its own end takes a gesture away: the primary release ends a drag, the release of any button
ends a wire, and a primary press is what an idle pointer begins with (`Gesture.yieldsTo`).  Whatever
else happens, on whatever nodes lie under the pointer, the gesture is the same afterwards
(`Workbench.Coherent.gesture_run`).

A node has its bounds changed by a move of the pointer that carries it, and by nothing else
(`Workbench.Coherent.node?_obey`). -/

namespace SignalBoard

set_option autoImplicit false

/-- Whether a command can take the gesture away.  Of the events that is a primary press for an idle
pointer, the primary release for a drag and any release for a wire; asking for a wire to be begun or
ended without an event is the other way. -/
def Gesture.yieldsTo : Gesture → Command → Bool
  | idle, .handle (.press .primary _) => true
  | dragging .., .handle (.release .primary _) => true
  | wiring .., .handle (.release ..) => true
  | wiring .., .finishWiring _ => true
  | _, .beginWiring _ => true
  | _, _ => false

namespace Workbench

/-- Where a command carries the top left corner of node `id`: a move of the pointer carries the node
that is being dragged. -/
def carries? (w : Workbench) (id : NodeId) : Command → Option Point
  | .handle (.move pos) =>
    match w.gesture with
    | .dragging node grip => if id = node then some (pos - grip) else none
    | _ => none
  | _ => none

/-- Where the last of the commands to carry node `id` leaves its top left corner. -/
def lastCarried? (w : Workbench) (id : NodeId) : List Command → Option Point
  | [] => none
  | command :: rest => (w.obey command).state.lastCarried? id rest <|> w.carries? id command

/-! ## One command -/

theorem Pressed.gesture_eq {w after : Workbench} {pos : Point} {id : NodeId} {n : Node}
    {button : Button} {region : Node.Region} (h : w.Pressed pos id n button region after)
    (htakes : Takes w.gesture n.device.kind button region)
    (hhold : w.gesture.yieldsTo (.handle (.press button pos)) = false) :
    after.gesture = w.gesture := by
  -- drawing and dragging begin when the pointer is idle, and then a primary press is yielded to
  have hbusy (hbutton : button = .primary) : w.gesture ≠ .idle := by
    intro hidle
    rw [hbutton, hidle] at hhold
    cases hhold
  cases h with
  | draw pin hpin hidle => exact absurd hidle (hbusy rfl)
  | drag => exact absurd htakes (hbusy rfl)
  | grow => rfl
  | shrink => rfl
  | busy hbusy => rfl
  | input index => rfl
  | flip s hs => rfl
  | free index => rfl
  | toggle hswitch => rfl
  | body hswitch => rfl

theorem gesture_press {w : Workbench} {button : Button} {pos : Point}
    (hhold : w.gesture.yieldsTo (.handle (.press button pos)) = false) :
    (w.press button pos).state.gesture = w.gesture := by
  rcases w.press_cases button pos with h | ⟨id, n, region, -, -, htakes, hpressed⟩
  · rw [h]
    rfl
  · exact hpressed.gesture_eq htakes hhold

theorem gesture_release {w : Workbench} {button : Button} {pos : Point}
    (hhold : w.gesture.yieldsTo (.handle (.release button pos)) = false) :
    (w.release button pos).state.gesture = w.gesture := by
  unfold release
  cases hg : w.gesture with
  | idle => exact hg
  | wiring source start =>
    rw [hg] at hhold
    cases hhold
  | dragging id grip =>
    cases button with
    | primary =>
      rw [hg] at hhold
      cases hhold
    | secondary => exact hg

theorem gesture_release_of_dragging {w : Workbench} {id : NodeId} {grip : Offset}
    (hg : w.gesture = .dragging id grip) (pos : Point) :
    (w.release .primary pos).state.gesture = .idle := by
  unfold release
  rw [hg]

theorem gesture_release_of_wiring {w : Workbench} {source : NodeId} {start : Point}
    (hg : w.gesture = .wiring source start) (button : Button) (pos : Point) :
    (w.release button pos).state.gesture = .idle := by
  have hfinish := gesture_finishWiring hg pos
  unfold release
  rw [hg]
  exact hfinish

theorem Coherent.gesture_move {w : Workbench} (h : w.Coherent) (pos : Point) :
    (w.handle (.move pos)).state.gesture = w.gesture := by
  rcases w.gesture.dragged?_eq_none_or with hstill | ⟨id, grip, hg⟩
  · rw [handle_move_of_not_dragging hstill]
    rfl
  · obtain ⟨n, hn⟩ := h.dragged hg
    rw [handle_move_of_dragging hg hn]
    rfl

theorem Coherent.gesture_obey {w : Workbench} (h : w.Coherent) {command : Command}
    (hhold : w.gesture.yieldsTo command = false) :
    (w.obey command).state.gesture = w.gesture := by
  cases command with
  | handle event =>
    cases event with
    | press button pos => exact gesture_press (w := w.pointAt pos) hhold
    | release button pos => exact gesture_release (w := w.pointAt pos) hhold
    | move pos => exact h.gesture_move pos
    | quit => rfl
  | beginWiring source => simp [Gesture.yieldsTo] at hhold
  | finishWiring pos =>
    rcases w.gesture.isWiring_eq_false_or with hnot | ⟨source, start, hg⟩
    · exact congrArg (fun o => o.state.gesture) (finishWiring_of_not_wiring hnot pos)
    · rw [hg] at hhold
      cases hhold
  | addSwitch corner => rfl
  | addLight center => rfl
  | addPerceptron corner inputs weights? bias? => rfl
  | connect source socket => rfl
  | disconnect socket => rfl
  | incrementInputs id => rfl
  | decrementInputs id => rfl
  | tick => rfl
  | removeWire socket => rfl

theorem carries?_of_still {w : Workbench} {command : Command}
    (h : w.gesture.dragged? = none ∨ ∀ pos, command ≠ .handle (.move pos)) (id : NodeId) :
    w.carries? id command = none := by
  unfold carries?
  split
  · rename_i pos
    rcases h with hstill | hmove
    · split
      · rename_i node grip hg
        rw [hg] at hstill
        cases hstill
      · rfl
    · exact absurd rfl (hmove pos)
  · rfl

/-- No command takes a node away, and only one that carries it changes its bounds. -/
theorem Coherent.node?_obey {w : Workbench} (h : w.Coherent) (command : Command) {id : NodeId}
    {n : Node} (hn : w.board.node? id = some n) :
    ∃ n', (w.obey command).state.board.node? id = some n' ∧
      (w.carries? id command = none → n'.bounds = n.bounds) ∧
      ∀ corner, w.carries? id command = some corner → n'.bounds.min = corner := by
  have hstill (hnot : w.gesture.dragged? = none ∨ ∀ pos, command ≠ .handle (.move pos)) :
      ∃ n', (w.obey command).state.board.node? id = some n' ∧
        (w.carries? id command = none → n'.bounds = n.bounds) ∧
        ∀ corner, w.carries? id command = some corner → n'.bounds.min = corner := by
    obtain ⟨n', hn', hface⟩ := Board.node?_of_faces (w.faces_obey hnot) hn
    refine ⟨n', hn', fun _ => congrArg Face.bounds hface, fun corner hcorner => ?_⟩
    rw [carries?_of_still hnot] at hcorner
    cases hcorner
  rcases w.gesture.dragged?_eq_none_or with hnone | ⟨node, grip, hg⟩
  · exact hstill (.inl hnone)
  · by_cases hmove : ∃ pos, command = .handle (.move pos)
    · obtain ⟨pos, rfl⟩ := hmove
      obtain ⟨dragged, hdragged⟩ := h.dragged hg
      have hboard : (w.obey (.handle (.move pos))).state.board =
          w.board.modifyNode node fun n => n.moveTo (pos - grip) :=
        congrArg Workbench.board (handle_move_of_dragging hg hdragged pos)
      have hcarries : w.carries? id (.handle (.move pos)) =
          if id = node then some (pos - grip) else none := by
        simp only [carries?, hg]
      rw [hboard, hcarries, Board.node?_modifyNode, hn]
      by_cases hid : id = node
      · rw [if_pos hid, if_pos hid]
        refine ⟨n.moveTo (pos - grip), rfl, fun hnone => ?_, fun corner hcorner => ?_⟩
        · cases hnone
        · exact Option.some.inj hcorner
      · rw [if_neg hid, if_neg hid]
        refine ⟨n, rfl, fun _ => rfl, fun corner hcorner => ?_⟩
        cases hcorner
    · exact hstill (.inr fun pos hpos => hmove ⟨pos, hpos⟩)

/-! ## Many commands -/

theorem Coherent.gesture_run {w : Workbench} (h : w.Coherent) (hreach : w.board.Reachable)
    {commands : List Command}
    (hhold : ∀ command ∈ commands, w.gesture.yieldsTo command = false) :
    (w.run commands).gesture = w.gesture := by
  induction commands generalizing w with
  | nil => rfl
  | cons command rest ih =>
    obtain ⟨hfirst, hrest⟩ := List.forall_mem_cons.1 hhold
    have hstep : (w.obey command).state.gesture = w.gesture := h.gesture_obey hfirst
    rw [← hstep] at hrest ⊢
    exact ih (h.obey hreach command) (hreach.obey w.gesture w.pointer command) hrest

theorem Coherent.node?_run {w : Workbench} (h : w.Coherent) (hreach : w.board.Reachable)
    (commands : List Command) {id : NodeId} {n : Node} (hn : w.board.node? id = some n) :
    ∃ n', (w.run commands).board.node? id = some n' ∧
      (w.lastCarried? id commands = none → n'.bounds = n.bounds) ∧
      ∀ corner, w.lastCarried? id commands = some corner → n'.bounds.min = corner := by
  induction commands generalizing w n with
  | nil => exact ⟨n, hn, fun _ => rfl, fun corner hcorner => by cases hcorner⟩
  | cons command rest ih =>
    obtain ⟨m, hm, hkept, hcarried⟩ := h.node?_obey command hn
    obtain ⟨n', hn', hrest, hlast⟩ :=
      ih (h.obey hreach command) (hreach.obey w.gesture w.pointer command) hm
    rw [lastCarried?]
    cases hcarries : (w.obey command).state.lastCarried? id rest with
    | none =>
      -- what comes after the first command leaves the node where that command put it
      have hsame : n'.bounds = m.bounds := hrest hcarries
      refine ⟨n', hn', fun hnone => hsame.trans (hkept hnone), fun corner hcorner => ?_⟩
      rw [hsame]
      exact hcarried corner hcorner
    | some corner' =>
      refine ⟨n', hn', fun hnone => ?_, fun corner hcorner => ?_⟩
      · cases hnone
      · exact hlast corner (hcarries.trans hcorner)

/-- At any time, a gesture that nothing it yields to comes for is the same after whatever comes, and
its end leaves the pointer idle.  Any one command changes the bounds of a node only if it is a move
of the pointer that drags that node, which then lies where the move carried it; so in the end a node
lies where it was last carried, or where it was. -/
theorem gesture_held_until_end {w : Workbench} (hreach : w.board.Reachable)
    (hidle : w.gesture = .idle) (before : List Command) :
    let v := w.run before
    (∀ commands, (∀ command ∈ commands, v.gesture.yieldsTo command = false) →
        (v.run commands).gesture = v.gesture) ∧
      (∀ id grip pos, v.gesture = .dragging id grip →
        (v.handle (.release .primary pos)).state.gesture = .idle) ∧
      (∀ source start button pos, v.gesture = .wiring source start →
        (v.handle (.release button pos)).state.gesture = .idle) ∧
      (∀ id n command, v.board.node? id = some n →
        ∃ n', (v.obey command).state.board.node? id = some n' ∧
          (v.carries? id command = none → n'.bounds = n.bounds) ∧
          ∀ corner, v.carries? id command = some corner → n'.bounds.min = corner) ∧
      ∀ id n commands, v.board.node? id = some n →
        ∃ n', (v.run commands).board.node? id = some n' ∧
          (v.lastCarried? id commands = none → n'.bounds = n.bounds) ∧
          ∀ corner, v.lastCarried? id commands = some corner → n'.bounds.min = corner := by
  intro v
  have h : v.Coherent := (coherent_of_idle hidle).run hreach before
  have hreach' : v.board.Reachable := hreach.run before
  refine ⟨fun commands => h.gesture_run hreach', fun id grip pos hg => ?_,
    fun source start button pos hg => ?_, fun id n command => h.node?_obey command,
    fun id n commands => h.node?_run hreach' commands⟩
  · exact gesture_release_of_dragging (w := v.pointAt pos) hg pos
  · exact gesture_release_of_wiring (w := v.pointAt pos) hg button pos

/-- A perceptron lies over a switch and is dragged by its body. -/
def stackedDrag : List Command :=
  [.addSwitch ⟨200, 100⟩, .addPerceptron ⟨200, 100⟩ 2 (some [1, 1]) (some 0),
    .handle (.press .primary ⟨230, 140⟩)]

/-- Presses on the output, the body and an input of the dragged perceptron and on the switch that
comes to light under it, a secondary release and a tick, with one move in between. -/
def attemptsToSteal : List Command :=
  [.handle (.press .primary ⟨266, 140⟩), .handle (.press .secondary ⟨230, 140⟩),
    .handle (.move ⟨330, 160⟩), .tick, .handle (.press .primary ⟨230, 130⟩),
    .handle (.press .primary ⟨330, 160⟩), .handle (.release .secondary ⟨330, 160⟩),
    .handle .quit, .handle (.press .secondary ⟨295, 146⟩)]

theorem stackedDrag_held :
    let v := (ofBoard (.empty 0)).run stackedDrag
    (Board.empty 0).Reachable ∧ v.gesture = .dragging 1 ⟨30, 40⟩ ∧
      (v.run attemptsToSteal).gesture = .dragging 1 ⟨30, 40⟩ ∧
      ((v.run attemptsToSteal).board.node? 0).map Node.bounds =
        (v.board.node? 0).map Node.bounds ∧
      ((v.run attemptsToSteal).board.node? 1).map (fun n => n.bounds.min) = some ⟨300, 120⟩ := by
  have hreach : (ofBoard (.empty 0)).board.Reachable := .empty 0
  obtain ⟨hheld, -, -, -, hplaces⟩ := gesture_held_until_end hreach rfl stackedDrag
  have hg : ((ofBoard (.empty 0)).run stackedDrag).gesture = .dragging 1 ⟨30, 40⟩ := by
    decide +kernel
  have hhold := hheld attemptsToSteal (by rw [hg]; decide)
  refine ⟨hreach, hg, hhold.trans hg, ?_, ?_⟩
  · cases hn : ((ofBoard (.empty 0)).run stackedDrag).board.node? 0 with
    | none => exact absurd hn (by decide +kernel)
    | some n =>
      obtain ⟨n', hn', hkept, -⟩ := hplaces 0 n attemptsToSteal hn
      rw [hn', Option.map_some, hkept (by decide +kernel)]
      rfl
  · cases hn : ((ofBoard (.empty 0)).run stackedDrag).board.node? 1 with
    | none => exact absurd hn (by decide +kernel)
    | some n =>
      obtain ⟨n', hn', -, hcarried⟩ := hplaces 1 n attemptsToSteal hn
      rw [hn', Option.map_some, hcarried ⟨300, 120⟩ (by decide +kernel)]

end Workbench

end SignalBoard
