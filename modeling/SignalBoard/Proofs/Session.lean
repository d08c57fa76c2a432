import SignalBoard.Board.Tick
import SignalBoard.Proofs.Press

/-! # Sessions

A `Command` is one thing that can be asked of a board: an operation of the board itself, a tick, or
an operation of a pointer on it.  A board is `Reachable` if commands lead to it from an empty board
or from the starting scene, whatever pointers gave them and whatever those were in the middle of.

`Edit` lists the ways in which one command can change a board, guards included, and `edit_obey` says
that there are no others.  A property of reachable boards is then one case for each kind of edit
(`Reachable.invariant`). -/

namespace SignalBoard

set_option autoImplicit false

/-- What can be asked of a board and of a pointer on it. -/
inductive Command
  | addSwitch (corner : Point)
  | addLight (center : Point)
  | addPerceptron (corner : Point) (inputs : Nat) (weights? : Option (List Float32))
      (bias? : Option Float32)
  | connect (source : NodeId) (socket : Socket)
  | disconnect (socket : Socket)
  | incrementInputs (id : NodeId)
  | decrementInputs (id : NodeId)
  | tick
  | handle (event : Event)
  | beginWiring (source : NodeId)
  | finishWiring (pos : Point)
  | removeWire (socket : Socket)

def Workbench.obey (w : Workbench) : Command → Outcome Workbench Unit
  | .addSwitch corner => .quiet (w.withBoard (w.board.addSwitch corner)) ()
  | .addLight center => .quiet (w.withBoard (w.board.addLight center)) ()
  | .addPerceptron corner inputs weights? bias? =>
    let made := w.board.addPerceptron corner inputs weights? bias?
    (made.mapState w.withBoard).mapAnswer fun _ => ()
  | .connect source socket =>
    ((w.board.connect source socket).mapState w.withBoard).mapAnswer fun _ => ()
  | .disconnect socket => ((w.board.disconnect socket).mapState w.withBoard).mapAnswer fun _ => ()
  | .incrementInputs id => ((w.board.incrementInputs id).mapState w.withBoard).mapAnswer fun _ => ()
  | .decrementInputs id => ((w.board.decrementInputs id).mapState w.withBoard).mapAnswer fun _ => ()
  | .tick => ⟨w.withBoard w.board.tick, (), w.board.tickNotices⟩
  | .handle event => (w.handle event).mapAnswer fun _ => ()
  | .beginWiring source => (w.beginWiring source).mapAnswer fun _ => ()
  | .finishWiring pos => (w.finishWiring pos).mapAnswer fun _ => ()
  | .removeWire socket => (w.removeWire socket).mapAnswer fun _ => ()

/-- The workbench after commands given by its own pointer. -/
def Workbench.run (w : Workbench) (commands : List Command) : Workbench :=
  commands.foldl (fun w command => (w.obey command).state) w

namespace Board

/-- The boards that commands lead to, each command given by any pointer in any state. -/
inductive Reachable : Board → Prop
  | empty (seed : UInt64) : Reachable (.empty seed)
  | scene (seed : UInt64) : Reachable (startingScene seed).state
  | obey {b : Board} (h : Reachable b) (gesture : Gesture) (pointer : Point) (command : Command) :
      Reachable (Workbench.obey ⟨b, gesture, pointer⟩ command).state.board

theorem Reachable.run {w : Workbench} (h : Reachable w.board) (commands : List Command) :
    Reachable (w.run commands).board := by
  induction commands generalizing w with
  | nil => exact h
  | cons command rest ih => exact ih (h.obey w.gesture w.pointer command)

end Board

/-! ## What one command can do to a board -/

/-- The devices that are put on a board: nothing is wired to them and they have not been evaluated.
-/
inductive Device.Fresh : Device → Prop
  | switch : Fresh (.switch .initial)
  | light : Fresh (.light .initial)
  | perceptron (weights : List Float32) (bias : Float32)
      (hmin : Perceptron.minInputs ≤ weights.length)
      (hmax : weights.length ≤ Perceptron.maxInputs) : Fresh (.perceptron (.ofWeights weights bias))

namespace Board

/-- The ways in which one command changes a board. -/
inductive Edit (b : Board) : Board → Prop
  | keep : Edit b b
  | add (drawn : Nat) (bounds : Rect) (device : Device) (hfresh : device.Fresh) :
      Edit b ({ b with sampler := b.sampler.advance drawn }.add bounds device)
  | attach (source : NodeId) (socket : Socket) (held : Option NodeId)
      (hcheck : b.checkWire source socket = .ok held) : Edit b (b.attach source socket)
  | detach (socket : Socket) : Edit b (b.detach socket)
  | grow (id : NodeId) (p : Perceptron) (hp : b.perceptron? id = some p)
      (hgrow : p.canGrow = true) :
      Edit b ({ b with sampler := b.sampler.advance 1 }.withDevice id
        (.perceptron (p.grow b.sampler.next)))
  | shrink (id : NodeId) (p : Perceptron) (hp : b.perceptron? id = some p)
      (hshrink : p.canShrink = true) (wires : WireTable)
      (hwires : wires =
        if p.lastSource.isSome then b.wires.erase ⟨id, p.inputCount - 1⟩ else b.wires) :
      Edit b { b.withDevice id (.perceptron p.shrink) with wires := wires }
  | flip (id : NodeId) : Edit b (b.modifyNode id (Node.mapDevice Device.toggle))
  | carry (id : NodeId) (corner : Point) : Edit b (b.modifyNode id fun n => n.moveTo corner)
  | tick : Edit b b.tick

/-! ## Operations of the board -/

theorem edit_addSwitch (b : Board) (corner : Point) : Edit b (b.addSwitch corner) :=
  .add 0 _ _ .switch

theorem edit_addLight (b : Board) (center : Point) : Edit b (b.addLight center) :=
  .add 0 _ _ .light

theorem clampInputs_bounds (requested : Nat) :
    Perceptron.minInputs ≤ Perceptron.clampInputs requested ∧
      Perceptron.clampInputs requested ≤ Perceptron.maxInputs := by
  unfold Perceptron.clampInputs Perceptron.minInputs Perceptron.maxInputs
  omega

theorem create_ok {requested : Nat} {weights? : Option (List Float32)} {bias? : Option Float32}
    {sampler : Sampler} {p : Perceptron}
    (h : (Perceptron.create requested weights? bias? sampler).answer = .ok p) :
    ∃ weights bias drawn, p = .ofWeights weights bias ∧
      weights.length = Perceptron.clampInputs requested ∧
      (Perceptron.create requested weights? bias? sampler).state = sampler.advance drawn := by
  unfold Perceptron.create at h ⊢
  cases weights? with
  | none =>
    have hlen : (sampler.upcoming (Perceptron.clampInputs requested)).length =
      Perceptron.clampInputs requested := Sampler.length_upcoming _ _
    cases bias? with
    | none =>
      simp only [hlen, if_true] at h ⊢
      exact ⟨_, _, _, (Except.ok.inj h).symm, hlen, Sampler.advance_advance _ _ _⟩
    | some bias =>
      simp only [hlen, if_true] at h ⊢
      exact ⟨_, _, _, (Except.ok.inj h).symm, hlen, rfl⟩
  | some weights =>
    by_cases hlen : weights.length = Perceptron.clampInputs requested
    · cases bias? with
      | none =>
        simp only [hlen, if_true] at h ⊢
        exact ⟨_, _, _, (Except.ok.inj h).symm, hlen, rfl⟩
      | some bias =>
        simp only [hlen, if_true] at h ⊢
        exact ⟨_, _, 0, (Except.ok.inj h).symm, hlen, rfl⟩
    · simp only [hlen, if_false] at h
      cases h

theorem edit_addPerceptron (b : Board) (corner : Point) (inputs : Nat)
    (weights? : Option (List Float32)) (bias? : Option Float32) :
    Edit b (b.addPerceptron corner inputs weights? bias?).state := by
  unfold addPerceptron
  cases hmade : (Perceptron.create inputs weights? bias? b.sampler).answer with
  | error fault => simpa only [hmade] using Edit.keep
  | ok p =>
    obtain ⟨weights, bias, drawn, hp, hlen, hstate⟩ := create_ok hmade
    obtain ⟨hmin, hmax⟩ := clampInputs_bounds inputs
    subst hp
    simp only [hmade, hstate]
    exact .add drawn _ _ (.perceptron weights bias (hlen ▸ hmin) (hlen ▸ hmax))

theorem edit_connect (b : Board) (source : NodeId) (socket : Socket) :
    Edit b (b.connect source socket).state := by
  unfold connect
  cases hcheck : b.checkWire source socket with
  | error fault => exact .keep
  | ok held => exact .attach source socket held hcheck

theorem edit_disconnect (b : Board) (socket : Socket) : Edit b (b.disconnect socket).state :=
  .detach socket

theorem edit_incrementInputs (b : Board) (id : NodeId) : Edit b (b.incrementInputs id).state := by
  unfold incrementInputs
  cases hp : b.perceptron? id with
  | none => exact .keep
  | some p =>
    by_cases hgrow : p.canGrow = true
    · simp only [Perceptron.grow?, hgrow, if_true]
      exact .grow id p hp hgrow
    · simp only [Perceptron.grow?, hgrow]
      exact .keep

theorem edit_decrementInputs (b : Board) (id : NodeId) : Edit b (b.decrementInputs id).state := by
  unfold decrementInputs
  cases hp : b.perceptron? id with
  | none => exact .keep
  | some p =>
    by_cases hshrink : p.canShrink = true
    · have h := Edit.shrink id p hp hshrink _ rfl
      simp only [Perceptron.shrink?, hshrink, if_true]
      by_cases hlast : p.lastSource.isSome = true
      · rw [if_pos hlast] at h ⊢
        exact h
      · rw [if_neg hlast] at h ⊢
        exact h
    · simp only [Perceptron.shrink?, hshrink]
      exact .keep

end Board

/-! ## Operations of a pointer -/

namespace Workbench
open Board

theorem edit_beginWiring (w : Workbench) (source : NodeId) :
    Edit w.board (w.beginWiring source).state.board := by
  rw [w.board_beginWiring]
  exact .keep

theorem edit_finishWiring (w : Workbench) (pos : Point) :
    Edit w.board (w.finishWiring pos).state.board := by
  rcases w.board_finishWiring pos with h | ⟨source, socket, h⟩
  · rw [h]
    exact .keep
  · rw [h]
    exact edit_connect w.board source socket

theorem edit_removeWire (w : Workbench) (socket : Socket) :
    Edit w.board (w.removeWire socket).state.board := edit_disconnect w.board socket

theorem edit_beginDrag (w : Workbench) (id : NodeId) (pos : Point) :
    Edit w.board (w.beginDrag id pos).state.board := by
  unfold beginDrag
  cases w.board.node? id with
  | none => exact .keep
  | some n => exact .keep

theorem edit_primaryPress (w : Workbench) (pos : Point) (id : NodeId) (region : Node.Region) :
    Edit w.board (w.primaryPress pos id region).state.board := by
  cases region with
  | grow => exact edit_incrementInputs w.board id
  | shrink => exact edit_decrementInputs w.board id
  | output =>
    rw [primaryPress]
    split
    · exact edit_beginWiring w id
    · exact .keep
  | input index => exact .keep
  | toggle =>
    rw [primaryPress]
    split
    · exact .keep
    · exact .flip id
  | body =>
    rw [primaryPress]
    split
    · exact edit_beginDrag w id pos
    · exact .keep

theorem edit_secondaryPress (w : Workbench) (id : NodeId) (region : Node.Region) :
    Edit w.board (w.secondaryPress id region).state.board := by
  cases region with
  | input index => exact edit_removeWire w ⟨id, index⟩
  | _ => exact .keep

theorem edit_offer (w : Workbench) (button : Button) (pos : Point) (id : NodeId) :
    Edit w.board (w.offer button pos id).state.board := by
  unfold offer
  cases (w.board.node? id).bind fun n => n.regionAt? pos with
  | none => exact .keep
  | some region =>
    cases button with
    | primary => exact edit_primaryPress w pos id region
    | secondary => exact edit_secondaryPress w id region

theorem edit_press (w : Workbench) (button : Button) (pos : Point) :
    Edit w.board (w.press button pos).state.board := by
  unfold press
  rcases offerBelow_cases w button pos w.board.size with ⟨-, hscan⟩ | ⟨id, -, -, -, hscan⟩
  · rw [hscan]
    exact .keep
  · rw [hscan]
    exact edit_offer w button pos id

theorem edit_release (w : Workbench) (button : Button) (pos : Point) :
    Edit w.board (w.release button pos).state.board := by
  rcases w.board_release button pos with h | ⟨source, socket, h⟩
  · rw [h]
    exact .keep
  · rw [h]
    exact edit_connect w.board source socket

theorem edit_move (w : Workbench) (pos : Point) : Edit w.board (w.move pos).state.board := by
  rcases w.board_move pos with h | ⟨id, corner, h⟩
  · rw [h]
    exact .keep
  · rw [h]
    exact .carry id corner

theorem edit_handle (w : Workbench) (event : Event) :
    Edit w.board (w.handle event).state.board := by
  cases event with
  | press button pos => exact edit_press (w.pointAt pos) button pos
  | release button pos => exact edit_release (w.pointAt pos) button pos
  | move pos => exact edit_move (w.pointAt pos) pos
  | quit => exact .keep

/-- Whatever is asked of a board changes it by one edit. -/
theorem edit_obey (w : Workbench) (command : Command) :
    Edit w.board (w.obey command).state.board := by
  cases command with
  | addSwitch corner => exact edit_addSwitch w.board corner
  | addLight center => exact edit_addLight w.board center
  | addPerceptron corner inputs weights? bias? =>
    exact edit_addPerceptron w.board corner inputs weights? bias?
  | connect source socket => exact edit_connect w.board source socket
  | disconnect socket => exact edit_disconnect w.board socket
  | incrementInputs id => exact edit_incrementInputs w.board id
  | decrementInputs id => exact edit_decrementInputs w.board id
  | tick => exact .tick
  | handle event => exact edit_handle w event
  | beginWiring source => exact edit_beginWiring w source
  | finishWiring pos => exact edit_finishWiring w pos
  | removeWire socket => exact edit_removeWire w socket

end Workbench

/-! ## Invariants of reachable boards -/

namespace Board

/-- What holds of an empty board and survives every edit holds of the starting scene. -/
theorem scene_invariant {P : Board → Prop} (hempty : ∀ seed, P (empty seed))
    (hedit : ∀ b b', P b → Edit b b' → P b') (seed : UInt64) : P (startingScene seed).state := by
  have h1 := hedit _ _ (hempty seed) (edit_addSwitch _ ⟨50, 50⟩)
  have h2 := hedit _ _ h1 (edit_addSwitch _ ⟨50, 150⟩)
  have h3 := hedit _ _ h2 (edit_addPerceptron _ ⟨200, 100⟩ 2 none none)
  have h4 := hedit _ _ h3 (edit_addPerceptron _ ⟨400, 200⟩ 1 none none)
  have h5 := hedit _ _ h4 (edit_addLight _ ⟨600, 100⟩)
  exact hedit _ _ h5 (edit_addLight _ ⟨600, 250⟩)

/-- What holds of an empty board and survives every edit holds of every reachable board. -/
theorem Reachable.invariant {P : Board → Prop} (hempty : ∀ seed, P (Board.empty seed))
    (hedit : ∀ b b', P b → Edit b b' → P b') {b : Board} (h : Reachable b) : P b := by
  induction h with
  | empty seed => exact hempty seed
  | scene seed => exact scene_invariant hempty hedit seed
  | obey _ gesture pointer command ih =>
    exact hedit _ _ ih (Workbench.edit_obey ⟨_, gesture, pointer⟩ command)

end Board

end SignalBoard
