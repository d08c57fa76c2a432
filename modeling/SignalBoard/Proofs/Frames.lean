import SignalBoard.Editor
import SignalBoard.Proofs.Forget

/-! # Frames

How the events of a pointer are cut into frames, how many frames come without events, and where
among them the wish to quit arrives has no part in what the pointer edits: the board of an editor,
but for what it remembers of its evaluation, the gesture and every reaction are those of the pointer
events handled in one go without a tick (`Editor.forget_run`, `Editor.reactions_run`). -/

namespace SignalBoard

set_option autoImplicit false

/-- Whether an event comes from the pointer: all do but the wish to quit. -/
def Event.fromPointer : Event → Bool
  | quit => false
  | _ => true

/-- The events of the pointer in some frames, in the order of their arrival. -/
def pointerEvents (frames : List (List Event)) : List Event :=
  frames.flatten.filter Event.fromPointer

theorem pointerEvents_cons (events : List Event) (rest : List (List Event)) :
    pointerEvents (events :: rest) = events.filter Event.fromPointer ++ pointerEvents rest :=
  List.filter_append ..

namespace Workbench

/-! ## Events in a row -/

theorem length_handleAll (w : Workbench) (events : List Event) :
    (w.handleAll events).answer.length = events.length := by
  induction events generalizing w with
  | nil => rfl
  | cons event rest ih => exact congrArg (· + 1) (ih (w.handle event).state)

theorem answer_handle_ne_quit (w : Workbench) {event : Event} (h : event ≠ .quit) :
    (w.handle event).answer ≠ .quit := by
  have htaken : ∀ taken, Reaction.ofTaken taken ≠ .quit := by decide
  cases event with
  | press button pos => exact htaken _
  | release button pos => exact htaken _
  | move pos => exact htaken _
  | quit => exact absurd rfl h

theorem quit_mem_handleAll (w : Workbench) (events : List Event) :
    .quit ∈ (w.handleAll events).answer ↔ .quit ∈ events := by
  induction events generalizing w with
  | nil => simp [handleAll]
  | cons event rest ih =>
    have hrest := ih (w.handle event).state
    have hanswer : (w.handleAll (event :: rest)).answer =
        (w.handle event).answer :: ((w.handle event).state.handleAll rest).answer := rfl
    rw [hanswer, List.mem_cons, List.mem_cons, hrest]
    refine or_congr_left ⟨fun h => ?_, fun h => h ▸ rfl⟩
    exact Decidable.byContradiction fun hne => w.answer_handle_ne_quit (Ne.symm hne) h.symm

/-- A wish to quit changes nothing for the events around it. -/
theorem handleAll_filter (w : Workbench) (events : List Event) :
    (w.handleAll (events.filter Event.fromPointer)).state = (w.handleAll events).state ∧
      (events.zip (w.handleAll events).answer).filter (fun r => r.1.fromPointer) =
        (events.filter Event.fromPointer).zip
          (w.handleAll (events.filter Event.fromPointer)).answer := by
  induction events generalizing w with
  | nil => exact ⟨rfl, rfl⟩
  | cons event rest ih =>
    obtain ⟨hstate, hanswer⟩ := ih (w.handle event).state
    cases event with
    | quit => exact ⟨hstate, hanswer⟩
    | press button pos => exact ⟨hstate, congrArg (_ :: ·) hanswer⟩
    | release button pos => exact ⟨hstate, congrArg (_ :: ·) hanswer⟩
    | move pos => exact ⟨hstate, congrArg (_ :: ·) hanswer⟩

/-- Workbenches that differ in what is forgotten go on to differ in that only, and react alike. -/
theorem handleAll_of_forget_eq {w w' : Workbench} (h : w.forget = w'.forget)
    (events : List Event) :
    (w.handleAll events).state.forget = (w'.handleAll events).state.forget ∧
      (w.handleAll events).answer = (w'.handleAll events).answer := by
  have hboth : (w.handleAll events).mapState forget = (w'.handleAll events).mapState forget := by
    rw [← handleAll_forget, ← handleAll_forget, h]
  have hanswer : ((w.handleAll events).mapState forget).answer =
      ((w'.handleAll events).mapState forget).answer := by rw [hboth]
  exact ⟨congrArg Outcome.state hboth, hanswer⟩

theorem reachable_handleAll {w : Workbench} (h : w.board.Reachable) (events : List Event) :
    (w.handleAll events).state.board.Reachable := by
  induction events generalizing w with
  | nil => exact h
  | cons event rest ih =>
    exact ih (h.obey w.gesture w.pointer (.handle event) : (w.handle event).state.board.Reachable)

end Workbench

namespace Editor

/-! ## Frames in a row -/

/-- The editor after some frames. -/
def run (e : Editor) (frames : List (List Event)) : Editor :=
  frames.foldl (fun e events => (e.step events).state) e

/-- The reactions to the events of some frames, each with its event. -/
def reactions (e : Editor) : List (List Event) → List (Event × Reaction)
  | [] => []
  | events :: rest =>
    events.zip (e.bench.handleAll events).answer ++ (e.step events).state.reactions rest

theorem bench_step (e : Editor) (events : List Event) :
    (e.step events).state.bench =
      (e.bench.handleAll events).state.withBoard
        (e.bench.handleAll events).state.board.tick := rfl

/-- Every frame counts once, whatever happens in it. -/
theorem ticks_run (e : Editor) (frames : List (List Event)) :
    (e.run frames).ticks = e.ticks + frames.length := by
  induction frames generalizing e with
  | nil => rfl
  | cons events rest ih =>
    have hrest : ((e.step events).state.run rest).ticks = e.ticks + 1 + rest.length :=
      ih (e.step events).state
    rw [List.length_cons, Nat.add_comm rest.length 1, ← Nat.add_assoc]
    exact hrest

theorem toNat_count {count : UInt64} {frames : List (List Event)}
    (h : count.toNat + frames.length < UInt64.size) :
    (frames.foldl (fun count _ => count + 1) count).toNat = count.toNat + frames.length := by
  induction frames generalizing count with
  | nil => rfl
  | cons events rest ih =>
    rw [List.length_cons] at h
    have hfits : count.toNat + 1 < UInt64.size := by omega
    have hnext : (count + 1).toNat = count.toNat + 1 :=
      (UInt64.toNat_add count 1).trans (Nat.mod_eq_of_lt hfits)
    rw [List.foldl_cons, ih (by omega), hnext, List.length_cons]
    omega

/-- A count in 64 bits has the number of frames as long as there are fewer than 2^64. -/
theorem ticks_run_eq_toNat {e : Editor} {frames : List (List Event)}
    (h : e.ticks + frames.length < UInt64.size) :
    (e.run frames).ticks =
      (frames.foldl (fun count _ => count + 1) (UInt64.ofNat e.ticks)).toNat := by
  have hstart : (UInt64.ofNat e.ticks).toNat = e.ticks := UInt64.toNat_ofNat_of_lt' (by omega)
  rw [ticks_run, toNat_count (by rwa [hstart]), hstart]

theorem reachable_step {e : Editor} (h : e.bench.board.Reachable) (events : List Event) :
    (e.step events).state.bench.board.Reachable :=
  (Workbench.reachable_handleAll h events).obey (e.bench.handleAll events).state.gesture
    (e.bench.handleAll events).state.pointer .tick

theorem forget_step {e : Editor} (h : e.bench.board.Reachable) (events : List Event) :
    (e.step events).state.bench.forget = (e.bench.handleAll events).state.forget := by
  have htick := (Workbench.reachable_handleAll h events).shaped.forget_tick
  rw [bench_step]
  exact congrArg (e.bench.handleAll events).state.withBoard htick

/-- The ticks between frames do not show in what later events do. -/
theorem handleAll_step {e : Editor} (h : e.bench.board.Reachable) (events later : List Event) :
    ((e.step events).state.bench.handleAll later).state.forget =
        (e.bench.handleAll (events.filter Event.fromPointer ++ later)).state.forget ∧
      (e.bench.handleAll (events.filter Event.fromPointer ++ later)).answer =
        (e.bench.handleAll (events.filter Event.fromPointer)).answer ++
          ((e.step events).state.bench.handleAll later).answer := by
  obtain ⟨hstate, hanswer⟩ := Workbench.handleAll_of_forget_eq (forget_step h events) later
  rw [← (e.bench.handleAll_filter events).1] at hstate hanswer
  rw [Workbench.handleAll_append]
  exact ⟨hstate, congrArg (_ ++ ·) hanswer.symm⟩

theorem forget_run {e : Editor} (h : e.bench.board.Reachable) (frames : List (List Event)) :
    (e.run frames).bench.forget = (e.bench.handleAll (pointerEvents frames)).state.forget := by
  induction frames generalizing e with
  | nil => rfl
  | cons events rest ih =>
    have hrest := ih (reachable_step h events)
    rw [pointerEvents_cons, ← (handleAll_step h events (pointerEvents rest)).1]
    exact hrest

theorem reactions_run {e : Editor} (h : e.bench.board.Reachable) (frames : List (List Event)) :
    (e.reactions frames).filter (fun r => r.1.fromPointer) =
      (pointerEvents frames).zip (e.bench.handleAll (pointerEvents frames)).answer := by
  induction frames generalizing e with
  | nil => rfl
  | cons events rest ih =>
    have hrest := ih (reachable_step h events)
    rw [reactions, List.filter_append, (e.bench.handleAll_filter events).2, hrest,
      pointerEvents_cons, (handleAll_step h events (pointerEvents rest)).2,
      List.zip_append (e.bench.length_handleAll _).symm]

theorem step_eq_false_iff (e : Editor) (events : List Event) :
    (e.step events).answer = false ↔ .quit ∈ events := by
  rw [← e.bench.quit_mem_handleAll events, ← List.contains_iff_mem, ← Bool.not_eq_false']
  rfl

theorem step_quit (e : Editor) (before after : List Event) :
    (e.step (before ++ .quit :: after)).state = (e.step (before ++ after)).state := by
  have hbench : (e.bench.handleAll (before ++ .quit :: after)).state =
      (e.bench.handleAll (before ++ after)).state := by
    rw [Workbench.handleAll_append, Workbench.handleAll_append]
    rfl
  show (tick ⟨(e.bench.handleAll (before ++ .quit :: after)).state, e.ticks⟩).state = _
  rw [hbench]
  rfl

/-- Frames with the same events of the pointer lead to the same board, but for what it remembers of
its evaluation, to the same gesture and to the same reactions.  The answer to a frame is whether to
go on, and the events after a wish to quit are handled as if it had not come. -/
theorem run_of_pointerEvents_eq {e : Editor} (hreach : e.bench.board.Reachable)
    {frames frames' : List (List Event)} (h : pointerEvents frames = pointerEvents frames') :
    (e.run frames).bench.forget = (e.run frames').bench.forget ∧
      (e.reactions frames).filter (fun r => r.1.fromPointer) =
        (e.reactions frames').filter (fun r => r.1.fromPointer) ∧
      (∀ (e : Editor) events, (e.step events).answer = false ↔ .quit ∈ events) ∧
      ∀ (e : Editor) before after,
        (e.step (before ++ .quit :: after)).state = (e.step (before ++ after)).state := by
  refine ⟨?_, ?_, step_eq_false_iff, step_quit⟩
  · rw [forget_run hreach, forget_run hreach, h]
  · rw [reactions_run hreach, reactions_run hreach, h]

/-- A switch drives a perceptron that drives the perceptron created before it. -/
def laggingPair : Editor :=
  .ofBoard ((Workbench.ofBoard (.empty 0)).run
    [.addSwitch ⟨50, 50⟩, .addPerceptron ⟨200, 100⟩ 1 (some [1]) (some (-0.5)),
      .addPerceptron ⟨400, 200⟩ 1 (some [1]) (some (-0.5)), .connect 0 ⟨2, 0⟩,
      .connect 2 ⟨1, 0⟩]).board

/-- A click on the switch in one frame, with a wish to quit in its middle. -/
def clickInOne : List (List Event) :=
  [[.press .primary ⟨70, 70⟩, .quit, .release .primary ⟨70, 70⟩]]

/-- The same click with a frame for the press, two without events and one for the release. -/
def clickInFour : List (List Event) :=
  [[.press .primary ⟨70, 70⟩], [], [], [.release .primary ⟨70, 70⟩]]

/-- More ticks pass during the longer click, and the earlier perceptron has caught up by its end. -/
theorem laggingPair_clicked :
    laggingPair.bench.board.Reachable ∧
      pointerEvents clickInOne = pointerEvents clickInFour ∧
      (laggingPair.run clickInOne).bench.board.outputOf 1 = false ∧
      (laggingPair.run clickInFour).bench.board.outputOf 1 = true ∧
      (laggingPair.run clickInOne).bench.forget = (laggingPair.run clickInFour).bench.forget ∧
      (laggingPair.reactions clickInOne).filter (fun r => r.1.fromPointer) =
        (laggingPair.reactions clickInFour).filter fun r => r.1.fromPointer := by
  have hreach : laggingPair.bench.board.Reachable := Board.Reachable.run (.empty 0) _
  have hevents : pointerEvents clickInOne = pointerEvents clickInFour := rfl
  obtain ⟨hforget, hreactions, -⟩ := run_of_pointerEvents_eq hreach hevents
  exact ⟨hreach, hevents, by decide +kernel, by decide +kernel, hforget, hreactions⟩

end Editor

end SignalBoard
