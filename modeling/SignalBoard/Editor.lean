import SignalBoard.Board.Tick
import SignalBoard.Paint
import SignalBoard.Settings

/-!
# The editor

An editor is a workbench that is evaluated frame by frame.  In each frame it reacts to the events in
the order of their arrival, evaluates the board once, and paints.  Events that follow a wish to quit
are still reacted to, and the frame is still evaluated.
-/

namespace SignalBoard

set_option autoImplicit false

/-- A workbench and the number of times it has been evaluated.  The number has no bound here.  A
count in 64 bits is the same number until 2^64 frames have gone by (`Editor.ticks_run_eq_toNat`),
and nothing but the texts of two notices reads it: the workbench does not (`Editor.bench_step`). -/
structure Editor where
  bench : Workbench
  ticks : Nat
  deriving DecidableEq

namespace Editor

def ofBoard (board : Board) : Editor := ⟨.ofBoard board, 0⟩

/-- An editor of the starting scene; `entropy` is the seed where the settings give none. -/
def start (settings : Settings) (entropy : UInt64) : Outcome Editor Unit :=
  (Board.startingScene (settings.seed.getD entropy)).mapState ofBoard

def tick (e : Editor) : Outcome Editor TickReport :=
  ⟨⟨e.bench.withBoard e.bench.board.tick, e.ticks + 1⟩, e.bench.board.tickReport,
    e.bench.board.tickNotices⟩

def repairNotices (ticks : Nat) (report : TickReport) : List Notice :=
  if 0 < report.repaired then [.tickRepaired ticks report.repaired report.perceptrons] else []

/-- One frame without painting; answers whether to go on. -/
def step (e : Editor) (events : List Event) : Outcome Editor Bool :=
  (e.bench.handleAll events).andThen fun bench reactions =>
    (tick ⟨bench, e.ticks⟩).andThen fun next report =>
      ⟨next, !reactions.contains .quit, repairNotices next.ticks report⟩

/-- The events of a frame; a window that is about to close comes last. -/
def frameEvents (raw : List RawEvent) (closing : Bool) : List Event :=
  raw.filterMap RawEvent.toEvent? ++ if closing then [.quit] else []

/-- One frame on a screen; answers with what is painted. -/
def frame (e : Editor) (screen : Rect) (raw : List RawEvent) (closing : Bool) :
    Outcome Editor (List Shape) :=
  (e.step (frameEvents raw closing)).andThen fun next running =>
    ⟨next, Paint.ground screen :: Paint.scene screen next.bench,
      if running then [] else [.quit next.ticks]⟩

end Editor

end SignalBoard
