import SignalBoard.Proofs.Gestures
import SignalBoard.Proofs.ExactSums

/-! # Dragging on the grid

A node that is carried takes its size from its corners as they were rounded, and its new corners
are rounded from that size (`Node.moveTo`).  While the pointer keeps to whole steps of 1/1024 on
the canvas nothing is rounded: a node keeps the size it was made with, and its bounds are the
rectangle of that size at its corner, whatever way it was carried there
(`Workbench.size_kept_on_grid`).

The invariant is that every side of the node lies on the grid (`Rect.Fits`) and that the pointer
holds the node at a point of its body, so that no drag carries a corner further off the canvas than
the node is long (`Workbench.Keeps`).

Off the grid the size changes with the corners, and a node that is carried back does not find its
first bounds again (`Workbench.size_lost_off_grid`). -/

namespace SignalBoard

set_option autoImplicit false

open Binary32

/-- The point lies on the grid and on the canvas. -/
def Point.OnGrid (p : Point) : Prop := Within p.x (-10000) 10000 ∧ Within p.y (-10000) 10000

theorem Point.onGrid_of_eq_quarters (i j : ℤ) {p : Point} (hp : p = ⟨quarters i, quarters j⟩)
    (hbounds : i.natAbs ≤ 40000 ∧ j.natAbs ≤ 40000) : p.OnGrid := by
  subst hp
  exact ⟨within_of_eq_quarters i rfl (by omega), within_of_eq_quarters j rfl (by omega)⟩

/-- The offset is on the grid and reaches no further than the longest body. -/
def Offset.IsGrip (grip : Offset) : Prop := Within grip.dx 0 80 ∧ Within grip.dy 0 80

/-! ## One side -/

/-- A side that lies on the grid, where a drag can leave it. -/
structure Spans (low high side : Float32) : Prop where
  low_within : Within low (-10080) 10000
  side_within : Within side 1 80
  high_eq : high = low + side

theorem Spans.sub_eq {low high side : Float32} (h : Spans low high side) : high - low = side := by
  rw [h.high_eq]
  exact h.low_within.add_sub_cancel h.side_within (by decide) (by decide) (by decide) (by decide)

/-- A point of a side is no further from its lower end than the side is long. -/
theorem Spans.within_grip {low high side pos : Float32} (h : Spans low high side)
    (hpos : Within pos (-10000) 10000) (hlow : low ≤ pos) (hhigh : pos ≤ high) :
    Within (pos - low) 0 80 := by
  obtain ⟨i, hi, hmin, hmax⟩ := h.low_within
  obtain ⟨j, hj, hpositive, hside⟩ := h.side_within
  obtain ⟨k, hk, hleft, hright⟩ := hpos
  have hsum : IsSteps high (i + j) := by
    rw [h.high_eq]
    exact hi.add hj (by omega)
  have hbelow : i ≤ k := hi.le hk hlow
  have habove : k ≤ i + j := hk.le hsum hhigh
  exact ⟨k - i, hk.sub hi (by omega), by omega, by omega⟩

/-- The side of a light, which is made around its centre. -/
theorem spans_of_center {center : Float32} (hcenter : Within center (-10000) 10000) :
    Spans (center - 20) (center + 20) 40 := by
  obtain ⟨k, hk, hmin, hmax⟩ := hcenter
  have htwenty : IsSteps 20 20480 := isSteps_of_eq_quarters 80 (by decide +kernel) (by decide)
  have hforty : IsSteps 40 40960 := isSteps_of_eq_quarters 160 (by decide +kernel) (by decide)
  have hlow : IsSteps (center - 20) (k - 20480) := hk.sub htwenty (by omega)
  have hhigh : IsSteps (center + 20) (k + 20480) := hk.add htwenty (by omega)
  have hsum : IsSteps (center - 20 + 40) (k - 20480 + 40960) := hlow.add hforty (by omega)
  rw [show k - 20480 + 40960 = k + 20480 by omega] at hsum
  refine ⟨⟨_, hlow, by omega, by omega⟩, ⟨_, hforty, by decide, by decide⟩, ?_⟩
  by_cases hzero : k = -20480
  · -- a zero has two signs, so here the sums are looked at themselves
    subst hzero
    have hback : IsSteps (-20) (-20480) :=
      isSteps_of_eq_quarters (-80) (by decide +kernel) (by decide)
    rw [hk.eq hback (by decide)]
    decide +kernel
  · exact hhigh.eq hsum (by omega)

/-! ## Bodies -/

/-- The rectangle has its sides on the grid and this size. -/
structure Rect.Fits (r : Rect) (size : Offset) : Prop where
  horizontal : Spans r.min.x r.max.x size.dx
  vertical : Spans r.min.y r.max.y size.dy

namespace Rect

theorem Fits.size_eq {r : Rect} {size : Offset} (h : r.Fits size) : r.size = size := by
  have hx := h.horizontal.sub_eq
  have hy := h.vertical.sub_eq
  cases size
  exact congrArg₂ Offset.mk hx hy

theorem Fits.eq_ofMinSize {r : Rect} {size : Offset} (h : r.Fits size) :
    r = .ofMinSize r.min size := by
  have hx := h.horizontal.high_eq
  have hy := h.vertical.high_eq
  cases r
  exact congrArg (Rect.mk _) (congrArg₂ Point.mk hx hy)

theorem fits_ofMinSize {corner : Point} {size : Offset} (hcorner : corner.OnGrid)
    (hwidth : Within size.dx 1 80) (hheight : Within size.dy 1 80) :
    (ofMinSize corner size).Fits size := by
  have hlow {x : Float32} (hx : Within x (-10000) 10000) : Within x (-10080) 10000 :=
    hx.mono (by decide) (by decide)
  exact ⟨⟨hlow hcorner.1, hwidth, rfl⟩, ⟨hlow hcorner.2, hheight, rfl⟩⟩

theorem fits_ofCenterSize {center : Point} (hcenter : center.OnGrid) :
    (ofCenterSize center (.square (Light.radius * 2))).Fits (.square 40) := by
  have hhalf : (Offset.square (Light.radius * 2)).half = .square 20 := by decide +kernel
  rw [ofCenterSize, hhalf]
  exact ⟨spans_of_center hcenter.1, spans_of_center hcenter.2⟩

/-- A rectangle that is carried by a point of its own to a point of the grid goes on fitting. -/
theorem Fits.carry {r : Rect} {size grip : Offset} (h : r.Fits size) {pos : Point}
    (hpos : pos.OnGrid) (hgrip : grip.IsGrip) : (ofMinSize (pos - grip) r.size).Fits size := by
  have hlow {x held : Float32} (hx : Within x (-10000) 10000) (hheld : Within held 0 80) :
      Within (x - held) (-10080) 10000 :=
    (hx.sub hheld (by decide) (by decide)).mono (by decide) (by decide)
  rw [h.size_eq]
  exact ⟨⟨hlow hpos.1 hgrip.1, h.horizontal.side_within, rfl⟩,
    ⟨hlow hpos.2 hgrip.2, h.vertical.side_within, rfl⟩⟩

theorem Fits.isGrip {r : Rect} {size : Offset} (h : r.Fits size) {pos : Point}
    (hpos : pos.OnGrid) (hcontains : r.contains pos = true) : (pos - r.min).IsGrip := by
  simp only [contains, Bool.and_eq_true, decide_eq_true_eq] at hcontains
  obtain ⟨⟨⟨hleft, hright⟩, htop⟩, hbottom⟩ := hcontains
  exact ⟨h.horizontal.within_grip hpos.1 hleft hright, h.vertical.within_grip hpos.2 htop hbottom⟩

end Rect

theorem Node.contains_of_regionAt? {n : Node} {pos : Point} (h : n.regionAt? pos = some .body) :
    n.bounds.contains pos = true := by
  rcases cases_of_orElse h with hbutton | h
  · rcases buttonAt?_cases hbutton with hgrow | hshrink
    · cases hgrow
    · cases hshrink
  rcases cases_of_orElse h with hpin | h
  · rcases pinAt?_cases hpin with ⟨houtput, -⟩ | ⟨index, hinput⟩
    · cases houtput
    · cases hinput
  rcases cases_of_orElse h with htoggle | h
  · cases (toggleAt?_cases htoggle).1
  by_cases hcontains : n.bounds.contains pos = true
  · exact hcontains
  · rw [if_neg hcontains] at h
    cases h

/-! ## Making a node -/

/-- The point at which a command puts a new node: its corner, or the centre of a light. -/
def Command.place? : Command → Option Point
  | .addSwitch corner => some corner
  | .addLight center => some center
  | .addPerceptron corner .. => some corner
  | _ => none

/-- The point at which a command lets the pointer take hold of a node or carry one. -/
def Command.point? : Command → Option Point
  | .handle (.press _ pos) => some pos
  | .handle (.move pos) => some pos
  | _ => none

namespace Workbench

theorem fits_of_place {w : Workbench} {make : Command} {place : Point}
    (hmake : make.place? = some place) (hplace : place.OnGrid) {n : Node}
    (hn : (w.obey make).state.board.node? w.board.size = some n) :
    ∃ size, n.bounds.Fits size := by
  have hadded {b : Board} {bounds : Rect} {device : Device}
      (hn : (b.add bounds device).node? b.size = some n) : n.bounds = bounds := by
    rw [Board.node?_add, if_pos rfl] at hn
    rw [← Option.some.inj hn]
    rfl
  cases make with
  | addSwitch corner =>
    cases hmake
    have hside : Within Switch.side 1 80 := within_of_eq_quarters 160 (by decide +kernel) (by decide)
    rw [hadded hn]
    exact ⟨_, Rect.fits_ofMinSize hplace hside hside⟩
  | addLight center =>
    cases hmake
    rw [hadded hn]
    exact ⟨_, Rect.fits_ofCenterSize hplace⟩
  | addPerceptron corner inputs weights? bias? =>
    cases hmake
    change (w.board.addPerceptron place inputs weights? bias?).state.node? _ = _ at hn
    unfold Board.addPerceptron at hn
    cases hmade : (Perceptron.create inputs weights? bias? w.board.sampler).answer with
    | error fault =>
      simp only [hmade, Board.node?_size] at hn
      cases hn
    | ok p =>
      simp only [hmade] at hn
      have hwidth : Within Perceptron.width 1 80 :=
        within_of_eq_quarters 240 (by decide +kernel) (by decide)
      have hheight : Within Perceptron.height 1 80 :=
        within_of_eq_quarters 320 (by decide +kernel) (by decide)
      rw [hadded hn]
      exact ⟨_, Rect.fits_ofMinSize hplace hwidth hheight⟩
  | connect source socket => cases hmake
  | disconnect socket => cases hmake
  | incrementInputs id => cases hmake
  | decrementInputs id => cases hmake
  | tick => cases hmake
  | handle event => cases hmake
  | beginWiring source => cases hmake
  | finishWiring pos => cases hmake
  | removeWire socket => cases hmake

/-! ## Taking hold of a node -/

theorem Pressed.gesture_dragging {w after : Workbench} {pos : Point} {id id' : NodeId} {n : Node}
    {button : Button} {region : Node.Region} {grip : Offset}
    (h : w.Pressed pos id n button region after) (hg : after.gesture = .dragging id' grip) :
    w.gesture = .dragging id' grip ∨
      button = .primary ∧ region = .body ∧ id' = id ∧ grip = pos - n.bounds.min := by
  cases h with
  | drag =>
    cases hg
    exact .inr ⟨rfl, rfl, rfl, rfl⟩
  | draw pin hpin hidle => cases hg
  | grow => exact .inl hg
  | shrink => exact .inl hg
  | busy hbusy => exact .inl hg
  | input index => exact .inl hg
  | flip s hs => exact .inl hg
  | free index => exact .inl hg
  | toggle hswitch => exact .inl hg
  | body hswitch => exact .inl hg

theorem gesture_release_dragging {w : Workbench} {button : Button} {pos : Point} {id : NodeId}
    {grip : Offset} (hg : (w.release button pos).state.gesture = .dragging id grip) :
    w.gesture = .dragging id grip := by
  by_cases hhold : w.gesture.yieldsTo (.handle (.release button pos)) = false
  · rw [← gesture_release hhold]
    exact hg
  · cases hw : w.gesture with
    | idle =>
      rw [hw] at hhold
      exact absurd rfl hhold
    | wiring source start =>
      rw [gesture_release_of_wiring hw] at hg
      cases hg
    | dragging node held =>
      rw [hw] at hhold
      cases button with
      | primary =>
        rw [gesture_release_of_dragging hw] at hg
        cases hg
      | secondary => exact absurd rfl hhold

/-- A drag begins with a primary press on the body of its node, and is the same drag to its end. -/
theorem Coherent.gesture_obey_dragging {w : Workbench} (h : w.Coherent) {command : Command}
    {id : NodeId} {grip : Offset} (hg : (w.obey command).state.gesture = .dragging id grip) :
    w.gesture = .dragging id grip ∨
      ∃ pos n, command = .handle (.press .primary pos) ∧ w.board.node? id = some n ∧
        n.regionAt? pos = some .body ∧ grip = pos - n.bounds.min := by
  cases command with
  | handle event =>
    cases event with
    | press button pos =>
      rcases (w.pointAt pos).press_cases button pos with
        hquiet | ⟨node, n, region, hn, hr, -, hpressed⟩
      · have hsame : (w.obey (.handle (.press button pos))).state.gesture = w.gesture :=
          congrArg (fun o => o.state.gesture) hquiet
        rw [hsame] at hg
        exact .inl hg
      · rcases hpressed.gesture_dragging hg with hsame | ⟨rfl, rfl, rfl, hgrip⟩
        · exact .inl hsame
        · exact .inr ⟨pos, n, rfl, hn, hr, hgrip⟩
    | release button pos => exact .inl (gesture_release_dragging (w := w.pointAt pos) hg)
    | move pos =>
      rw [← h.gesture_move pos]
      exact .inl hg
    | quit => exact .inl hg
  | beginWiring source =>
    change (w.beginWiring source).state.gesture = _ at hg
    unfold Workbench.beginWiring at hg
    cases hstart : w.board.outputPosition? source with
    | none =>
      rw [hstart] at hg
      exact .inl hg
    | some start =>
      rw [hstart] at hg
      cases hg
  | finishWiring pos =>
    rcases w.gesture.isWiring_eq_false_or with hnot | ⟨source, start, hw⟩
    · have hsame : (w.obey (.finishWiring pos)).state.gesture = w.gesture :=
        congrArg (fun o => o.state.gesture) (finishWiring_of_not_wiring hnot pos)
      rw [hsame] at hg
      exact .inl hg
    · have hended : (w.obey (.finishWiring pos)).state.gesture = .idle :=
        gesture_finishWiring hw pos
      rw [hended] at hg
      cases hg
  | addSwitch corner => exact .inl hg
  | addLight center => exact .inl hg
  | addPerceptron corner inputs weights? bias? => exact .inl hg
  | connect source socket => exact .inl hg
  | disconnect socket => exact .inl hg
  | incrementInputs id => exact .inl hg
  | decrementInputs id => exact .inl hg
  | tick => exact .inl hg
  | removeWire socket => exact .inl hg

/-! ## Carrying a node -/

theorem carries?_eq_some {w : Workbench} {id : NodeId} {command : Command} {corner : Point}
    (h : w.carries? id command = some corner) :
    ∃ pos grip, command = .handle (.move pos) ∧ w.gesture = .dragging id grip ∧
      corner = pos - grip := by
  unfold carries? at h
  split at h
  · rename_i pos
    split at h
    · rename_i node grip hg
      split at h
      · rename_i hid
        subst hid
        exact ⟨pos, grip, rfl, hg, (Option.some.inj h).symm⟩
      · cases h
    · cases h
  · cases h

/-- Node `id` has its size on the grid, and a pointer that drags it holds it at its body. -/
structure Keeps (w : Workbench) (id : NodeId) (size : Offset) : Prop where
  body : ∃ n, w.board.node? id = some n ∧ n.bounds.Fits size
  held : ∀ grip, w.gesture = .dragging id grip → grip.IsGrip

theorem Coherent.keeps_obey {w : Workbench} (h : w.Coherent) {id : NodeId} {size : Offset}
    (hkeeps : w.Keeps id size) {command : Command}
    (hpoint : ∀ pos, command.point? = some pos → pos.OnGrid) :
    (w.obey command).state.Keeps id size := by
  obtain ⟨n, hn, hfits⟩ := hkeeps.body
  refine ⟨?_, fun grip hg => ?_⟩
  · -- the bounds change only when the node is carried, and then by the grip of the drag
    cases hcarries : w.carries? id command with
    | none =>
      obtain ⟨n', hn', hsame, -⟩ := h.node?_obey command hn
      refine ⟨n', hn', ?_⟩
      rw [hsame hcarries]
      exact hfits
    | some corner =>
      obtain ⟨pos, grip, rfl, hg, -⟩ := carries?_eq_some hcarries
      have hboard : (w.obey (.handle (.move pos))).state.board =
          w.board.modifyNode id fun n => n.moveTo (pos - grip) :=
        congrArg Workbench.board (handle_move_of_dragging hg hn pos)
      refine ⟨n.moveTo (pos - grip), ?_, hfits.carry (hpoint pos rfl) (hkeeps.held grip hg)⟩
      rw [hboard]
      exact Board.node?_modifyNode_self hn _
  · rcases h.gesture_obey_dragging hg with hsame | ⟨pos, m, rfl, hm, hr, rfl⟩
    · exact hkeeps.held grip hsame
    · obtain rfl : n = m := Option.some.inj (hn.symm.trans hm)
      exact hfits.isGrip (hpoint pos rfl) (Node.contains_of_regionAt? hr)

theorem Coherent.keeps_run {w : Workbench} (h : w.Coherent) (hreach : w.board.Reachable)
    {id : NodeId} {size : Offset} (hkeeps : w.Keeps id size) {commands : List Command}
    (hpoints : ∀ command ∈ commands, ∀ pos, command.point? = some pos → pos.OnGrid) :
    (w.run commands).Keeps id size := by
  induction commands generalizing w with
  | nil => exact hkeeps
  | cons command rest ih =>
    obtain ⟨hfirst, hrest⟩ := List.forall_mem_cons.1 hpoints
    exact ih (h.obey hreach command) (hreach.obey w.gesture w.pointer command)
      (h.keeps_obey hkeeps hfirst) hrest

/-- A new node is not dragged yet. -/
theorem Coherent.keeps_made {w : Workbench} (h : w.Coherent) {make : Command} {place : Point}
    (hmake : make.place? = some place) (hplace : place.OnGrid) {n : Node}
    (hn : (w.obey make).state.board.node? w.board.size = some n) :
    (w.obey make).state.Keeps w.board.size n.bounds.size := by
  obtain ⟨size, hfits⟩ := fits_of_place hmake hplace hn
  refine ⟨⟨n, hn, hfits.size_eq ▸ hfits⟩, fun grip hg => ?_⟩
  rcases h.gesture_obey_dragging hg with hsame | ⟨pos, m, rfl, -⟩
  · obtain ⟨m, hm⟩ := h.dragged hsame
    rw [Board.node?_size] at hm
    cases hm
  · cases hmake

/-- A node that is made on the grid, at any time, keeps its size whatever comes after, as long as
the pointer presses and moves on the grid; so its bounds are the rectangle of that size at its
corner, on whatever way it came there. -/
theorem size_kept_on_grid {w : Workbench} (hreach : w.board.Reachable) (hidle : w.gesture = .idle)
    (before : List Command) {make : Command} {place : Point} (hmake : make.place? = some place)
    (hplace : place.OnGrid) :
    let v := w.run before
    let made := (v.obey make).state
    ∀ n, made.board.node? v.board.size = some n →
      ∀ commands : List Command,
        (∀ command ∈ commands, ∀ pos, command.point? = some pos → pos.OnGrid) →
        ∃ n', (made.run commands).board.node? v.board.size = some n' ∧
          n'.bounds.size = n.bounds.size ∧
          n'.bounds = .ofMinSize n'.bounds.min n.bounds.size := by
  intro v made n hn commands hpoints
  have h : v.Coherent := (coherent_of_idle hidle).run hreach before
  have hreach' : v.board.Reachable := hreach.run before
  have hkeeps : (made.run commands).Keeps v.board.size n.bounds.size :=
    (h.obey hreach' make).keeps_run (hreach'.obey v.gesture v.pointer make)
      (h.keeps_made hmake hplace hn) hpoints
  obtain ⟨n', hn', hfits⟩ := hkeeps.body
  exact ⟨n', hn', hfits.size_eq, hfits.eq_ofMinSize⟩

/-- A press on a body near its corner, and two moves, the second back to where the press was. -/
def carryAndReturn (away : Point) : List Command :=
  [.handle (.press .primary ⟨52, 52⟩), .handle (.move away), .handle (.move ⟨52, 52⟩)]

theorem switchCarried_kept :
    let made := ((ofBoard (.empty 0)).obey (.addSwitch ⟨50, 50⟩)).state
    (Board.empty 0).Reachable ∧
      ∃ n', (made.run (carryAndReturn ⟨90.5, 90.5⟩)).board.node? 0 = some n' ∧
        n'.bounds.size = .square 40 ∧ n'.bounds = .ofMinSize n'.bounds.min (.square 40) := by
  have hcorner : (⟨50, 50⟩ : Point).OnGrid :=
    Point.onGrid_of_eq_quarters 200 200 (by decide +kernel) (by decide)
  have hpress : (⟨52, 52⟩ : Point).OnGrid :=
    Point.onGrid_of_eq_quarters 208 208 (by decide +kernel) (by decide)
  have haway : (⟨90.5, 90.5⟩ : Point).OnGrid :=
    Point.onGrid_of_eq_quarters 362 362 (by decide +kernel) (by decide)
  have hreach : (ofBoard (.empty 0)).board.Reachable := .empty 0
  have hmake : (Command.addSwitch ⟨50, 50⟩).place? = some ⟨50, 50⟩ := rfl
  refine ⟨hreach, size_kept_on_grid hreach rfl [] hmake hcorner _ rfl
    (carryAndReturn ⟨90.5, 90.5⟩) fun command hcommand pos hpos => ?_⟩
  simp only [carryAndReturn, List.mem_cons, List.not_mem_nil, or_false] at hcommand
  rcases hcommand with rfl | rfl | rfl
  · cases hpos
    exact hpress
  · cases hpos
    exact haway
  · cases hpos
    exact hpress

/-- 90.6 is not on the grid: the switch comes back to its corner with another size. -/
theorem size_lost_off_grid :
    let made := ((ofBoard (.empty 0)).obey (.addSwitch ⟨50, 50⟩)).state
    let back := made.run (carryAndReturn ⟨90.6, 52⟩)
    (made.board.node? 0).map Node.bounds = some ⟨⟨50, 50⟩, ⟨90, 90⟩⟩ ∧
      (back.board.node? 0).map Node.bounds = some ⟨⟨50, 50⟩, ⟨.ofBits 0x42b40001, 90⟩⟩ ∧
      (back.board.node? 0).map (fun n => n.bounds.size) ≠
        (made.board.node? 0).map fun n => n.bounds.size := by
  decide +kernel

end Workbench

end SignalBoard
