import Mathlib.Data.List.Basic
import SignalBoard.Workbench

/-! # Presses

A press is offered to the nodes from the top of the board down.  `Workbench.Accepts` says which
nodes would take it and `Workbench.Pressed` what is left when a node does.

An offer that is declined leaves the workbench as it was (`offer_of_not_accepts`), so every node is
offered the press on the workbench that the pointer found, and the scan ends at the topmost node
that accepts (`offerBelow_cases`). -/

namespace SignalBoard

set_option autoImplicit false

/-! ## Regions -/

namespace Node

theorem cases_of_orElse {α : Type} {first second : Option α} {x : α}
    (h : (first <|> second) = some x) : first = some x ∨ second = some x := by
  cases first with
  | none => exact .inr h
  | some y => exact .inl h

theorem regionAt?_cases {n : Node} {pos : Point} {region : Region}
    (h : n.regionAt? pos = some region) :
    n.buttonAt? pos = some region ∨ n.pinAt? pos = some region ∨ n.toggleAt? pos = some region ∨
      region = .body := by
  rcases cases_of_orElse h with hbutton | h
  · exact .inl hbutton
  rcases cases_of_orElse h with hpin | h
  · exact .inr (.inl hpin)
  rcases cases_of_orElse h with htoggle | h
  · exact .inr (.inr (.inl htoggle))
  split at h
  · exact .inr (.inr (.inr (Option.some.inj h).symm))
  · cases h

theorem buttonAt?_cases {n : Node} {pos : Point} {region : Region}
    (h : n.buttonAt? pos = some region) : region = .grow ∨ region = .shrink := by
  unfold buttonAt? at h
  cases hd : n.device with
  | switch s => rw [hd] at h; cases h
  | light l => rw [hd] at h; cases h
  | perceptron p =>
    rw [hd] at h
    simp only at h
    split at h
    · exact .inl (Option.some.inj h).symm
    · split at h
      · exact .inr (Option.some.inj h).symm
      · cases h

theorem pinAt?_cases {n : Node} {pos : Point} {region : Region} (h : n.pinAt? pos = some region) :
    (region = .output ∧ ∃ pin, n.pins.output = some pin) ∨ ∃ index, region = .input index := by
  unfold pinAt? at h
  by_cases hout : n.pins.outputContains pos = true
  · rw [if_pos hout] at h
    unfold Pins.outputContains at hout
    obtain ⟨pin, hpin, -⟩ := (Option.any_eq_true _ _).1 hout
    exact .inl ⟨(Option.some.inj h).symm, pin, hpin⟩
  · rw [if_neg hout] at h
    obtain ⟨index, -, hindex⟩ := Option.map_eq_some_iff.1 h
    exact .inr ⟨index, hindex.symm⟩

theorem toggleAt?_cases {n : Node} {pos : Point} {region : Region}
    (h : n.toggleAt? pos = some region) : region = .toggle ∧ ∃ s, n.device = .switch s := by
  unfold toggleAt? at h
  cases hd : n.device with
  | perceptron p => rw [hd] at h; cases h
  | light l => rw [hd] at h; cases h
  | switch s =>
    rw [hd] at h
    simp only at h
    split at h
    · exact ⟨(Option.some.inj h).symm, s, rfl⟩
    · cases h

theorem output_of_regionAt? {n : Node} {pos : Point} (h : n.regionAt? pos = some .output) :
    ∃ pin, n.pins.output = some pin := by
  rcases regionAt?_cases h with h | h | h | h
  · rcases buttonAt?_cases h with h | h <;> cases h
  · rcases pinAt?_cases h with ⟨-, hpin⟩ | ⟨index, h⟩
    · exact hpin
    · cases h
  · cases (toggleAt?_cases h).1
  · cases h

theorem switch_of_regionAt? {n : Node} {pos : Point} (h : n.regionAt? pos = some .toggle) :
    ∃ s, n.device = .switch s := by
  rcases regionAt?_cases h with h | h | h | h
  · rcases buttonAt?_cases h with h | h <;> cases h
  · rcases pinAt?_cases h with ⟨h, -⟩ | ⟨index, h⟩ <;> cases h
  · exact (toggleAt?_cases h).2
  · cases h

end Node

theorem Board.modifyNode_eq_set {b : Board} {id : NodeId} {n : Node} (hn : b.node? id = some n)
    (f : Node → Node) : b.modifyNode id f = { b with nodes := b.nodes.set id (f n) } := by
  have hid : b.nodes[id]? = some n := hn
  rw [modifyNode, List.modify_eq_set_getElem?, hid]
  rfl

/-! ## Which nodes take a press, and to what effect -/

/-- Whether a node of some kind takes a press on one of its regions. -/
def Takes (gesture : Gesture) (kind : Kind) : Button → Node.Region → Prop
  | .primary, .grow => True
  | .primary, .shrink => True
  | .primary, .output => True
  | .primary, .input _ => gesture.isWiring = false
  | .primary, .toggle => gesture.isWiring = false
  | .primary, .body => gesture = .idle
  | .secondary, .input _ => True
  | .secondary, .toggle => kind = .switch
  | .secondary, .body => kind = .switch
  | .secondary, .grow => False
  | .secondary, .shrink => False
  | .secondary, .output => False

namespace Workbench

/-- Node `id` lies under the pointer with a region that takes the press. -/
def Accepts (w : Workbench) (button : Button) (pos : Point) (id : NodeId) : Prop :=
  ∃ n region, w.board.node? id = some n ∧ n.regionAt? pos = some region ∧
    Takes w.gesture n.device.kind button region

/-- What the workbench becomes when node `n`, whose name is `id`, takes a press on a region. -/
inductive Pressed (w : Workbench) (pos : Point) (id : NodeId) (n : Node) :
    Button → Node.Region → Workbench → Prop
  | grow : Pressed w pos id n .primary .grow (w.withBoard (w.board.incrementInputs id).state)
  | shrink : Pressed w pos id n .primary .shrink (w.withBoard (w.board.decrementInputs id).state)
  | draw (pin : Pin) (hpin : n.pins.output = some pin) (hidle : w.gesture = .idle) :
      Pressed w pos id n .primary .output { w with gesture := .wiring id pin.position }
  | busy (hbusy : w.gesture ≠ .idle) : Pressed w pos id n .primary .output w
  | input (index : Nat) : Pressed w pos id n .primary (.input index) w
  | flip (s : Switch) (hs : n.device = .switch s) :
      Pressed w pos id n .primary .toggle (w.withBoard { w.board with
        nodes := w.board.nodes.set id { n with device := .switch ⟨!s.on⟩ } })
  | drag : Pressed w pos id n .primary .body
      { w with gesture := .dragging id (pos - n.bounds.min) }
  | free (index : Nat) : Pressed w pos id n .secondary (.input index)
      (w.withBoard (w.board.disconnect ⟨id, index⟩).state)
  | toggle (hswitch : n.device.kind = .switch) : Pressed w pos id n .secondary .toggle w
  | body (hswitch : n.device.kind = .switch) : Pressed w pos id n .secondary .body w

/-! ## One offer -/

theorem accepts_iff {w : Workbench} {button : Button} {pos : Point} {id : NodeId} {n : Node}
    {region : Node.Region} (hn : w.board.node? id = some n) (hr : n.regionAt? pos = some region) :
    w.Accepts button pos id ↔ Takes w.gesture n.device.kind button region := by
  constructor
  · rintro ⟨n', region', hn', hr', htakes⟩
    obtain rfl : n = n' := Option.some.inj (hn.symm.trans hn')
    obtain rfl : region = region' := Option.some.inj (hr.symm.trans hr')
    exact htakes
  · exact fun htakes => ⟨n, region, hn, hr, htakes⟩

theorem beginWiring_of_pin {w : Workbench} {id : NodeId} {n : Node} {pin : Pin}
    (hn : w.board.node? id = some n) (hpin : n.pins.output = some pin) :
    w.beginWiring id =
      ⟨{ w with gesture := .wiring id pin.position }, true, [.wiringStarted id]⟩ := by
  have hpos : w.board.outputPosition? id = some pin.position := by
    rw [Board.outputPosition?, hn, Option.bind_some, hpin, Option.map_some]
  rw [beginWiring, hpos]

theorem board_flipSwitch {w : Workbench} {id : NodeId} {n : Node} {s : Switch}
    (hn : w.board.node? id = some n) (hs : n.device = .switch s) :
    (w.flipSwitch id).state = w.withBoard { w.board with
      nodes := w.board.nodes.set id { n with device := .switch ⟨!s.on⟩ } } := by
  unfold flipSwitch
  rw [Board.modifyNode_eq_set hn, Node.mapDevice, hs]
  rfl

theorem primaryPress_of_takes {w : Workbench} {pos : Point} {id : NodeId} {n : Node}
    {region : Node.Region} (hn : w.board.node? id = some n) (hr : n.regionAt? pos = some region)
    (h : Takes w.gesture n.device.kind .primary region) :
    (w.primaryPress pos id region).answer = true ∧
      w.Pressed pos id n .primary region (w.primaryPress pos id region).state := by
  cases region with
  | grow => exact ⟨rfl, .grow⟩
  | shrink => exact ⟨rfl, .shrink⟩
  | output =>
    obtain ⟨pin, hpin⟩ := Node.output_of_regionAt? hr
    rw [primaryPress]
    by_cases hidle : w.gesture = .idle
    · rw [if_pos hidle, beginWiring_of_pin hn hpin]
      exact ⟨rfl, .draw pin hpin hidle⟩
    · rw [if_neg hidle]
      exact ⟨rfl, .busy hidle⟩
  | input index =>
    have hwiring : w.gesture.isWiring = false := h
    rw [primaryPress, hwiring]
    exact ⟨rfl, .input index⟩
  | toggle =>
    have hwiring : w.gesture.isWiring = false := h
    obtain ⟨s, hs⟩ := Node.switch_of_regionAt? hr
    rw [primaryPress, hwiring, if_neg Bool.false_ne_true]
    refine ⟨rfl, ?_⟩
    rw [Outcome.state_mapAnswer, board_flipSwitch hn hs]
    exact .flip s hs
  | body =>
    have hidle : w.gesture = .idle := h
    rw [primaryPress, if_pos hidle, beginDrag, hn]
    exact ⟨rfl, .drag⟩

theorem secondaryPress_of_takes {w : Workbench} {pos : Point} {id : NodeId} {n : Node}
    {region : Node.Region} (hn : w.board.node? id = some n)
    (h : Takes w.gesture n.device.kind .secondary region) :
    (w.secondaryPress id region).answer = true ∧
      w.Pressed pos id n .secondary region (w.secondaryPress id region).state := by
  have hswitch (hkind : n.device.kind = .switch) :
      ((w.board.node? id).any fun n => n.device.kind = .switch) = true := by
    rw [hn]
    exact decide_eq_true hkind
  cases region with
  | grow => exact h.elim
  | shrink => exact h.elim
  | output => exact h.elim
  | input index => exact ⟨rfl, .free index⟩
  | toggle => exact ⟨hswitch h, .toggle h⟩
  | body => exact ⟨hswitch h, .body h⟩

theorem primaryPress_of_not_takes {w : Workbench} {pos : Point} {id : NodeId} {kind : Kind}
    {region : Node.Region} (h : ¬ Takes w.gesture kind .primary region) :
    w.primaryPress pos id region = .quiet w false := by
  cases region with
  | grow => exact absurd trivial h
  | shrink => exact absurd trivial h
  | output => exact absurd trivial h
  | input index =>
    have hwiring : w.gesture.isWiring = true := by simpa [Takes] using h
    rw [primaryPress, hwiring]
    rfl
  | toggle =>
    have hwiring : w.gesture.isWiring = true := by simpa [Takes] using h
    rw [primaryPress, if_pos hwiring]
  | body =>
    have hbusy : w.gesture ≠ .idle := h
    rw [primaryPress, if_neg hbusy]

theorem secondaryPress_of_not_takes {w : Workbench} {id : NodeId} {n : Node} {region : Node.Region}
    (hn : w.board.node? id = some n) (h : ¬ Takes w.gesture n.device.kind .secondary region) :
    w.secondaryPress id region = .quiet w false := by
  have hother (hkind : n.device.kind ≠ .switch) :
      ((w.board.node? id).any fun n => n.device.kind = .switch) = false := by
    rw [hn]
    exact decide_eq_false hkind
  cases region with
  | grow => rfl
  | shrink => rfl
  | output => rfl
  | input index => exact absurd trivial h
  | toggle => exact congrArg (Outcome.quiet w) (hother h)
  | body => exact congrArg (Outcome.quiet w) (hother h)

theorem offer_eq {w : Workbench} {pos : Point} {id : NodeId} {n : Node} {region : Node.Region}
    (hn : w.board.node? id = some n) (hr : n.regionAt? pos = some region) (button : Button) :
    w.offer button pos id =
      match button with
      | .primary => w.primaryPress pos id region
      | .secondary => w.secondaryPress id region := by
  cases button with
  | primary => simp only [offer, hn, Option.bind_some, hr]
  | secondary => simp only [offer, hn, Option.bind_some, hr]

theorem offer_of_accepts {w : Workbench} {button : Button} {pos : Point} {id : NodeId}
    (h : w.Accepts button pos id) :
    (w.offer button pos id).answer = true ∧ ∃ n region, w.board.node? id = some n ∧
      n.regionAt? pos = some region ∧ Takes w.gesture n.device.kind button region ∧
      w.Pressed pos id n button region (w.offer button pos id).state := by
  obtain ⟨n, region, hn, hr, htakes⟩ := h
  have hpress : (w.offer button pos id).answer = true ∧
      w.Pressed pos id n button region (w.offer button pos id).state := by
    rw [offer_eq hn hr]
    cases button with
    | primary => exact primaryPress_of_takes hn hr htakes
    | secondary => exact secondaryPress_of_takes hn htakes
  exact ⟨hpress.1, n, region, hn, hr, htakes, hpress.2⟩

/-- A node that declines a press leaves no trace of it. -/
theorem offer_of_not_accepts {w : Workbench} {button : Button} {pos : Point} {id : NodeId}
    (h : ¬ w.Accepts button pos id) : w.offer button pos id = .quiet w false := by
  cases hn : w.board.node? id with
  | none => rw [offer, hn, Option.bind_none]
  | some n =>
    cases hr : n.regionAt? pos with
    | none => rw [offer, hn, Option.bind_some, hr]
    | some region =>
      rw [accepts_iff hn hr] at h
      rw [offer_eq hn hr]
      cases button with
      | primary => exact primaryPress_of_not_takes h
      | secondary => exact secondaryPress_of_not_takes hn h

/-! ## The scan -/

/-- The scan gives back the workbench as it was, or it is the one offer to the topmost node that
accepts. -/
theorem offerBelow_cases (w : Workbench) (button : Button) (pos : Point) (bound : Nat) :
    ((∀ id < bound, ¬ w.Accepts button pos id) ∧
        w.offerBelow button pos bound = .quiet w false) ∨
      ∃ id < bound, w.Accepts button pos id ∧
        (∀ j < bound, id < j → ¬ w.Accepts button pos j) ∧
        w.offerBelow button pos bound = w.offer button pos id := by
  induction bound with
  | zero => exact .inl ⟨fun _ h => absurd h (Nat.not_lt_zero _), rfl⟩
  | succ k ih =>
    by_cases hk : w.Accepts button pos k
    · have htop : w.offerBelow button pos (k + 1) = w.offer button pos k := by
        have htaken := (offer_of_accepts hk).1
        rw [offerBelow, Outcome.andThen, htaken, if_pos rfl]
        cases hoffer : w.offer button pos k with
        | mk state answer notices =>
          rw [hoffer] at htaken
          cases htaken
          simp [Outcome.quiet]
      refine .inr ⟨k, Nat.lt_succ_self k, hk, fun j hj hkj => ?_, htop⟩
      exact absurd hkj (by omega)
    · have hbelow : w.offerBelow button pos (k + 1) = w.offerBelow button pos k := by
        rw [offerBelow, offer_of_not_accepts hk]
        rfl
      rw [hbelow]
      rcases ih with ⟨hnone, hscan⟩ | ⟨id, hid, hacc, hnone, hscan⟩
      · refine .inl ⟨fun j hj => ?_, hscan⟩
        rcases Nat.lt_succ_iff_lt_or_eq.1 hj with hlt | rfl
        · exact hnone j hlt
        · exact hk
      · refine .inr ⟨id, Nat.lt_succ_of_lt hid, hacc, fun j hj hij => ?_, hscan⟩
        rcases Nat.lt_succ_iff_lt_or_eq.1 hj with hlt | rfl
        · exact hnone j hlt hij
        · exact hk

/-- A press leaves the workbench as it was, or a node that lies under the pointer takes it. -/
theorem press_cases (w : Workbench) (button : Button) (pos : Point) :
    w.press button pos = .quiet w false ∨
      ∃ id n region, w.board.node? id = some n ∧ n.regionAt? pos = some region ∧
        Takes w.gesture n.device.kind button region ∧
        w.Pressed pos id n button region (w.press button pos).state := by
  unfold press
  rcases offerBelow_cases w button pos w.board.size with ⟨-, hscan⟩ | ⟨id, -, hacc, -, hscan⟩
  · exact .inl hscan
  · obtain ⟨-, n, region, hn, hr, htakes, hpressed⟩ := offer_of_accepts hacc
    rw [hscan]
    exact .inr ⟨id, n, region, hn, hr, htakes, hpressed⟩

theorem Accepts.lt_size {w : Workbench} {button : Button} {pos : Point} {id : NodeId}
    (h : w.Accepts button pos id) : id < w.board.size := by
  obtain ⟨n, region, hn, -, -⟩ := h
  exact Board.lt_size_of_node? hn

/-- A press is an offer to the topmost node that accepts it. -/
theorem press_of_topmost {w : Workbench} {button : Button} {pos : Point} {id : NodeId}
    (hacc : w.Accepts button pos id) (htop : ∀ j, id < j → ¬ w.Accepts button pos j) :
    w.press button pos = w.offer button pos id := by
  unfold press
  rcases offerBelow_cases w button pos w.board.size with ⟨hnone, -⟩ | ⟨j, -, hacc', hnone, hscan⟩
  · exact absurd hacc (hnone id hacc.lt_size)
  · rcases Nat.lt_trichotomy j id with hlt | rfl | hgt
    · exact absurd hacc (hnone id hacc.lt_size hlt)
    · exact hscan
    · exact absurd hacc' (htop j hgt)

/-! ## One node at most -/

theorem node?_incrementInputs {b : Board} {id j : NodeId} (hj : j ≠ id) :
    (b.incrementInputs id).state.node? j = b.node? j := by
  unfold Board.incrementInputs
  cases b.perceptron? id with
  | none => rfl
  | some p =>
    simp only
    cases p.grow? b.sampler with
    | none => rfl
    | some grown => exact (Board.node?_modifyNode _ _ _ _).trans (if_neg hj)

theorem node?_decrementInputs {b : Board} {id j : NodeId} (hj : j ≠ id) :
    (b.decrementInputs id).state.node? j = b.node? j := by
  unfold Board.decrementInputs
  cases b.perceptron? id with
  | none => rfl
  | some p =>
    simp only
    cases p.shrink? with
    | none => rfl
    | some shrunk =>
      have hdevice : (b.withDevice id (.perceptron shrunk.1)).node? j = b.node? j :=
        (Board.node?_modifyNode _ _ _ _).trans (if_neg hj)
      simp only
      split
      · exact hdevice
      · exact hdevice

/-- Whatever a press does to a node, it leaves the other nodes alone. -/
theorem Pressed.node?_other {w after : Workbench} {pos : Point} {id : NodeId} {n : Node}
    {button : Button} {region : Node.Region} (h : w.Pressed pos id n button region after)
    {j : NodeId} (hj : j ≠ id) : after.board.node? j = w.board.node? j := by
  cases h with
  | grow => exact node?_incrementInputs hj
  | shrink => exact node?_decrementInputs hj
  | draw pin hpin hidle => rfl
  | busy hbusy => rfl
  | input index => rfl
  | flip s hs => exact List.getElem?_set_ne (Ne.symm hj)
  | drag => rfl
  | free index =>
    exact (Board.node?_modifyNode w.board id _ j).trans (if_neg hj)
  | toggle hswitch => rfl
  | body hswitch => rfl

/-- A press is ignored, and then only the pointer has moved, or it is taken by the topmost node that
accepts it, and its whole effect is the one on that node. -/
theorem handle_press_topmost (w : Workbench) (button : Button) (pos : Point) :
    ((∀ id, ¬ w.Accepts button pos id) ∧
        w.handle (.press button pos) = .quiet (w.pointAt pos) .ignored) ∨
      ∃ id n region, w.board.node? id = some n ∧ n.regionAt? pos = some region ∧
        Takes w.gesture n.device.kind button region ∧
        (∀ j, id < j → ¬ w.Accepts button pos j) ∧
        (w.handle (.press button pos)).answer = .handled ∧
        (w.pointAt pos).Pressed pos id n button region (w.handle (.press button pos)).state ∧
        ∀ j, j ≠ id → (w.handle (.press button pos)).state.board.node? j = w.board.node? j := by
  have hhandle : w.handle (.press button pos) =
      ((w.pointAt pos).offerBelow button pos w.board.size).mapAnswer .ofTaken := rfl
  rw [hhandle]
  rcases offerBelow_cases (w.pointAt pos) button pos w.board.size with
    ⟨hnone, hscan⟩ | ⟨id, -, hacc, hnone, hscan⟩
  · refine .inl ⟨fun id hid => hnone id hid.lt_size hid, ?_⟩
    rw [hscan]
    rfl
  · obtain ⟨htaken, n, region, hn, hr, htakes, hpressed⟩ := offer_of_accepts hacc
    rw [hscan]
    refine .inr ⟨id, n, region, hn, hr, htakes, fun j hj hj' => hnone j hj'.lt_size hj hj', ?_,
      hpressed, fun j hj => hpressed.node?_other hj⟩
    rw [Outcome.answer_mapAnswer, htaken]
    rfl

end Workbench

end SignalBoard
