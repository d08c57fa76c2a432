import SignalBoard.Notice

/-!
# Outcomes

An operation answers with an `Outcome`: the state after it, its answer and the notices it gave, in
order.  `Outcome.andThen` runs a second operation from the state that the first one left.
-/

namespace SignalBoard

set_option autoImplicit false

/-- The state after an operation, what it answered and what it reported. -/
structure Outcome (σ α : Type) where
  state : σ
  answer : α
  notices : List Notice

namespace Outcome

variable {σ τ α β : Type}

def quiet (state : σ) (answer : α) : Outcome σ α := ⟨state, answer, []⟩

def mapAnswer (f : α → β) (o : Outcome σ α) : Outcome σ β := ⟨o.state, f o.answer, o.notices⟩

def mapState (f : σ → τ) (o : Outcome σ α) : Outcome τ α := ⟨f o.state, o.answer, o.notices⟩

/-- The same outcome with further notices after its own. -/
def report (o : Outcome σ α) (more : List Notice) : Outcome σ α :=
  ⟨o.state, o.answer, o.notices ++ more⟩

/-- Goes on with `f` from the state and the answer of `o`. -/
def andThen (o : Outcome σ α) (f : σ → α → Outcome τ β) : Outcome τ β :=
  let next := f o.state o.answer
  ⟨next.state, next.answer, o.notices ++ next.notices⟩

@[simp] theorem state_quiet (s : σ) (a : α) : (quiet s a).state = s := rfl
@[simp] theorem answer_quiet (s : σ) (a : α) : (quiet s a).answer = a := rfl
@[simp] theorem notices_quiet (s : σ) (a : α) : (quiet s a).notices = [] := rfl

@[simp] theorem state_mapAnswer (f : α → β) (o : Outcome σ α) :
    (o.mapAnswer f).state = o.state := rfl
@[simp] theorem answer_mapAnswer (f : α → β) (o : Outcome σ α) :
    (o.mapAnswer f).answer = f o.answer := rfl
@[simp] theorem notices_mapAnswer (f : α → β) (o : Outcome σ α) :
    (o.mapAnswer f).notices = o.notices := rfl

@[simp] theorem state_mapState (f : σ → τ) (o : Outcome σ α) :
    (o.mapState f).state = f o.state := rfl
@[simp] theorem answer_mapState (f : σ → τ) (o : Outcome σ α) :
    (o.mapState f).answer = o.answer := rfl
@[simp] theorem notices_mapState (f : σ → τ) (o : Outcome σ α) :
    (o.mapState f).notices = o.notices := rfl

@[simp] theorem state_report (o : Outcome σ α) (more : List Notice) :
    (o.report more).state = o.state := rfl
@[simp] theorem answer_report (o : Outcome σ α) (more : List Notice) :
    (o.report more).answer = o.answer := rfl

@[simp] theorem state_andThen (o : Outcome σ α) (f : σ → α → Outcome τ β) :
    (o.andThen f).state = (f o.state o.answer).state := rfl
@[simp] theorem answer_andThen (o : Outcome σ α) (f : σ → α → Outcome τ β) :
    (o.andThen f).answer = (f o.state o.answer).answer := rfl
@[simp] theorem notices_andThen (o : Outcome σ α) (f : σ → α → Outcome τ β) :
    (o.andThen f).notices = o.notices ++ (f o.state o.answer).notices := rfl

end Outcome

end SignalBoard
