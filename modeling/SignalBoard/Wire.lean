import SignalBoard.Node.Kind

/-!
# Wires

A wire leads from the output of its `source` to a `Socket`, one input of one node.  A `WireTable`
holds the wires of a board in order and is keyed by socket: no two of its wires end in the same one,
while any number may start at the same source.

`WireTable.insert` puts a wire in the place of the wire that holds its socket, and at the end when
the socket is free; `WireTable.erase` frees a socket and closes the gap.  Both are written by the
socket.  Because the sockets of a table are distinct, each changes one place and no other
(`toList_insert_eq_set`, `toList_erase_eq_eraseIdx`).  Main statements: what `get?` answers after
each (`get?_insert`, `get?_erase`).
-/

namespace SignalBoard

set_option autoImplicit false

/-- Input number `index` of a node. -/
structure Socket where
  node : NodeId
  index : Nat
  deriving DecidableEq

/-- A wire from the output of `source` to `socket`. -/
structure Wire where
  source : NodeId
  socket : Socket
  deriving DecidableEq

/-- Wires in order, at most one to each socket. -/
structure WireTable where
  toList : List Wire
  distinct : (toList.map Wire.socket).Nodup
  deriving DecidableEq

namespace WireTable

@[ext] theorem ext {t u : WireTable} (h : t.toList = u.toList) : t = u := by
  cases t
  cases u
  cases h
  rfl

def empty : WireTable := ⟨[], List.nodup_nil⟩

def size (t : WireTable) : Nat := t.toList.length

def isEmpty (t : WireTable) : Bool := t.toList.isEmpty

def get? (t : WireTable) (socket : Socket) : Option Wire :=
  t.toList.find? fun w => w.socket = socket

/-! ## Changing a table -/

/-- `w` in the place of every wire with its socket. -/
def replace (w : Wire) (ws : List Wire) : List Wire :=
  ws.map fun v => if v.socket = w.socket then w else v

theorem map_socket_replace (w : Wire) (ws : List Wire) :
    (replace w ws).map Wire.socket = ws.map Wire.socket := by
  rw [replace, List.map_map]
  refine List.map_congr_left fun v _ => ?_
  by_cases h : v.socket = w.socket
  · simp [h]
  · simp [h]

theorem get?_eq_none_iff {t : WireTable} {socket : Socket} :
    t.get? socket = none ↔ socket ∉ t.toList.map Wire.socket := by
  simp [get?, List.find?_eq_none]

/-- The table with the wire `w`, in the place of the wire it replaces or else at the end. -/
def insert (t : WireTable) (w : Wire) : WireTable :=
  if h : t.get? w.socket = none then
    ⟨t.toList ++ [w], by
      rw [List.map_append, List.map_singleton, List.nodup_append]
      refine ⟨t.distinct, by simp, ?_⟩
      rintro a ha b hb rfl
      exact get?_eq_none_iff.1 h (List.mem_singleton.1 hb ▸ ha)⟩
  else
    ⟨replace w t.toList, by rw [map_socket_replace]; exact t.distinct⟩

def erase (t : WireTable) (socket : Socket) : WireTable :=
  ⟨t.toList.filter fun w => w.socket ≠ socket,
    (List.Sublist.map Wire.socket List.filter_sublist).nodup t.distinct⟩

def upsert (t : WireTable) (w : Wire) : Option Wire × WireTable := (t.get? w.socket, t.insert w)

def remove (t : WireTable) (socket : Socket) : Option Wire × WireTable :=
  (t.get? socket, t.erase socket)

/-! ## The place of a change -/

def sockets (t : WireTable) : List Socket := t.toList.map Wire.socket

theorem get?_ne_none_iff {t : WireTable} {socket : Socket} :
    t.get? socket ≠ none ↔ socket ∈ t.sockets :=
  (not_congr get?_eq_none_iff).trans Decidable.not_not

/-- The wire at the place of a socket stands between wires to other sockets. -/
theorem exists_split {t : WireTable} {socket : Socket} {i : Nat}
    (h : t.sockets[i]? = some socket) :
    ∃ before v after, t.toList = before ++ v :: after ∧ before.length = i ∧ v.socket = socket ∧
      ∀ w ∈ before ++ after, w.socket ≠ socket := by
  obtain ⟨v, hv, rfl⟩ := Option.map_eq_some_iff.1 (List.getElem?_map.symm.trans h)
  obtain ⟨hlt, hget⟩ := List.getElem?_eq_some_iff.1 hv
  have hsplit : t.toList = t.toList.take i ++ v :: t.toList.drop (i + 1) := by
    rw [← hget, ← List.drop_eq_getElem_cons hlt, List.take_append_drop]
  have hdistinct := t.distinct
  rw [hsplit, List.map_append, List.map_cons, List.nodup_append, List.nodup_cons] at hdistinct
  obtain ⟨-, ⟨hafter, -⟩, hbefore⟩ := hdistinct
  refine ⟨_, v, _, hsplit, List.length_take_of_le (Nat.le_of_lt hlt), rfl, fun w hw => ?_⟩
  rcases List.mem_append.1 hw with hw | hw
  · exact hbefore _ (List.mem_map_of_mem hw) _ List.mem_cons_self
  · exact fun hsocket => hafter (hsocket ▸ List.mem_map_of_mem hw)

theorem replace_of_others {w : Wire} {ws : List Wire} (h : ∀ v ∈ ws, v.socket ≠ w.socket) :
    replace w ws = ws :=
  (List.map_congr_left fun v hv => if_neg (h v hv)).trans (List.map_id ws)

theorem toList_insert_of_free {t : WireTable} {w : Wire} (h : t.get? w.socket = none) :
    (t.insert w).toList = t.toList ++ [w] := by
  unfold insert
  rw [dif_pos h]

theorem toList_insert_of_held {t : WireTable} {w : Wire} (h : t.get? w.socket ≠ none) :
    (t.insert w).toList = replace w t.toList := by
  unfold insert
  rw [dif_neg h]

/-- A wire to a socket that is taken goes where the wire to this socket is. -/
theorem toList_insert_eq_set {t : WireTable} {w : Wire} {i : Nat}
    (h : t.sockets[i]? = some w.socket) : (t.insert w).toList = t.toList.set i w := by
  have hheld : t.get? w.socket ≠ none := get?_ne_none_iff.2 (List.mem_of_getElem? h)
  obtain ⟨before, v, after, hsplit, rfl, hv, hothers⟩ := exists_split h
  have hbefore : replace w before = before :=
    replace_of_others fun u hu => hothers u (List.mem_append_left _ hu)
  have hafter : replace w after = after :=
    replace_of_others fun u hu => hothers u (List.mem_append_right _ hu)
  calc (t.insert w).toList
      = replace w (before ++ v :: after) := by rw [toList_insert_of_held hheld, hsplit]
    _ = replace w before ++ w :: replace w after := by
        rw [replace, List.map_append, List.map_cons, if_pos hv]
        rfl
    _ = before ++ w :: after := by rw [hbefore, hafter]
    _ = t.toList.set before.length w := by
        rw [hsplit, List.set_append_right _ _ (Nat.le_refl _), Nat.sub_self]
        rfl

/-- What is erased is the wire at the place of the socket. -/
theorem toList_erase_eq_eraseIdx {t : WireTable} {socket : Socket} {i : Nat}
    (h : t.sockets[i]? = some socket) : (t.erase socket).toList = t.toList.eraseIdx i := by
  obtain ⟨before, v, after, hsplit, rfl, rfl, hothers⟩ := exists_split h
  calc (t.erase v.socket).toList
      = (before ++ v :: after).filter fun w => w.socket ≠ v.socket := by
        rw [← hsplit]
        rfl
    _ = (before ++ after).filter fun w => w.socket ≠ v.socket := by
        rw [List.filter_append, List.filter_cons_of_neg (by simp), List.filter_append]
    _ = before ++ after := List.filter_eq_self.2 fun w hw => decide_eq_true (hothers w hw)
    _ = t.toList.eraseIdx before.length := by
        rw [hsplit, List.eraseIdx_append_of_length_le (Nat.le_refl _), Nat.sub_self]
        rfl

/-! ## Looking up after a change -/

theorem find?_replace (w : Wire) (ws : List Wire) (socket : Socket) :
    (replace w ws).find? (fun v => v.socket = socket) =
      if socket = w.socket ∧ socket ∈ ws.map Wire.socket then some w
      else ws.find? fun v => v.socket = socket := by
  induction ws with
  | nil => simp [replace]
  | cons v vs ih =>
    rw [replace] at ih ⊢
    rw [List.map_cons, List.find?_cons, List.find?_cons, ih]
    by_cases hv : v.socket = w.socket
    · by_cases hs : socket = w.socket
      · simp [hv, hs]
      · have hs' : ¬ w.socket = socket := fun h => hs h.symm
        simp [hv, hs, hs']
    · by_cases hs : socket = w.socket
      · have hv' : ¬ v.socket = socket := fun h => hv (h.trans hs)
        subst hs
        simp [hv, Ne.symm hv]
      · simp [hv, hs]

/-- After an insertion the socket of the wire holds it, and every other socket what it held. -/
theorem get?_insert (t : WireTable) (w : Wire) (socket : Socket) :
    (t.insert w).get? socket = if socket = w.socket then some w else t.get? socket := by
  unfold insert
  split
  · rename_i h
    by_cases hs : socket = w.socket
    · subst hs
      rw [if_pos rfl]
      rw [get?] at h ⊢
      rw [List.find?_append, h]
      simp
    · have hs' : ¬ w.socket = socket := fun e => hs e.symm
      rw [if_neg hs, get?, List.find?_append]
      simp [get?, hs']
  · rename_i h
    have hmem : w.socket ∈ t.toList.map Wire.socket :=
      Decidable.of_not_not fun hn => h (get?_eq_none_iff.2 hn)
    rw [get?, find?_replace]
    by_cases hs : socket = w.socket
    · subst hs
      rw [if_pos ⟨rfl, hmem⟩, if_pos rfl]
    · rw [if_neg fun e => hs e.1, if_neg hs, get?]

/-- After an erasure the socket is free, and every other socket holds what it held. -/
theorem get?_erase (t : WireTable) (s socket : Socket) :
    (t.erase s).get? socket = if socket = s then none else t.get? socket := by
  rw [get?, get?, erase, List.find?_filter]
  by_cases hs : socket = s
  · subst hs
    rw [if_pos rfl, List.find?_eq_none]
    intro w _
    simp
  · rw [if_neg hs]
    congr 1
    funext w
    by_cases hw : w.socket = socket
    · have : w.socket ≠ s := hw ▸ hs
      simp [hw, hs]
    · simp [hw]

theorem socket_of_get? {t : WireTable} {socket : Socket} {w : Wire} (h : t.get? socket = some w) :
    w.socket = socket := by
  simpa using List.find?_some h

end WireTable

end SignalBoard
