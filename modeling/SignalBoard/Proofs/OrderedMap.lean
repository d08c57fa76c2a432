import Mathlib.Data.Finmap
import SignalBoard.Proofs.Undoing

/-! # The table of wires as an ordered map

A table of wires serves requests as a finite map from sockets to sources does
(`WireTable.serves_as_ordered_map`).  A table and a map that agree on every socket answer a request
alike and agree afterwards (`WireTable.Refines.serve`), whatever was asked before.

The order of the wires is not in the map.  It is in the requests: the wires stand in the order in
which their sockets were last bound (`BoundBefore`).  So the induction is on the last request, which
moves nothing but the socket that it binds. -/

namespace SignalBoard

set_option autoImplicit false

/-! ## Requests -/

/-- What is asked of a table of wires. -/
inductive Request
  | upsert (wire : Wire)
  | remove (socket : Socket)
  | get (socket : Socket)

/-- The answers to requests that are served one after the other, and what is left at the end. -/
def serveAll {σ : Type} (serve : σ → Request → Option Wire × σ) :
    σ → List Request → List (Option Wire) × σ
  | s, [] => ([], s)
  | s, r :: rs =>
    let served := serve s r
    let rest := serveAll serve served.2 rs
    (served.1 :: rest.1, rest.2)

theorem serveAll_append {σ : Type} (serve : σ → Request → Option Wire × σ) (s : σ)
    (rs rs' : List Request) :
    serveAll serve s (rs ++ rs') =
      ((serveAll serve s rs).1 ++ (serveAll serve (serveAll serve s rs).2 rs').1,
        (serveAll serve (serveAll serve s rs).2 rs').2) := by
  induction rs generalizing s with
  | nil => rfl
  | cons r rs ih =>
    rw [List.cons_append, serveAll, ih]
    rfl

/-- A finite map from sockets to sources. -/
abbrev Bindings := Finmap fun _ : Socket => NodeId

namespace Bindings

/-- The wire from the source that is bound to the socket. -/
def wire? (m : Bindings) (socket : Socket) : Option Wire :=
  (m.lookup socket).map (Wire.mk · socket)

def serve (m : Bindings) : Request → Option Wire × Bindings
  | .upsert w => (m.wire? w.socket, m.insert w.socket w.source)
  | .remove socket => (m.wire? socket, m.erase socket)
  | .get socket => (m.wire? socket, m)

theorem wire?_eq_none_iff {m : Bindings} {socket : Socket} : m.wire? socket = none ↔ socket ∉ m :=
  Option.map_eq_none_iff.trans Finmap.lookup_eq_none

/-- The map after the requests. -/
def after (requests : List Request) : Bindings := (serveAll serve ∅ requests).2

theorem after_append_singleton (requests : List Request) (r : Request) :
    after (requests ++ [r]) = ((after requests).serve r).2 := by
  rw [after, serveAll_append]
  rfl

end Bindings

namespace WireTable

def serve (t : WireTable) : Request → Option Wire × WireTable
  | .upsert w => t.upsert w
  | .remove socket => t.remove socket
  | .get socket => (t.get? socket, t)

/-- The table after the requests. -/
def after (requests : List Request) : WireTable := (serveAll serve .empty requests).2

theorem after_append_singleton (requests : List Request) (r : Request) :
    after (requests ++ [r]) = ((after requests).serve r).2 := by
  rw [after, serveAll_append]
  rfl

/-! ## The answers -/

def Refines (t : WireTable) (m : Bindings) : Prop := ∀ socket, t.get? socket = m.wire? socket

theorem refines_empty : Refines .empty ∅ := fun _ => rfl

theorem Refines.insert {t : WireTable} {m : Bindings} (h : t.Refines m) (w : Wire) :
    (t.insert w).Refines (m.insert w.socket w.source) := by
  intro socket
  rw [get?_insert]
  by_cases hsocket : socket = w.socket
  · rw [if_pos hsocket, hsocket, Bindings.wire?, Finmap.lookup_insert]
    rfl
  · rw [if_neg hsocket, h socket, Bindings.wire?, Bindings.wire?,
      Finmap.lookup_insert_of_ne m hsocket]

theorem Refines.erase {t : WireTable} {m : Bindings} (h : t.Refines m) (s : Socket) :
    (t.erase s).Refines (m.erase s) := by
  intro socket
  rw [get?_erase]
  by_cases hsocket : socket = s
  · rw [if_pos hsocket, hsocket, Bindings.wire?, Finmap.lookup_erase]
    rfl
  · rw [if_neg hsocket, h socket, Bindings.wire?, Bindings.wire?, Finmap.lookup_erase_ne hsocket]

/-- A request is answered alike by a table and by its map, and the two agree afterwards. -/
theorem Refines.serve {t : WireTable} {m : Bindings} (h : t.Refines m) (r : Request) :
    (t.serve r).1 = (m.serve r).1 ∧ (t.serve r).2.Refines (m.serve r).2 := by
  cases r with
  | upsert w => exact ⟨h w.socket, h.insert w⟩
  | remove socket => exact ⟨h socket, h.erase socket⟩
  | get socket => exact ⟨h socket, h⟩

theorem Refines.serveAll {t : WireTable} {m : Bindings} (h : t.Refines m)
    (requests : List Request) :
    (SignalBoard.serveAll WireTable.serve t requests).1 =
        (SignalBoard.serveAll Bindings.serve m requests).1 ∧
      (SignalBoard.serveAll WireTable.serve t requests).2.Refines
        (SignalBoard.serveAll Bindings.serve m requests).2 := by
  induction requests generalizing t m with
  | nil => exact ⟨rfl, h⟩
  | cons r requests ih =>
    obtain ⟨hanswer, hnext⟩ := h.serve r
    obtain ⟨hanswers, hlast⟩ := ih hnext
    exact ⟨congrArg₂ List.cons hanswer hanswers, hlast⟩

theorem refines_after (requests : List Request) :
    (after requests).Refines (Bindings.after requests) :=
  (refines_empty.serveAll requests).2

theorem Refines.mem_sockets_iff {t : WireTable} {m : Bindings} (h : t.Refines m)
    {socket : Socket} : socket ∈ t.sockets ↔ socket ∈ m := by
  rw [← get?_ne_none_iff, h socket, Ne, Bindings.wire?_eq_none_iff, not_not]

theorem Refines.mem_toList_iff {t : WireTable} {m : Bindings} (h : t.Refines m) {w : Wire} :
    w ∈ t.toList ↔ m.lookup w.socket = some w.source := by
  have hlookup : t.get? w.socket = some w ↔ m.lookup w.socket = some w.source := by
    rw [h w.socket, Bindings.wire?, Option.map_eq_some_iff]
    constructor
    · rintro ⟨source, hsource, hwire⟩
      rw [hsource, ← hwire]
    · exact fun hsource => ⟨w.source, hsource, rfl⟩
  rw [← hlookup]
  exact ⟨get?_of_mem, List.mem_of_find?_eq_some⟩

theorem Refines.size_eq {t : WireTable} {m : Bindings} (h : t.Refines m) :
    t.size = m.keys.card := by
  have hkeys : m.keys = t.sockets.toFinset := by
    ext socket
    rw [Finmap.mem_keys, List.mem_toFinset, h.mem_sockets_iff]
  have hdistinct : t.sockets.Nodup := t.distinct
  rw [hkeys, List.toFinset_card_of_nodup hdistinct, sockets, List.length_map, size]

theorem isEmpty_iff {t : WireTable} : t.isEmpty = true ↔ t.size = 0 := by
  rw [isEmpty, size, List.isEmpty_iff, List.length_eq_zero_iff]

end WireTable

/-! ## The order -/

/-- Request number `k` binds the socket, which was not bound before it. -/
def Binds (requests : List Request) (k : Nat) (socket : Socket) : Prop :=
  socket ∉ Bindings.after (requests.take k) ∧ socket ∈ Bindings.after (requests.take (k + 1))

def LastBinds (requests : List Request) (k : Nat) (socket : Socket) : Prop :=
  Binds requests k socket ∧ ∀ j, Binds requests j socket → j ≤ k

/-- The last time that `s` went from unbound to bound was before the last time that `s'` did. -/
def BoundBefore (requests : List Request) (s s' : Socket) : Prop :=
  ∃ j k, LastBinds requests j s ∧ LastBinds requests k s' ∧ j < k

theorem Binds.lt_length {requests : List Request} {k : Nat} {socket : Socket}
    (h : Binds requests k socket) : k < requests.length := by
  by_contra hk
  have hall : requests.take k = requests.take (k + 1) := by
    rw [List.take_of_length_le (Nat.le_of_not_lt hk), List.take_of_length_le (by omega)]
  exact h.1 (hall ▸ h.2)

/-- One request more changes nothing about when the earlier ones bound what. -/
theorem binds_append_singleton_iff {requests : List Request} {r : Request} {k : Nat}
    {socket : Socket} :
    Binds (requests ++ [r]) k socket ↔ Binds requests k socket ∨
      k = requests.length ∧ socket ∉ Bindings.after requests ∧
        socket ∈ Bindings.after (requests ++ [r]) := by
  have hlength : (requests ++ [r]).length = requests.length + 1 := List.length_append
  obtain hlt | rfl | hgt := Nat.lt_trichotomy k requests.length
  · have hsame : Binds (requests ++ [r]) k socket ↔ Binds requests k socket := by
      rw [Binds, Binds, List.take_append_of_le_length hlt.le, List.take_append_of_le_length hlt]
    rw [hsame]
    exact ⟨.inl, fun h => h.resolve_right fun hlast => hlt.ne hlast.1⟩
  · have hlast : Binds (requests ++ [r]) requests.length socket ↔
        socket ∉ Bindings.after requests ∧ socket ∈ Bindings.after (requests ++ [r]) := by
      rw [Binds, List.take_left, List.take_of_length_le hlength.le]
    rw [hlast]
    exact ⟨fun h => .inr ⟨rfl, h⟩, fun h => (h.resolve_left fun hb => hb.lt_length.false).2⟩
  · constructor
    · intro h
      have hlt := h.lt_length
      omega
    · rintro (h | h)
      · exact absurd h.lt_length hgt.asymm
      · exact absurd h.1 hgt.ne'

/-- A socket that stays bound was last bound when it was. -/
theorem LastBinds.append {requests : List Request} {k : Nat} {socket : Socket}
    (h : LastBinds requests k socket) (hbound : socket ∈ Bindings.after requests) (r : Request) :
    LastBinds (requests ++ [r]) k socket := by
  refine ⟨binds_append_singleton_iff.2 (.inl h.1), fun j hj => ?_⟩
  obtain hj | ⟨-, hfree, -⟩ := binds_append_singleton_iff.1 hj
  · exact h.2 j hj
  · exact absurd hbound hfree

theorem lastBinds_length {requests : List Request} {r : Request} {socket : Socket}
    (hfree : socket ∉ Bindings.after requests)
    (hbound : socket ∈ Bindings.after (requests ++ [r])) :
    LastBinds (requests ++ [r]) requests.length socket := by
  refine ⟨binds_append_singleton_iff.2 (.inr ⟨rfl, hfree, hbound⟩), fun j hj => ?_⟩
  obtain hj | ⟨hj, -⟩ := binds_append_singleton_iff.1 hj
  · exact hj.lt_length.le
  · exact hj.le

theorem exists_lastBinds {requests : List Request} {socket : Socket}
    (hbound : socket ∈ Bindings.after requests) : ∃ k, LastBinds requests k socket := by
  induction requests using List.reverseRecOn with
  | nil => exact absurd hbound Finmap.notMem_empty
  | append_singleton requests r ih =>
    by_cases hbefore : socket ∈ Bindings.after requests
    · obtain ⟨k, hk⟩ := ih hbefore
      exact ⟨k, hk.append hbefore r⟩
    · exact ⟨requests.length, lastBinds_length hbefore hbound⟩

theorem BoundBefore.append {requests : List Request} {s s' : Socket}
    (h : BoundBefore requests s s') (hs : s ∈ Bindings.after requests)
    (hs' : s' ∈ Bindings.after requests) (r : Request) : BoundBefore (requests ++ [r]) s s' := by
  obtain ⟨j, k, hj, hk, hlt⟩ := h
  exact ⟨j, k, hj.append hs r, hk.append hs' r, hlt⟩

/-- Whatever is bound already was bound before what the last request binds. -/
theorem boundBefore_last {requests : List Request} {r : Request} {s s' : Socket}
    (hs : s ∈ Bindings.after requests) (hfree : s' ∉ Bindings.after requests)
    (hbound : s' ∈ Bindings.after (requests ++ [r])) : BoundBefore (requests ++ [r]) s s' := by
  obtain ⟨k, hk⟩ := exists_lastBinds hs
  exact ⟨k, requests.length, hk.append hs r, lastBinds_length hfree hbound, hk.1.lt_length⟩

namespace WireTable

/-- The wires stand in the order in which their sockets were last bound. -/
theorem pairwise_boundBefore (requests : List Request) :
    (after requests).sockets.Pairwise (BoundBefore requests) := by
  induction requests using List.reverseRecOn with
  | nil => exact List.Pairwise.nil
  | append_singleton requests r ih =>
    have hrefines := refines_after requests
    have hkept : (after requests).sockets.Pairwise (BoundBefore (requests ++ [r])) :=
      ih.imp_of_mem fun hs hs' h =>
        h.append (hrefines.mem_sockets_iff.1 hs) (hrefines.mem_sockets_iff.1 hs') r
    rw [after_append_singleton]
    cases r with
    | get socket => exact hkept
    | remove socket => exact hkept.sublist (List.filter_sublist.map Wire.socket)
    | upsert w =>
      show ((after requests).insert w).sockets.Pairwise _
      by_cases hheld : (after requests).get? w.socket = none
      · rw [sockets, toList_insert_of_free hheld, List.map_append, List.map_singleton,
          List.pairwise_append]
        refine ⟨hkept, List.pairwise_singleton _ _, fun s hs s' hs' => ?_⟩
        rw [List.mem_singleton.1 hs']
        refine boundBefore_last (hrefines.mem_sockets_iff.1 hs) ?_ ?_
        · rwa [hrefines w.socket, Bindings.wire?_eq_none_iff] at hheld
        · rw [Bindings.after_append_singleton]
          exact Finmap.mem_insert.2 (.inl rfl)
      · rw [sockets, toList_insert_of_held hheld, map_socket_replace]
        exact hkept

/-- A table that serves any requests from the start answers as a map from sockets to sources, holds
just the wires of this map, and keeps them in the order in which their sockets were last bound: a
wire that replaces another is where the other was, and one that is removed and comes back is the
last one. -/
theorem serves_as_ordered_map (requests : List Request) :
    (serveAll serve .empty requests).1 = (serveAll Bindings.serve ∅ requests).1 ∧
      let table := (serveAll serve .empty requests).2
      let map := (serveAll Bindings.serve ∅ requests).2
      (∀ socket, table.get? socket = (map.lookup socket).map (Wire.mk · socket)) ∧
      table.size = map.keys.card ∧
      (table.isEmpty = true ↔ map.keys.card = 0) ∧
      (∀ w, w ∈ table.toList ↔ map.lookup w.socket = some w.source) ∧
      table.sockets.Nodup ∧
      table.sockets.Pairwise (BoundBefore requests) ∧
      ∀ i w, table.sockets[i]? = some w.socket →
        (table.upsert w).2.toList = table.toList.set i w ∧
        ((table.remove w.socket).2.upsert w).2.toList = table.toList.eraseIdx i ++ [w] := by
  obtain ⟨hanswers, hrefines⟩ := refines_empty.serveAll requests
  refine ⟨hanswers, hrefines, hrefines.size_eq, ?_, fun _ => hrefines.mem_toList_iff,
    distinct _, pairwise_boundBefore requests, fun i w hplace => ⟨toList_insert_eq_set hplace, ?_⟩⟩
  · rw [isEmpty_iff, hrefines.size_eq]
  · rw [← toList_erase_eq_eraseIdx hplace]
    exact toList_insert_erase _ w

/-- The first socket is bound twice and freed in between, the second is bound once and replaced. -/
example : (after [.upsert ⟨0, ⟨5, 0⟩⟩, .upsert ⟨1, ⟨5, 1⟩⟩, .upsert ⟨2, ⟨5, 1⟩⟩, .remove ⟨5, 0⟩,
    .upsert ⟨3, ⟨5, 0⟩⟩]).toList = [⟨2, ⟨5, 1⟩⟩, ⟨3, ⟨5, 0⟩⟩] := by
  decide

end WireTable

end SignalBoard
