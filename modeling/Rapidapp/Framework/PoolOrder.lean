import Rapidapp.Framework.Walk

/-!
# The order of the entries

`it_cursor_` divides the table of a manager: the entries behind it and the entry it points at with
those that follow (`NetHandlerMgr.Cut`). Where a table that does not rehash puts a new entry is the
library's choice (`place`); the others keep their order. An insertion or a removal leaves every
other entry on its side of the cursor.
-/

namespace Rapidapp

variable {γ : Type}

/-- An entry of a `HandlerPool`. -/
abbrev HandlerPool.Entry := Sigma fun _ : Int => NetPtr

namespace HandlerPool

/-- The entries when the connection under `fd` is `p`. -/
def setEntries (fd : Int) (p : NetPtr) (es : List Entry) : List Entry :=
  es.map fun e => if e.1 = fd then ⟨fd, p⟩ else e

theorem keys_setEntries (fd : Int) (p : NetPtr) (es : List Entry) :
    (setEntries fd p es).keys = es.keys := by
  unfold List.keys setEntries
  rw [List.map_map]
  refine List.map_congr_left fun e _ => ?_
  by_cases he : e.1 = fd <;> simp [he]

theorem nodupKeys_place {es : List Entry} (h : es.NodupKeys) {fd : Int} (hfd : fd ∉ es.keys)
    (place : Nat) (p : NetPtr) :
    List.NodupKeys (es.take place ++ ⟨fd, p⟩ :: es.drop place) := by
  have hperm : (es.take place ++ ⟨fd, p⟩ :: es.drop place).Perm (⟨fd, p⟩ :: es) := by
    have hmiddle : (es.take place ++ ⟨fd, p⟩ :: es.drop place).Perm
        (⟨fd, p⟩ :: (es.take place ++ es.drop place)) := List.perm_middle
    rwa [List.take_append_drop] at hmiddle
  exact (List.perm_nodupKeys hperm).mpr (List.nodupKeys_cons.mpr ⟨hfd, h⟩)

/-- `handler_pool_[fd] = p` in a table that puts a new entry at this place. -/
def insertAt (pool : HandlerPool) (place : Nat) (fd : Int) (p : NetPtr) : HandlerPool :=
  if h : fd ∈ pool then
    ⟨setEntries fd p pool.entries, by
      rw [List.NodupKeys, keys_setEntries]; exact pool.nodupKeys⟩
  else ⟨pool.entries.take place ++ ⟨fd, p⟩ :: pool.entries.drop place,
    nodupKeys_place pool.nodupKeys (fun hmem => h (AList.mem_keys.mpr hmem)) place p⟩

theorem mem_insertAt {pool : HandlerPool} {place : Nat} {fd : Int} {p : NetPtr} {e : Entry} :
    e ∈ (pool.insertAt place fd p).entries ↔ e = ⟨fd, p⟩ ∨ e ∈ pool.entries ∧ e.1 ≠ fd := by
  unfold insertAt
  split
  · next hmem =>
    obtain ⟨q, hq⟩ := List.mem_keys.mp (AList.mem_keys.mp hmem)
    simp only [setEntries, List.mem_map]
    constructor
    · rintro ⟨e', he', rfl⟩
      split_ifs with hfd
      · exact .inl rfl
      · exact .inr ⟨he', hfd⟩
    · rintro (rfl | ⟨he, hfd⟩)
      · exact ⟨⟨fd, q⟩, hq, if_pos rfl⟩
      · exact ⟨e, he, if_neg hfd⟩
  · next hmem =>
    have hne : e ∈ pool.entries → e.1 ≠ fd := by
      rintro he rfl
      exact hmem (AList.mem_keys.mpr (List.mem_keys.mpr ⟨e.2, he⟩))
    have hsplit : e ∈ pool.entries ↔ e ∈ pool.entries.take place ∨ e ∈ pool.entries.drop place := by
      rw [← List.mem_append, List.take_append_drop]
    rw [List.mem_append, List.mem_cons, and_iff_left_of_imp hne, hsplit]
    exact or_left_comm

/-- Wherever the entry is put, what is found under the descriptors is the same. -/
theorem lookup_insertAt (pool : HandlerPool) (place : Nat) (fd : Int) (p : NetPtr) (fd' : Int) :
    (pool.insertAt place fd p).lookup fd' = (pool.insert fd p).lookup fd' := by
  apply Option.ext
  intro q
  rw [← Option.mem_def, ← Option.mem_def, AList.mem_lookup_iff, mem_insertAt]
  by_cases hfd : fd' = fd
  · subst hfd
    simp [eq_comm]
  · rw [AList.lookup_insert_ne hfd, AList.mem_lookup_iff]
    simp [hfd]

end HandlerPool

/-! ## The table on both sides of the cursor -/

namespace NetHandlerMgr

/-- The connections in the pool, in the order of the table. -/
def connections (m : NetHandlerMgr) : List NetPtr := m.handlerPool.entries.map (·.2)

/-- The cursor stands between these parts of the table. -/
structure Cut (m : NetHandlerMgr) (passed ahead : List HandlerPool.Entry) : Prop where
  entries : m.handlerPool.entries = passed ++ ahead
  cursor : m.itCursor = ahead.head?.map (·.1)

variable {m : NetHandlerMgr} {passed ahead : List HandlerPool.Entry}

theorem PointsInside.cut (h : m.PointsInside) : ∃ passed ahead, m.Cut passed ahead := by
  cases hcursor : m.itCursor with
  | none => exact ⟨m.handlerPool.entries, [], (List.append_nil _).symm, hcursor⟩
  | some fd =>
    obtain ⟨p, hp⟩ := List.mem_keys.mp (AList.mem_keys.mp (h fd hcursor))
    obtain ⟨passed, ahead, hentries⟩ := List.append_of_mem hp
    exact ⟨passed, ⟨fd, p⟩ :: ahead, hentries, hcursor⟩

theorem Cut.connections (h : m.Cut passed ahead) :
    m.connections = passed.map (·.2) ++ ahead.map (·.2) := by
  rw [NetHandlerMgr.connections, h.entries, List.map_append]

theorem Cut.pointsInside (h : m.Cut passed ahead) : m.PointsInside := by
  intro fd hfd
  obtain ⟨e, he, rfl⟩ := Option.map_eq_some_iff.mp (h.cursor.symm.trans hfd)
  apply AList.mem_keys.mpr
  rw [AList.keys, h.entries]
  exact List.mem_map_of_mem (List.mem_append_right _ (List.mem_of_mem_head? he))

/-- The keys of the two parts are apart. -/
theorem Cut.keys_disjoint (h : m.Cut passed ahead) {fd : Int} (hp : fd ∈ passed.keys) :
    fd ∉ ahead.keys := by
  have hnodup := m.handlerPool.nodupKeys
  rw [h.entries, List.NodupKeys, List.keys, List.map_append] at hnodup
  exact fun ha => (List.nodup_append.mp hnodup).2.2 fd hp fd ha rfl

theorem Cut.lookup_head {e : HandlerPool.Entry} (h : m.Cut passed (e :: ahead)) :
    m.handlerPool.lookup e.1 = some e.2 := by
  apply AList.mem_lookup_iff.mpr
  rw [h.entries]
  exact List.mem_append_right _ List.mem_cons_self

/-- The entry at the cursor is the first of those ahead. -/
theorem Cut.head_eq (h : m.Cut passed ahead) {fd : Int} (hcursor : m.itCursor = some fd) :
    ∃ p rest, ahead = ⟨fd, p⟩ :: rest ∧ m.handlerPool.lookup fd = some p := by
  cases ahead with
  | nil =>
    have hend := h.cursor
    rw [hcursor] at hend
    cases hend
  | cons e rest =>
    have hkey : some fd = some e.1 := hcursor.symm.trans h.cursor
    obtain rfl := Option.some.inj hkey
    exact ⟨e.2, rest, rfl, h.lookup_head⟩

/-- `++it_cursor_`. -/
theorem Cut.succKey {e : HandlerPool.Entry} (h : m.Cut passed (e :: ahead)) :
    NetHandlerMgr.succKey e.1 m.handlerPool.keys = ahead.head?.map (·.1) := by
  have hkeys : m.handlerPool.keys = passed.keys ++ e.1 :: ahead.keys := by
    rw [AList.keys, h.entries, List.keys, List.map_append]
    rfl
  have hnot : e.1 ∉ passed.keys := fun hp => h.keys_disjoint hp List.mem_cons_self
  rw [hkeys, succKey_append hnot, List.keys, List.head?_map]

theorem Cut.next {e : HandlerPool.Entry} (h : m.Cut passed (e :: ahead)) :
    Cut { m with itCursor := NetHandlerMgr.succKey e.1 m.handlerPool.keys } (passed ++ [e])
      ahead where
  entries := by rw [h.entries, List.append_assoc]; rfl
  cursor := h.succKey

/-- `it_cursor_ = handler_pool_.begin()`. -/
theorem Cut.begin (m : NetHandlerMgr) :
    Cut { m with itCursor := m.handlerPool.keys.head? } [] m.handlerPool.entries where
  entries := rfl
  cursor := by rw [AList.keys, List.keys, List.head?_map]

theorem Cut.eraseEntry (h : m.Cut passed ahead) (heap : Heap γ) (fd : Int) (p : NetPtr) :
    (m.eraseEntry heap fd p).1.Cut (passed.kerase fd) (ahead.kerase fd) where
  entries := by
    show m.handlerPool.entries.kerase fd = passed.kerase fd ++ ahead.kerase fd
    rw [h.entries]
    by_cases hp : fd ∈ passed.keys
    · rw [List.kerase_append_left hp, List.kerase_of_notMem_keys (h.keys_disjoint hp)]
    · rw [List.kerase_append_right hp, List.kerase_of_notMem_keys hp]
  cursor := by
    show (if m.itCursor = some fd then NetHandlerMgr.succKey fd m.handlerPool.keys
      else m.itCursor) = (ahead.kerase fd).head?.map (·.1)
    cases ahead with
    | nil =>
      rw [h.cursor]
      rfl
    | cons e ahead =>
      by_cases hfd : fd = e.1
      · rw [if_pos (by rw [h.cursor, hfd]; rfl), List.kerase_cons_eq hfd, hfd]
        exact h.succKey
      · have hcursor : m.itCursor = some e.1 := h.cursor
        rw [if_neg (by rw [hcursor]; exact fun heq => hfd (Option.some.inj heq).symm),
          List.kerase_cons_ne hfd, hcursor]
        rfl

theorem mem_place {es : List HandlerPool.Entry} {e e' : HandlerPool.Entry} {place : Nat}
    (h : e' ∈ es.take place ++ e :: es.drop place) : e' ∈ es ∨ e' = e := by
  obtain htake | hrest := List.mem_append.mp h
  · exact .inl (List.mem_of_mem_take htake)
  · obtain rfl | hdrop := List.mem_cons.mp hrest
    · exact .inr rfl
    · exact .inl (List.mem_of_mem_drop hdrop)

/-- A new entry comes to stand on one side of the cursor; the others stay on theirs. -/
theorem Cut.insertAt (h : m.Cut passed ahead) (place : Nat) (fd : Int) (p : NetPtr) :
    ∃ passed' ahead', Cut { m with handlerPool := m.handlerPool.insertAt place fd p } passed' ahead' ∧
      (∀ e ∈ passed', e ∈ passed ∨ e = ⟨fd, p⟩) ∧ ∀ e ∈ ahead', e ∈ ahead ∨ e = ⟨fd, p⟩ := by
  by_cases hmem : fd ∈ m.handlerPool
  · have hset : ∀ es : List HandlerPool.Entry, ∀ e ∈ HandlerPool.setEntries fd p es,
        e ∈ es ∨ e = ⟨fd, p⟩ := by
      intro es e he
      obtain ⟨e', he', rfl⟩ := List.mem_map.mp he
      split_ifs
      · exact .inr rfl
      · exact .inl he'
    refine ⟨HandlerPool.setEntries fd p passed, HandlerPool.setEntries fd p ahead, ⟨?_, ?_⟩,
      hset passed, hset ahead⟩
    · rw [HandlerPool.insertAt, dif_pos hmem]
      show HandlerPool.setEntries fd p m.handlerPool.entries = _
      rw [h.entries]
      exact List.map_append
    · rw [h.cursor, ← List.head?_map, ← List.head?_map]
      exact congrArg List.head? (HandlerPool.keys_setEntries fd p ahead).symm
  have hentries : (m.handlerPool.insertAt place fd p).entries =
      (passed ++ ahead).take place ++ ⟨fd, p⟩ :: (passed ++ ahead).drop place := by
    rw [← h.entries, HandlerPool.insertAt, dif_neg hmem]
  cases ahead with
  | nil =>
    rw [List.append_nil] at hentries
    refine ⟨_, [], ⟨hentries.trans (List.append_nil _).symm, h.cursor⟩, fun e he => mem_place he, ?_⟩
    exact fun e he => .inl he
  | cons a ahead =>
    by_cases hplace : place ≤ passed.length
    · refine ⟨passed.take place ++ ⟨fd, p⟩ :: passed.drop place, a :: ahead, ⟨?_, h.cursor⟩,
        fun e he => mem_place he, fun e he => .inl he⟩
      rw [hentries, List.take_append_of_le_length hplace, List.drop_append_of_le_length hplace]
      simp
    · -- behind the entry at the cursor
      obtain ⟨k, rfl⟩ : ∃ k, place = passed.length + (k + 1) := ⟨place - passed.length - 1, by omega⟩
      refine ⟨passed, (a :: ahead).take (k + 1) ++ ⟨fd, p⟩ :: (a :: ahead).drop (k + 1),
        ⟨?_, h.cursor⟩, fun e he => .inl he, fun e he => mem_place he⟩
      rw [hentries, List.take_length_add_append, List.drop_length_add_append, List.append_assoc]

end NetHandlerMgr

end Rapidapp
