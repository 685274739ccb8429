import Rapidapp.Framework.NetIds
import Rapidapp.Framework.PoolCursor

/-!
# Which connections a walk comes to

`Tick` checks the frontends with `NetHandlerMgr::WalkThrough`
(`framework/rapidapp_net_mgr.cpp:261-297`), which goes on from `it_cursor_` for at most
`kSingleRoundLoopNum` entries and stops at the end of the table. `World.Reaches` says that a
walk comes to a connection; `nets_walkThrough` that it does to exactly these connections
what the check says, once, and nothing to the others.
-/

namespace Rapidapp

variable {σ γ : Type}

namespace NetHandlerMgr

/-- The keys from `it_cursor_` on. -/
def cursorKeys (m : NetHandlerMgr) : List Int :=
  match m.itCursor with
  | none => []
  | some fd => m.handlerPool.keys.dropWhile (· ≠ fd)

theorem dropWhile_ne_append {fd : Int} {ks ls : List Int} (h : fd ∉ ks) :
    (ks ++ fd :: ls).dropWhile (· ≠ fd) = fd :: ls := by
  induction ks with
  | nil => simp
  | cons k ks ih =>
    have hne : k ≠ fd := fun heq => h (heq ▸ List.mem_cons_self)
    rw [List.cons_append, List.dropWhile_cons, if_pos (by simpa using hne)]
    exact ih fun hmem => h (List.mem_cons_of_mem k hmem)

/-- The key after `fd`, and the keys from there on, in a list of keys without duplicates. -/
theorem succKey_append {fd : Int} {ks ls : List Int} (h : fd ∉ ks) :
    succKey fd (ks ++ fd :: ls) = ls.head? := by
  induction ks with
  | nil => rw [List.nil_append, succKey, if_pos rfl]
  | cons k ks ih =>
    have hne : k ≠ fd := fun heq => h (heq ▸ List.mem_cons_self)
    rw [List.cons_append, succKey, if_neg hne]
    exact ih fun hmem => h (List.mem_cons_of_mem k hmem)

theorem cursorKeys_of_head {m : NetHandlerMgr} {ks ls : List Int}
    (hkeys : m.handlerPool.keys = ks ++ ls) (hcursor : m.itCursor = ls.head?) :
    m.cursorKeys = ls := by
  have hnodup := m.handlerPool.keys_nodup
  rw [hkeys] at hnodup
  rw [cursorKeys, hcursor]
  cases ls with
  | nil => rfl
  | cons fd ls =>
    dsimp only [List.head?_cons]
    rw [hkeys]
    exact dropWhile_ne_append fun hmem =>
      (List.nodup_append.mp hnodup).2.2 fd hmem fd List.mem_cons_self rfl

/-- The table around the entry at the cursor. -/
theorem split_at_cursor {m : NetHandlerMgr} (h : m.PointsInside) {fd : Int}
    (hcursor : m.itCursor = some fd) :
    ∃ ks ls, m.handlerPool.keys = ks ++ fd :: ls ∧ fd ∉ ks ∧ fd ∉ ls ∧ m.cursorKeys = fd :: ls := by
  obtain ⟨ks, ls, hkeys⟩ := List.append_of_mem (AList.mem_keys.mp (h fd hcursor))
  have hnodup := m.handlerPool.keys_nodup
  rw [hkeys] at hnodup
  obtain ⟨_, htail, hne⟩ := List.nodup_append.mp hnodup
  refine ⟨ks, ls, hkeys, fun hmem => hne fd hmem fd List.mem_cons_self rfl,
    (List.nodup_cons.mp htail).1, ?_⟩
  exact cursorKeys_of_head hkeys hcursor

/-- `++it_cursor_` leaves the keys behind the entry. -/
theorem cursorKeys_next {m : NetHandlerMgr} (h : m.PointsInside) {fd : Int}
    (hcursor : m.itCursor = some fd) :
    cursorKeys { m with itCursor := succKey fd m.handlerPool.keys } = m.cursorKeys.tail := by
  obtain ⟨ks, ls, hkeys, hks, _, hrest⟩ := split_at_cursor h hcursor
  rw [hrest, List.tail_cons]
  have hkeys' : m.handlerPool.keys = (ks ++ [fd]) ++ ls := by rw [hkeys, List.append_assoc]; rfl
  refine cursorKeys_of_head (m := { m with itCursor := succKey fd m.handlerPool.keys }) hkeys' ?_
  dsimp only
  rw [hkeys, succKey_append hks]

/-- And so does `erase(it_cursor_++)`. -/
theorem cursorKeys_eraseEntry {m : NetHandlerMgr} (h : m.PointsInside) {fd : Int}
    (hcursor : m.itCursor = some fd) (heap : Heap γ) (p : NetPtr) :
    (m.eraseEntry heap fd p).1.cursorKeys = m.cursorKeys.tail := by
  obtain ⟨ks, ls, hkeys, hks, _, hrest⟩ := split_at_cursor h hcursor
  rw [hrest, List.tail_cons]
  have hkeys' : (m.eraseEntry heap fd p).1.handlerPool.keys = ks ++ ls := by
    dsimp only [eraseEntry]
    rw [AList.keys_erase, hkeys, List.erase_append_right _ hks, List.erase_cons_head]
  refine cursorKeys_of_head hkeys' ?_
  dsimp only [eraseEntry]
  rw [if_pos hcursor, hkeys, succKey_append hks]

end NetHandlerMgr

namespace World

/-- A walk of `k` rounds comes to the connection. -/
def Reaches (w : World σ γ) (k : Nat) (p : NetPtr) : Prop :=
  ∃ fd ∈ w.frontendHandlerMgr.cursorKeys.take k,
    w.frontendHandlerMgr.handlerPool.lookup fd = some p

instance (w : World σ γ) (k : Nat) (p : NetPtr) : Decidable (w.Reaches k p) :=
  inferInstanceAs (Decidable (∃ fd ∈ _, _))

/-- What the check leaves of the connection. -/
def checked (act : EasyNet γ → Bool × EasyNet γ) (n : EasyNet γ) : Option (EasyNet γ) :=
  if (act n).1 then none else some (act n).2

/-- A connection stands under one descriptor. -/
theorem lookup_inj {w : World σ γ} (h : Ok w) {fd fd' : Int} {p : NetPtr}
    (hp : w.frontendHandlerMgr.handlerPool.lookup fd = some p)
    (hp' : w.frontendHandlerMgr.handlerPool.lookup fd' = some p) : fd = fd' := by
  obtain ⟨n, b, e, hl, hfd⟩ := h.frontEntry hp
  obtain ⟨n', b', e', hl', hfd'⟩ := h.frontEntry hp'
  obtain rfl := Option.some.inj (hl.net.symm.trans hl'.net)
  obtain rfl := Option.some.inj (hl.hevent.symm.trans hl'.hevent)
  rw [← hfd, ← hfd', Option.some.inj (hl.bev.symm.trans hl'.bev)]

variable {act : EasyNet γ → Bool × EasyNet γ}

/-- One round: the entry at the cursor is checked, and the cursor moves on. -/
structure WalkedOne (act : EasyNet γ → Bool × EasyNet γ) (w : World σ γ) (p : NetPtr)
    (w' : World σ γ) : Prop where
  ok : Ok w'
  inside : w'.frontendHandlerMgr.PointsInside
  keys : w'.frontendHandlerMgr.cursorKeys = w.frontendHandlerMgr.cursorKeys.tail
  here : ∀ {n}, w.heap.nets p = some n → w'.heap.nets p = checked act n
  others : ∀ {q}, q ≠ p → w'.heap.nets q = w.heap.nets q
  back : ∀ {fd q}, w'.frontendHandlerMgr.handlerPool.lookup fd = some q →
    w.frontendHandlerMgr.handlerPool.lookup fd = some q
  kept : ∀ {fd q}, q ≠ p → w.frontendHandlerMgr.handlerPool.lookup fd = some q →
    w'.frontendHandlerMgr.handlerPool.lookup fd = some q

theorem walkedOne_walkEntry (hact : ∀ n, (act n).2.hevent = n.hevent) {w : World σ γ} (h : Ok w)
    (hin : w.frontendHandlerMgr.PointsInside) {fd : Int} {p : NetPtr}
    (hcursor : w.frontendHandlerMgr.itCursor = some fd)
    (hp : w.frontendHandlerMgr.handlerPool.lookup fd = some p) :
    WalkedOne act w p (w.walkEntry act fd) := by
  obtain ⟨n, b, e, hl, _⟩ := h.frontEntry hp
  have hchecked : checked act n = if (act n).1 then none else some (act n).2 := rfl
  have hevent := hact n
  rw [walkEntry, hp]
  dsimp only
  rw [hl.net]
  dsimp only
  generalize act n = r at hchecked hevent ⊢
  obtain ⟨kick, n'⟩ := r
  dsimp only at hchecked hevent ⊢
  have hok := h.setNet hl.net hevent
  have hself : (w.heap.setNet p n').nets p = some n' := Function.update_self _ _ _
  have hother : ∀ {q}, q ≠ p → (w.heap.setNet p n').nets q = w.heap.nets q :=
    fun hq => Function.update_of_ne hq _ _
  cases kick with
  | true =>
    have hlive : (w.heap.setNet p n').Live p n' b e := ⟨hself, hevent.trans hl.hevent, hl.bev⟩
    have hheap : (w.frontendHandlerMgr.eraseEntry (w.heap.setNet p n') fd p).2 =
        (w.heap.setNet p n').release p b := w.frontendHandlerMgr.eraseEntry_snd hlive fd
    have hlookup : ∀ fd',
        (w.frontendHandlerMgr.eraseEntry (w.heap.setNet p n') fd p).1.handlerPool.lookup fd' =
          if fd' = fd then none else w.frontendHandlerMgr.handlerPool.lookup fd' := by
      intro fd'
      have hall := w.lookup_eraseAt .frontEnd .frontEnd fd fd' p
      simp only [true_and] at hall
      exact hall
    have hp : ({ w with heap := w.heap.setNet p n' }.mgr .frontEnd).handlerPool.lookup fd =
        some p := hp
    refine ⟨hok.eraseAt hp, hin.eraseEntry (w.heap.setNet p n') fd p,
      NetHandlerMgr.cursorKeys_eraseEntry hin hcursor (w.heap.setNet p n') p, fun {m} hm => ?_, fun {q} hq => ?_,
      fun {fd' q} hq => ?_, fun {fd' q} hne hq => ?_⟩
    · obtain rfl := Option.some.inj (hl.net.symm.trans hm)
      rw [hchecked, if_pos rfl]
      refine (congrArg (fun heap : Heap γ => heap.nets p) hheap).trans ?_
      exact Function.update_self _ _ _
    · refine (congrArg (fun heap : Heap γ => heap.nets q) hheap).trans ?_
      exact (Function.update_of_ne hq _ _).trans (hother hq)
    · have hq := (hlookup fd').symm.trans hq
      split_ifs at hq
      exact hq
    · refine (hlookup fd').trans ((if_neg ?_).trans hq)
      rintro rfl
      exact hne (Option.some.inj (hq.symm.trans hp))
  | false =>
    refine ⟨hok.similar ⟨fun side => by cases side <;> rfl, le_refl _, le_refl _, id,
      fun hq => ⟨_, hq, rfl⟩, id, fun hb => ⟨_, hb, rfl⟩⟩, NetHandlerMgr.PointsInside.next fd,
      NetHandlerMgr.cursorKeys_next hin hcursor, fun {m} hm => ?_, fun hq => hother hq,
      fun hq => hq, fun _ hq => hq⟩
    obtain rfl := Option.some.inj (hl.net.symm.trans hm)
    rw [hchecked, if_neg Bool.false_ne_true]
    exact hself

/-- After some rounds: the connections the walk came to have been checked, once each. -/
structure WalkedOver (act : EasyNet γ → Bool × EasyNet γ) (k : Nat) (w w' : World σ γ) : Prop where
  ok : Ok w'
  inside : w'.frontendHandlerMgr.PointsInside
  reached : ∀ {p n}, w.Reaches k p → w.heap.nets p = some n → w'.heap.nets p = checked act n
  others : ∀ {p}, ¬ w.Reaches k p → w'.heap.nets p = w.heap.nets p

theorem walkedOver_walkLoop (hact : ∀ n, (act n).2.hevent = n.hevent) (k : Nat) {w : World σ γ}
    (h : Ok w) (hin : w.frontendHandlerMgr.PointsInside) :
    WalkedOver act k w (w.walkLoop act k) := by
  induction k generalizing w with
  | zero =>
    refine ⟨h, hin, fun {p n} hreach => ?_, fun _ => rfl⟩
    obtain ⟨fd, hfd, _⟩ := hreach
    cases hfd
  | succ k ih =>
    rw [walkLoop]
    cases hcursor : w.frontendHandlerMgr.itCursor with
    | none =>
      refine ⟨h, hin, fun {p n} hreach => ?_, fun _ => rfl⟩
      obtain ⟨fd, hfd, _⟩ := hreach
      rw [NetHandlerMgr.cursorKeys, hcursor] at hfd
      cases hfd
    | some fd =>
      obtain ⟨p, hp⟩ := Option.isSome_iff_exists.mp (AList.lookup_isSome.mpr (hin fd hcursor))
      obtain ⟨n, b, e, hl, _⟩ := h.frontEntry hp
      have hone := walkedOne_walkEntry hact h hin hcursor hp
      have hrest := ih hone.ok hone.inside
      obtain ⟨_, ls, _, _, hls, hkeys⟩ := NetHandlerMgr.split_at_cursor hin hcursor
      have htail : (w.walkEntry act fd).frontendHandlerMgr.cursorKeys = ls := by
        rw [hone.keys, hkeys, List.tail_cons]
      -- the connection under `fd` is not come to again
      have hself : ¬ (w.walkEntry act fd).Reaches k p := by
        rintro ⟨fd', hfd', hp'⟩
        rw [htail] at hfd'
        rw [← lookup_inj h hp (hone.back hp')] at hfd'
        exact hls (List.mem_of_mem_take hfd')
      have hsame : ∀ {q}, q ≠ p → ((w.walkEntry act fd).Reaches k q ↔ w.Reaches (k + 1) q) := by
        intro q hq
        rw [Reaches, Reaches, htail, hkeys, List.take_succ_cons, List.exists_mem_cons_iff]
        constructor
        · rintro ⟨fd', hfd', hq'⟩
          exact .inr ⟨fd', hfd', hone.back hq'⟩
        · rintro (hq' | ⟨fd', hfd', hq'⟩)
          · exact absurd (Option.some.inj (hp.symm.trans hq')).symm hq
          · exact ⟨fd', hfd', hone.kept hq hq'⟩
      have hreach : w.Reaches (k + 1) p := by
        refine ⟨fd, ?_, hp⟩
        rw [hkeys]
        exact List.mem_cons_self
      dsimp only
      refine ⟨hrest.ok, hrest.inside, fun {q m} hq hm => ?_, fun {q} hq => ?_⟩
      · by_cases hqp : q = p
        · subst hqp
          rw [hrest.others hself]
          exact hone.here hm
        · exact hrest.reached ((hsame hqp).mpr hq) ((hone.others hqp).trans hm)
      · have hqp : q ≠ p := fun heq => hq (heq ▸ hreach)
        rw [hrest.others fun hq' => hq ((hsame hqp).mp hq'), hone.others hqp]

/-- A walk checks the connections it reaches. -/
theorem walkedOver_walkThrough (hact : ∀ n, (act n).2.hevent = n.hevent) {w : World σ γ}
    (h : Ok w) (hin : w.frontendHandlerMgr.PointsInside) :
    WalkedOver act kSingleRoundLoopNum w (w.walkThrough act) := by
  have hloop := walkedOver_walkLoop hact kSingleRoundLoopNum h hin
  rw [walkThrough]
  generalize w.walkLoop act kSingleRoundLoopNum = w' at hloop ⊢
  split
  · refine ⟨hloop.ok.similar ?_, NetHandlerMgr.PointsInside.begin _, hloop.reached, hloop.others⟩
    exact ⟨fun side => by cases side <;> rfl, le_refl _, le_refl _, id, fun hq => ⟨_, hq, rfl⟩, id,
      fun hb => ⟨_, hb, rfl⟩⟩
  · exact hloop

end World

end Rapidapp
