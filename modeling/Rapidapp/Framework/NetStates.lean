import Rapidapp.Framework.HandlerRule

/-!
# Which code sets the state of a connection

`NetState` (`framework/rapidapp_easy_net.h:12-18`) is set when a connection is opened, and
from then on by `ChangeNetStateByEvent` only. Everything else the framework and an
application do leaves the states of the connections there are as they were:
`Heap.StatesKept`, which holds across each operation of `Heap.HandlerRule`.
-/

namespace Rapidapp

variable {σ γ : Type}

/-- The objects of `h` that are still there in `h'` have the `NetState` they had. -/
structure Heap.StatesKept (h h' : Heap γ) : Prop where
  nextNet : h.nextNet ≤ h'.nextNet
  state : ∀ {p n'}, p < h.nextNet → h'.nets p = some n' →
    ∃ n, h.nets p = some n ∧ n'.state = n.state

namespace Heap

theorem StatesKept.of_nets {h h' : Heap γ} (hnext : h.nextNet ≤ h'.nextNet)
    (hnets : ∀ p, p < h.nextNet → h'.nets p = h.nets p) : StatesKept h h' where
  nextNet := hnext
  state hlt hp := ⟨_, (hnets _ hlt).symm.trans hp, rfl⟩

theorem StatesKept.refl (h : Heap γ) : StatesKept h h := .of_nets le_rfl fun _ _ => rfl

theorem StatesKept.trans {h h' h'' : Heap γ} (hh : StatesKept h h') (hh' : StatesKept h' h'') :
    StatesKept h h'' where
  nextNet := hh.nextNet.trans hh'.nextNet
  state hlt hp := by
    obtain ⟨n', hn', hs'⟩ := hh'.state (lt_of_lt_of_le hlt hh.nextNet) hp
    obtain ⟨n, hn, hs⟩ := hh.state hlt hn'
    exact ⟨n, hn, hs'.trans hs⟩

theorem statesKept_setNet (h : Heap γ) {p : NetPtr} {n m : EasyNet γ} (hp : h.nets p = some n)
    (hs : m.state = n.state) : StatesKept h (h.setNet p m) where
  nextNet := le_rfl
  state {q m'} _ hq := by
    by_cases hqp : q = p
    · subst hqp
      have hself : (h.setNet q m).nets q = some m := Function.update_self _ _ _
      obtain rfl := Option.some.inj (hself.symm.trans hq)
      exact ⟨n, hp, hs⟩
    · exact ⟨m', (Function.update_of_ne hqp _ _).symm.trans hq, rfl⟩

theorem statesKept_deleteNet (h : Heap γ) (p : NetPtr) : StatesKept h (h.deleteNet p) where
  nextNet := le_rfl
  state {q m} _ hq := by
    by_cases hqp : q = p
    · subst hqp
      have hself : (h.deleteNet q).nets q = none := Function.update_self _ _ _
      cases hself.symm.trans hq
    · exact ⟨m, (Function.update_of_ne hqp _ _).symm.trans hq, rfl⟩

/-- A connection that is opened gets an object of its own. -/
theorem statesKept_openNet (h : Heap γ) (fd type : Int) (state : NetState) :
    StatesKept h (World.openNet h fd type state).2 := by
  rw [World.openNet_eq]
  exact .of_nets (Nat.le_succ _) fun _ hlt => Function.update_of_ne (Nat.ne_of_lt hlt) _ _

/-- No handler but the one that calls `ChangeNetStateByEvent`, and no application, sets the state
of a connection. -/
theorem handlerRule_statesKept : HandlerRule (StatesKept (γ := γ)) where
  refl := StatesKept.refl
  trans := StatesKept.trans
  setNet h _ _ _ hp hs := h.statesKept_setNet hp hs
  deleteNet h p := h.statesKept_deleteNet p
  newEasyNet _ := .of_nets (Nat.le_succ _) fun _ hlt => Function.update_of_ne (Nat.ne_of_lt hlt) _ _
  openNet h fd type state _ := h.statesKept_openNet fd type state
  bevs hnets hnext _ := .of_nets hnext.ge fun p _ => congrFun hnets p

end Heap

/-- From `w` to `w'` every connection kept its `NetState`. -/
abbrev World.StatesKept (w w' : World σ γ) : Prop := Heap.StatesKept w.heap w'.heap

end Rapidapp
