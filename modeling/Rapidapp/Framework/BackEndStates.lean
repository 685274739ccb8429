import Rapidapp.Framework.NetStates

/-!
# A backend connection that has failed

`OnBackEndSocketEvent` (`framework/rapidapp_framework_imp.cpp:1269-1315`) stores a new state
for each event without looking at the one there is, so a `BEV_EVENT_CONNECTED` that follows an
error makes the connection an established one again, and `EasyNet::Send`
(`framework/rapidapp_easy_net.cpp:136-177`) writes to it. In a run of the framework and of any
application the connection stays down exactly when no such event comes while it is down.
-/

namespace Rapidapp

variable {σ γ : Type}

/-- The state `OnBackEndSocketEvent` sets for these events, if any. -/
def BevEvents.netState (events : BevEvents) : Option NetState :=
  if events.error then some .netFailed
  else if events.connected then some .netEstablished
  else if events.timeout then none
  else if events.eof then some .netBeenClosed
  else none

namespace World

/-- The connection is there and has failed or was closed by its peer. -/
def IsDown (w : World σ γ) (p : NetPtr) : Prop :=
  ∃ n, w.heap.nets p = some n ∧ (n.state = .netFailed ∨ n.state = .netBeenClosed)

/-- The connection is there and is established. -/
def IsEstablished (w : World σ γ) (p : NetPtr) : Prop :=
  ∃ n, w.heap.nets p = some n ∧ n.state = .netEstablished

/-- `bufferevent_write` never succeeds on a connection that is not established. -/
theorem send_established {w : World σ γ} {p : NetPtr} {msg : List UInt8} (hmsg : msg ≠ [])
    (hs : (w.heap.send p msg).1 = .easyNetOk) : w.IsEstablished p := by
  rcases w.heap.send_cases p msg with ⟨hnil, _⟩ | ⟨r, hr, heq⟩ | ⟨n, b, _, hn, _, hst, _⟩
  · exact absurd hnil hmsg
  · rw [heq] at hs
    exact absurd hs hr
  · exact ⟨n, hn, hst⟩

theorem onBackEndSocketEvent_eq (w : World σ γ) (b : BevPtr) (events : BevEvents) :
    w.onBackEndSocketEvent b events =
      match events.netState with
      | none => w
      | some state => w.changeBackEndState b state := by
  rw [onBackEndSocketEvent, BevEvents.netState]
  split_ifs <;> rfl

theorem state_changeBackEndState (w : World σ γ) (b : BevPtr) (state : NetState) {p : NetPtr}
    {n : EasyNet γ} (hn : w.heap.nets p = some n) :
    ∃ n', (w.changeBackEndState b state).heap.nets p = some n' ∧
      n'.state = if w.backendHandlerMgr.getHandlerByEvent w.heap b = some p
        then state else n.state := by
  rw [changeBackEndState, NetHandlerMgr.changeNetStateByEvent]
  cases hq : w.backendHandlerMgr.getHandlerByEvent w.heap b with
  | none => exact ⟨n, hn, rfl⟩
  | some q =>
    dsimp only
    by_cases hqp : q = p
    · subst hqp
      rw [hn, if_pos rfl]
      exact ⟨_, Function.update_self _ _ _, rfl⟩
    · rw [if_neg fun h => hqp (Option.some.inj h)]
      cases w.heap.nets q with
      | none => exact ⟨n, hn, rfl⟩
      | some m => exact ⟨n, (Function.update_of_ne (Ne.symm hqp) _ _).trans hn, rfl⟩

/-- What `OnBackEndSocketEvent` does to the states: it sets that of the connection it finds. -/
theorem state_onBackEndSocketEvent (w : World σ γ) (b : BevPtr) (events : BevEvents) {p : NetPtr}
    {n : EasyNet γ} (hn : w.heap.nets p = some n) :
    ∃ n', (w.onBackEndSocketEvent b events).heap.nets p = some n' ∧
      n'.state = if w.backendHandlerMgr.getHandlerByEvent w.heap b = some p
        then events.netState.getD n.state else n.state := by
  rw [onBackEndSocketEvent_eq]
  cases events.netState with
  | none => exact ⟨n, hn, (ite_self _).symm⟩
  | some state => exact w.state_changeBackEndState b state hn

end World

/-- What happens to connections: an event of the loop of the framework, a call of
`CreateBackEnd` or a call of `EasyNet::Send`. -/
inductive LinkEvent where
  | frame (e : FrameEvent)
  | createBackEnd (type fd : Int)
  | send (p : NetPtr) (msg : List UInt8)
  deriving DecidableEq

namespace FrameRun

/-- One of these. The kernel opens no socket under a descriptor in use, and `Send` is a method
of an object that is there. -/
def linkStep [Inhabited γ] (app : FrontEndApp σ γ) (setting : Setting) (s : FrameRun σ γ) :
    LinkEvent → Option (FrameRun σ γ)
  | .frame e => step app setting s e
  | .createBackEnd type fd =>
    if s.world.FdUnused fd then some (s.goTo (s.world.createBackEnd type (some fd)).2 []) else none
  | .send p msg =>
    if (s.world.heap.nets p).isSome then
      some (s.goTo { s.world with heap := (s.world.heap.send p msg).2 } [])
    else none

variable [Inhabited γ] {app : FrontEndApp σ γ} {setting : Setting}

theorem onward_linkStep {s s' : FrameRun σ γ} (h : s.Sound) {e : LinkEvent}
    (hs : linkStep app setting s e = some s') : World.Onward s.world s'.world := by
  cases e with
  | frame e => exact (step_spec h hs).1
  | createBackEnd type fd =>
    rw [linkStep] at hs
    by_cases hfd : s.world.FdUnused fd
    · rw [if_pos hfd] at hs
      cases hs
      have hfresh := World.FdUnused.freshFd h.ok hfd
      apply World.ApiReach.onward (.single (.createBackEnd s.world type (some fd) ?_)) h.ok h.inside
      intro fd' heq
      exact Option.some.inj heq ▸ hfresh
    · rw [if_neg hfd] at hs
      cases hs
  | send p msg =>
    rw [linkStep] at hs
    split_ifs at hs
    cases hs
    exact World.Onward.of_kept (World.kept_send h.ok p msg) h.inside

theorem Sound.linkStep {s s' : FrameRun σ γ} (h : s.Sound) {e : LinkEvent}
    (hs : FrameRun.linkStep app setting s e = some s') : s'.Sound :=
  have honward := onward_linkStep h hs
  ⟨honward.ok, honward.inside⟩

/-- What one step does to a connection that is down: it is gone, it is still down, or it was
connected again. -/
theorem down_linkStep {s s' : FrameRun σ γ} (h : s.Sound) {e : LinkEvent}
    (hs : linkStep app setting s e = some s') {p : NetPtr} (hp : s.world.IsDown p) :
    s'.world.heap.nets p = none ∨ s'.world.IsDown p ∨ ∃ b events,
      e = .frame (.socketEvent .backEnd b events) ∧
      s.world.backendHandlerMgr.getHandlerByEvent s.world.heap b = some p ∧
      events.netState = some .netEstablished := by
  obtain ⟨n, hn, hst⟩ := hp
  have hkept : World.StatesKept s.world s'.world →
      s'.world.heap.nets p = none ∨ s'.world.IsDown p := by
    intro hk
    cases hn' : s'.world.heap.nets p with
    | none => exact .inl rfl
    | some n' =>
      obtain ⟨m, hm, hsame⟩ := hk.state (h.ok.heap.netLt hn) hn'
      obtain rfl := Option.some.inj (hn.symm.trans hm)
      exact .inr ⟨n', hn', hsame ▸ hst⟩
  cases e with
  | send q msg =>
    rw [linkStep] at hs
    split_ifs at hs
    cases hs
    exact (hkept (Heap.handlerRule_statesKept.send s.world.heap q msg)).imp_right .inl
  | createBackEnd type fd =>
    rw [linkStep] at hs
    by_cases hfd : s.world.FdUnused fd
    · rw [if_pos hfd] at hs
      cases hs
      have hcreate := Heap.handlerRule_statesKept.createBackEnd s.world type
        fun fd' heq => Option.some.inj heq ▸ hfd.1
      exact (hkept hcreate).imp_right .inl
    · rw [if_neg hfd] at hs
      cases hs
  | frame e =>
    by_cases he : ∃ b events, e = .socketEvent .backEnd b events
    · obtain ⟨b, events, rfl⟩ := he
      cases hs
      obtain ⟨n', hn', hst'⟩ := s.world.state_onBackEndSocketEvent b events hn
      refine .inr ?_
      by_cases hfound : s.world.backendHandlerMgr.getHandlerByEvent s.world.heap b = some p
      · rw [if_pos hfound] at hst'
        by_cases hup : events.netState = some .netEstablished
        · exact .inr ⟨b, events, rfl, hfound, hup⟩
        · refine .inl ⟨n', hn', ?_⟩
          rw [hst']
          revert hup
          rw [BevEvents.netState]
          split_ifs <;> simp [hst]
      · rw [if_neg hfound] at hst'
        exact .inl ⟨n', hn', hst' ▸ hst⟩
    · have he : ∀ b events, e ≠ .socketEvent .backEnd b events :=
        fun b events heq => he ⟨b, events, heq⟩
      exact (hkept (Heap.handlerRule_statesKept.step he hs)).imp_right .inl

/-- Whenever the connection is down after some events of the run it is not established after any
later ones, and a `Send` on it there does not report success. -/
def StaysDown (app : FrontEndApp σ γ) (setting : Setting) (s₀ : FrameRun σ γ)
    (es : List LinkEvent) (p : NetPtr) : Prop :=
  ∀ before between rest s s', es = before ++ between ++ rest →
    Run.run (linkStep app setting) s₀ before = some s → s.world.IsDown p →
    Run.run (linkStep app setting) s between = some s' →
      ¬ s'.world.IsEstablished p ∧
      ∀ msg after, rest = .send p msg :: after → (s'.world.heap.nets p).isSome →
        (s'.world.heap.send p msg).1 ≠ .easyNetOk

/-- While the connection is down its `bufferevent` does not report that it is connected (without
reporting an error as well), and no empty message is sent on it. -/
def NotRevived (p : NetPtr) (s : FrameRun σ γ) : LinkEvent → Prop
  | .frame (.socketEvent .backEnd b events) =>
    s.world.IsDown p → s.world.backendHandlerMgr.getHandlerByEvent s.world.heap b = some p →
      events.connected = true → events.error = true
  | .send q msg => q = p → s.world.IsDown p → msg ≠ []
  | _ => True

theorem netState_established {events : BevEvents} :
    events.netState = some .netEstablished ↔ events.connected = true ∧ events.error = false := by
  rw [BevEvents.netState]
  split_ifs with herror hconnected <;> simp_all

/-- The object is there and down, or it was freed. -/
structure GoneOrDown (p : NetPtr) (s : FrameRun σ γ) : Prop where
  sound : s.Sound
  known : p < s.world.heap.nextNet
  state : s.world.heap.nets p = none ∨ s.world.IsDown p

omit [Inhabited γ] in
theorem GoneOrDown.not_established {p : NetPtr} {s : FrameRun σ γ} (h : GoneOrDown p s) :
    ¬ s.world.IsEstablished p := by
  rintro ⟨n, hn, hst⟩
  rcases h.state with hnone | ⟨m, hm, hdown⟩
  · cases hnone.symm.trans hn
  · obtain rfl := Option.some.inj (hn.symm.trans hm)
    rw [hst] at hdown
    cases hdown <;> contradiction

/-- A step that does not revive the connection leaves it down. -/
theorem GoneOrDown.linkStep {p : NetPtr} {s s' : FrameRun σ γ} {e : LinkEvent}
    (h : GoneOrDown p s) (he : NotRevived p s e)
    (hs : FrameRun.linkStep app setting s e = some s') : GoneOrDown p s' := by
  have honward := onward_linkStep h.sound hs
  refine ⟨h.sound.linkStep hs, lt_of_lt_of_le h.known honward.nextNet, ?_⟩
  rcases h.state with hnone | hdown
  · exact .inl (honward.gone h.known hnone)
  · rcases down_linkStep h.sound hs hdown with hgone | hstill | ⟨b, events, rfl, hfound, hup⟩
    · exact .inl hgone
    · exact .inr hstill
    · obtain ⟨hconnected, hnoerror⟩ := netState_established.mp hup
      have herror := he hdown hfound hconnected
      rw [hnoerror] at herror
      cases herror

/-- What `StaysDown` says of the rest of a run. -/
theorem StaysDown.tail {s s' : FrameRun σ γ} {e : LinkEvent} {es : List LinkEvent} {p : NetPtr}
    (h : StaysDown app setting s (e :: es) p) (hs : FrameRun.linkStep app setting s e = some s') :
    StaysDown app setting s' es p := by
  intro before between rest t t' hes hbefore
  exact h (e :: before) between rest t t' (congrArg (e :: ·) hes)
    (Run.run_cons_some.mpr ⟨s', hs, hbefore⟩)

/-- An event that revives the connection breaks the property. -/
theorem StaysDown.head {s : FrameRun σ γ} {e : LinkEvent} {es : List LinkEvent} {p : NetPtr}
    (h : StaysDown app setting s (e :: es) p) : NotRevived p s e := by
  cases e with
  | createBackEnd type fd => trivial
  | send q msg =>
    intro hq hdown hmsg
    subst hq hmsg
    obtain ⟨n, hn, _⟩ := id hdown
    have hsend := (h [] [] _ s s rfl rfl hdown rfl).2 [] es rfl (by rw [hn]; rfl)
    exact hsend (by simp [Heap.send])
  | frame e =>
    cases e with
    | socketEvent side b events =>
      cases side with
      | frontEnd => trivial
      | backEnd =>
        intro hdown hfound hconnected
        by_contra herror
        have hup : events.netState = some .netEstablished :=
          netState_established.mpr ⟨hconnected, Bool.eq_false_iff.mpr herror⟩
        obtain ⟨n, hn, _⟩ := id hdown
        obtain ⟨n', hn', hst'⟩ := s.world.state_onBackEndSocketEvent b events hn
        rw [if_pos hfound, hup] at hst'
        have hstep : Run.run (FrameRun.linkStep app setting) s
            [.frame (.socketEvent .backEnd b events)] =
            some (s.goTo (s.world.onBackEndSocketEvent b events) []) := rfl
        exact (h [] [_] es s _ rfl rfl hdown hstep).1 ⟨n', hn', hst'⟩
    | _ => trivial

theorem staysDown_iff {s : FrameRun σ γ} (h : s.Sound) (es : List LinkEvent) (p : NetPtr) :
    StaysDown app setting s es p ↔ Run.Along (linkStep app setting) (NotRevived p) s es := by
  constructor
  · intro hstays
    induction es generalizing s with
    | nil => trivial
    | cons e es ih =>
      exact ⟨hstays.head, fun s' hs => ih (h.linkStep hs) (hstays.tail hs)⟩
  · intro halong before between rest t t' hes hbefore hdown hbetween
    subst hes
    rw [List.append_assoc, Run.along_append] at halong
    have hlater := Run.along_append.mp (halong.2 t hbefore)
    have hsound := Run.run_preserves (fun s e s' hs hstep => Sound.linkStep hs hstep) h hbefore
    obtain ⟨n, hn, hst⟩ := id hdown
    have hinv : GoneOrDown p t' := Run.run_inv (I := GoneOrDown p) (P := NotRevived p)
      (fun s e s' hs he hstep => hs.linkStep he hstep)
      ⟨hsound, hsound.ok.heap.netLt hn, .inr hdown⟩ hlater.1 hbetween
    refine ⟨hinv.not_established, ?_⟩
    intro msg after hrest hsome hok
    subst hrest
    rcases hinv.state with hnone | hdown'
    · rw [hnone] at hsome
      cases hsome
    · have hmsg : msg ≠ [] := (hlater.2 t' hbetween).1 rfl hdown'
      exact hinv.not_established (World.send_established hmsg hok)

/-- In every run from `Init` on a connection that has failed or was closed stays so exactly when
it is not reported as connected, and sent no empty message, in the meantime. -/
theorem staysDown_run (app : FrontEndApp σ γ) (setting : Setting) (init : σ) (fate : Nat → Bool)
    (frontRecv backRecv : RapBuffer) (svcMode : SvcMode) (now : Int) (es : List LinkEvent)
    (p : NetPtr) :
    StaysDown app setting (start init fate frontRecv backRecv svcMode now) es p ↔
      Run.Along (linkStep app setting) (NotRevived p)
        (start init fate frontRecv backRecv svcMode now) es :=
  staysDown_iff (sound_start init fate frontRecv backRecv svcMode now) es p

/-- The order of events the comment in `OnBackEndSocketEvent` warns of: after `BEV_EVENT_ERROR`
there is one more `BEV_EVENT_CONNECTED`. The connection is established, and `Send` succeeds. -/
theorem connected_after_error :
    ¬ ∀ es p, StaysDown FrontEndApp.recorder ⟨0, 0, 0⟩
      (start [] (fun _ => true) ⟨64, by decide⟩ ⟨64, by decide⟩ .normal 0) es p := by
  intro h
  have hsend := (h [.createBackEnd 0 5, .frame (.socketEvent .backEnd 0 { error := true }),
    .frame (.socketEvent .backEnd 0 { connected := true }), .send 0 [1]] 0
    [.createBackEnd 0 5, .frame (.socketEvent .backEnd 0 { error := true })]
    [.frame (.socketEvent .backEnd 0 { connected := true })] [.send 0 [1]]
    _ _ rfl rfl ⟨_, rfl, .inl rfl⟩ rfl).2 [1] [] rfl
  exact absurd (by decide) (hsend (by decide))

end FrameRun

end Rapidapp
