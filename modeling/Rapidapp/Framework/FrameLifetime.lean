import Rapidapp.Framework.FrameSafety

/-!
# Accesses of `OnFrontEndMsg` to its connection

`OnFrontEndMsg` keeps its `EasyNet*` and the evbuffer across the calls into application
code. All its accesses happen while the connection is in the pool exactly when no handler
it calls for a frame of the buffer takes the connection out of the pool
(`accessesInPool_iff`): there is no check between a callback and the accesses that follow.
-/

namespace Rapidapp

variable {σ γ : Type}

namespace World

/-- The handler called for one payload of a frontend: the state it leaves, or `none` when it is
`OnFrontEndRpcMsg` and refuses the request. -/
def serveFrontEnd (app : App σ γ) (p : NetPtr) (data : List UInt8) (size : Nat) (w : World σ γ) :
    Option (World σ γ) :=
  match w.svcMode with
  | .rpc =>
    match onFrontEndRpcMsg app p data size w with
    | (ret, w) => if ret < 0 then none else some w
  | .normal =>
    some (app.onRecvFrontEnd p (((w.heap.nets p).map (·.netType)).getD 0) data size w).2

/-- The handlers called for the frames of these lengths, one after the other, leave the
connection in the pool. -/
def Survives (app : App σ γ) (p : NetPtr) (buf : List UInt8) : Nat → List Nat → World σ γ → Prop
  | _, [], _ => True
  | elapsed, msglen :: rest, w =>
    ∀ w', w.serveFrontEnd app p (payloadBytes buf elapsed msglen) (payloadSize msglen) = some w' →
      w'.inPool .frontEnd p = true ∧
        Survives app p buf (elapsed + msglen) rest (w'.modifyNet p countPkg)

/-- No handler called for a complete frame in the input takes the connection out of the pool. -/
def CallbacksKeep (app : App σ γ) (w : World σ γ) (b : BevPtr) : Prop :=
  ∀ e p, w.heap.bevs b = some e → w.frontendHandlerMgr.handlerPool.lookup e.fd = some p →
    let buf := e.input.take w.frontendHandlerMgr.recvBuffer.size
    Survives app p buf 0 (msgDecoder.cuts buf) w

theorem modifyNet_inPool (w : World σ γ) (side : Side) (p q : NetPtr) (f : EasyNet γ → EasyNet γ) :
    (w.modifyNet p f).inPool side q = w.inPool side q := by
  rw [modifyNet]
  split
  · rfl
  · cases side <;> rfl

theorem evbufferDrain_inPool (w : World σ γ) (side : Side) (q : NetPtr) (b : BevPtr) (len : Nat) :
    (w.evbufferDrain b len).inPool side q = w.inPool side q := by
  rw [evbufferDrain]
  split
  · rfl
  · cases side <;> rfl

end World

/-- Every access of this run of `OnFrontEndMsg` to an `EasyNet` or its evbuffer, and every payload
it hands out, is at a time when the `EasyNet` is in the pool. -/
def AccessesInPool (app : App σ γ) (m : Monitor σ γ) (b : BevPtr) : Prop :=
  ∃ m' ts ds, Monitor.onFrontEndMsg app m b = some m' ∧ m'.touched = m.touched ++ ts ∧
    m'.handed = m.handed ++ ds ∧ (∀ t ∈ ts, t.2 = true) ∧ ∀ d ∈ ds, d.inPool = true

namespace Monitor

theorem touched_finishFrontEnd (m : Monitor σ γ) (p : NetPtr) (b : BevPtr) (elapsed : Nat) :
    (m.finishFrontEnd p b elapsed).touched = m.touched ++
      [(p, m.world.inPool .frontEnd p), (p, m.world.inPool .frontEnd p)] := by
  simp [finishFrontEnd, touch, goTo, World.evbufferDrain_inPool]

/-- One frame of a connection in the pool: the accesses, and how the loop goes on. After
a handler that accepts the frame comes the counter, whatever the handler did. -/
theorem touched_frontEndBody (app : App σ γ) {p : NetPtr} (buf : List UInt8)
    (elapsed msglen : Nat) {m : Monitor σ γ} (hin : m.world.inPool .frontEnd p = true) :
    ∃ m' cont ts, frontEndBody app p buf elapsed msglen m = (m', cont) ∧
      m'.touched = m.touched ++ ts ∧
      m'.handed = m.handed ++ [Dispatch.ofFrame p buf elapsed msglen true] ∧
      match m.world.serveFrontEnd app p (payloadBytes buf elapsed msglen) (payloadSize msglen) with
      | none => cont = false ∧ ∀ t ∈ ts, t.2 = true
      | some w => cont = true ∧ m'.world = w.modifyNet p World.countPkg ∧
          ((∀ t ∈ ts, t.2 = true) ↔ w.inPool .frontEnd p = true) := by
  unfold frontEndBody World.serveFrontEnd
  have hhand : m.handed ++ [Dispatch.ofFrame p buf elapsed msglen (m.world.inPool .frontEnd p)] =
      m.handed ++ [Dispatch.ofFrame p buf elapsed msglen true] := by rw [hin]
  cases m.world.svcMode with
  | normal =>
    obtain ⟨w, hw⟩ : ∃ w, w = (app.onRecvFrontEnd p
      (((m.world.heap.nets p).map (·.netType)).getD 0) (payloadBytes buf elapsed msglen)
      (payloadSize msglen) m.world).2 := ⟨_, rfl⟩
    simp only [touch, hand, goTo, hin, ← hw]
    refine ⟨_, _, [(p, true), (p, w.inPool .frontEnd p)], rfl, ?_, rfl, rfl, rfl, by simp⟩
    simp only [List.append_assoc, List.cons_append, List.nil_append]
  | rpc =>
    simp only [hand, goTo, touch]
    obtain ⟨_, hmsg⟩ | ⟨_, ret, w, hret, hmsg, _⟩ :=
      World.onFrontEndRpcMsg_cases app p (payloadBytes buf elapsed msglen)
        (payloadSize msglen) m.world
    · simp only [hmsg, hin]
      exact ⟨_, _, [(p, true)], rfl, rfl, rfl, rfl, by simp⟩
    · simp only [hmsg, hin, if_neg (not_lt.mpr hret)]
      exact ⟨_, _, [(p, w.inPool .frontEnd p)], rfl, rfl, rfl, rfl, rfl, by simp⟩

/-- The records only grow. -/
theorem extends_foldFrames (app : App σ γ) (p : NetPtr) (buf : List UInt8) (elapsed : Nat)
    (lens : List Nat) (m : Monitor σ γ) :
    m.touched <+: (foldFrames (frontEndBody app p buf) elapsed lens m).1.touched ∧
      m.handed <+: (foldFrames (frontEndBody app p buf) elapsed lens m).1.handed := by
  have hbody : ∀ elapsed msglen (m : Monitor σ γ),
      m.touched <+: (frontEndBody app p buf elapsed msglen m).1.touched ∧
        m.handed <+: (frontEndBody app p buf elapsed msglen m).1.handed := by
    intro elapsed msglen m
    unfold frontEndBody
    cases m.world.svcMode with
    | normal =>
      simp only [touch, hand, goTo, List.append_assoc]
      exact ⟨List.prefix_append _ _, List.prefix_append _ _⟩
    | rpc =>
      dsimp only
      split <;> exact ⟨List.prefix_append _ _, List.prefix_append _ _⟩
  induction lens generalizing m elapsed with
  | nil => exact ⟨List.prefix_rfl, List.prefix_rfl⟩
  | cons msglen rest ih =>
    obtain ⟨ht, hh⟩ := hbody elapsed msglen m
    rw [foldFrames]
    rcases hr : frontEndBody app p buf elapsed msglen m with ⟨m', cont⟩
    rw [hr] at ht hh
    cases cont with
    | false => exact ⟨ht, hh⟩
    | true =>
      obtain ⟨ht', hh'⟩ := ih (elapsed + msglen) m'
      exact ⟨ht.trans ht', hh.trans hh'⟩

/-- The frames of a buffer, one after the other. -/
theorem touched_foldFrames (app : App σ γ) {p : NetPtr} (buf : List UInt8) (elapsed : Nat)
    (lens : List Nat) {m : Monitor σ γ} (hin : m.world.inPool .frontEnd p = true) :
    ∃ ts ds, (foldFrames (frontEndBody app p buf) elapsed lens m).1.touched = m.touched ++ ts ∧
      (foldFrames (frontEndBody app p buf) elapsed lens m).1.handed = m.handed ++ ds ∧
      (((∀ t ∈ ts, t.2 = true) ∧ ∀ d ∈ ds, d.inPool = true) ↔
        World.Survives app p buf elapsed lens m.world) ∧
      (World.Survives app p buf elapsed lens m.world →
        (foldFrames (frontEndBody app p buf) elapsed lens m).2.2 = true →
        (foldFrames (frontEndBody app p buf) elapsed lens m).1.world.inPool .frontEnd p =
          true) := by
  induction lens generalizing m elapsed with
  | nil =>
    exact ⟨[], [], (List.append_nil _).symm, (List.append_nil _).symm,
      iff_of_true ⟨List.forall_mem_nil _, List.forall_mem_nil _⟩ trivial, fun _ _ => hin⟩
  | cons msglen rest ih =>
    obtain ⟨m', cont, ts, hbody, hts, hds, hserve⟩ :=
      touched_frontEndBody app buf elapsed msglen hin
    rw [foldFrames, hbody, World.Survives]
    cases hw : m.world.serveFrontEnd app p (payloadBytes buf elapsed msglen)
      (payloadSize msglen) with
    | none =>
      rw [hw] at hserve
      obtain ⟨rfl, hall⟩ := hserve
      refine ⟨ts, _, hts, hds, iff_of_true ⟨hall, by simp [Dispatch.ofFrame]⟩ ?_, ?_⟩
      · intro w' hnone
        cases hnone
      · intro _ hcont
        cases hcont
    | some w =>
      rw [hw] at hserve
      obtain ⟨rfl, hworld, hall⟩ := hserve
      simp only [Option.some.injEq, forall_eq']
      cases hpool : w.inPool .frontEnd p with
      | false =>
        -- the handler destroyed the connection: the counter is a bad access
        obtain ⟨⟨ts', hts'⟩, ⟨ds', hds'⟩⟩ :=
          extends_foldFrames app p buf (elapsed + msglen) rest m'
        refine ⟨ts ++ ts', [Dispatch.ofFrame p buf elapsed msglen true] ++ ds',
          by rw [← hts', hts, List.append_assoc], by rw [← hds', hds, List.append_assoc],
          iff_of_false ?_ (by simp), by simp⟩
        rintro ⟨hgood, _⟩
        have hts_good := hall.mp fun t ht => hgood t (List.mem_append_left _ ht)
        rw [hpool] at hts_good
        cases hts_good
      | true =>
        have hin' : m'.world.inPool .frontEnd p = true := by
          rw [hworld, World.modifyNet_inPool, hpool]
        obtain ⟨ts', ds', hts', hds', hiff, hend⟩ := ih (elapsed + msglen) hin'
        rw [hworld] at hiff hend
        refine ⟨ts ++ ts', [Dispatch.ofFrame p buf elapsed msglen true] ++ ds',
          by rw [hts', hts, List.append_assoc], by rw [hds', hds, List.append_assoc], ?_,
          fun h => hend h.2⟩
        have hts_good := hall.mpr hpool
        rw [← hiff]
        simp only [List.mem_append, List.mem_singleton, or_imp, forall_and, forall_eq,
          Dispatch.ofFrame, true_and]
        exact ⟨fun h => ⟨h.1.2, h.2⟩, fun h => ⟨⟨hts_good, h.1⟩, h.2⟩⟩

end Monitor

/-- `OnFrontEndMsg` stays off a connection that is no longer in the pool exactly when none of the
handlers it calls takes the connection out of the pool. -/
theorem accessesInPool_iff (app : App σ γ) (m : Monitor σ γ) (b : BevPtr) :
    AccessesInPool app m b ↔ World.CallbacksKeep app m.world b := by
  have hnothing : Monitor.onFrontEndMsg app m b = some m → AccessesInPool app m b := fun h =>
    ⟨m, [], [], h, (List.append_nil _).symm, (List.append_nil _).symm,
      List.forall_mem_nil _, List.forall_mem_nil _⟩
  cases he : m.world.heap.bevs b with
  | none =>
    refine iff_of_true (hnothing (by simp only [Monitor.onFrontEndMsg, he])) ?_
    intro e p he'
    rw [he] at he'
    cases he'
  | some e =>
    have hget := World.getHandlerByEvent_eq (w := m.world) .frontEnd he
    simp only [World.mgr] at hget
    cases hp : m.world.frontendHandlerMgr.handlerPool.lookup e.fd with
    | none =>
      rw [hp] at hget
      refine iff_of_true (hnothing (by simp only [Monitor.onFrontEndMsg, he, hget])) ?_
      intro e' p he' hp'
      rw [he] at he'
      cases he'
      rw [hp] at hp'
      cases hp'
    | some p =>
      rw [hp] at hget
      obtain ⟨buf, hbuf⟩ :
          ∃ buf, buf = e.input.take m.world.frontendHandlerMgr.recvBuffer.size := ⟨_, rfl⟩
      have hlookup : (m.world.mgr .frontEnd).handlerPool.lookup e.fd = some p := hp
      have hin : m.world.inPool .frontEnd p = true := World.inPool_of_lookup hlookup
      have hkeep : World.CallbacksKeep app m.world b ↔
          World.Survives app p buf 0 (msgDecoder.cuts buf) m.world := by
        constructor
        · intro h
          have := h e p he hp
          rwa [← hbuf] at this
        · intro h e' p' he' hp'
          obtain rfl := Option.some.inj (he.symm.trans he')
          obtain rfl := Option.some.inj (hp.symm.trans hp')
          rwa [← hbuf]
      rw [hkeep]
      -- the run is the loop, then the drain and the counters if the loop ended by itself
      obtain ⟨ts, ds, hts, hds, hiff, hend⟩ := Monitor.touched_foldFrames app buf 0
        (msgDecoder.cuts buf) (m := m.touch .frontEnd p) hin
      have hloop := frameLoop_eq (Monitor.frontEndBody app p buf) buf
        (show buf.length - 0 < buf.length + 1 by omega) (m.touch .frontEnd p)
      rw [List.drop_zero] at hloop
      rcases hr : foldFrames (Monitor.frontEndBody app p buf) 0 (msgDecoder.cuts buf)
        (m.touch .frontEnd p) with ⟨m₁, elapsed, cont⟩
      rw [hr] at hts hds hend hloop
      have htouch : (m.touch .frontEnd p).touched = m.touched ++ [(p, true)] := by
        rw [Monitor.touch, hin]
      simp only [htouch] at hts
      obtain ⟨m₂, extra, hrun, hts₂, hds₂, hextra⟩ : ∃ m₂ extra,
          Monitor.onFrontEndMsg app m b = some m₂ ∧ m₂.touched = m₁.touched ++ extra ∧
            m₂.handed = m₁.handed ∧
            (World.Survives app p buf 0 (msgDecoder.cuts buf) m.world →
              ∀ t ∈ extra, t.2 = true) := by
        cases cont with
        | false =>
          refine ⟨m₁, [], ?_, (List.append_nil _).symm, rfl, fun _ => List.forall_mem_nil _⟩
          simp only [Monitor.onFrontEndMsg, he, hget, ← hbuf, hloop]
        | true =>
          refine ⟨m₁.finishFrontEnd p b elapsed, _, ?_, m₁.touched_finishFrontEnd p b elapsed, rfl,
            ?_⟩
          · simp only [Monitor.onFrontEndMsg, he, hget, ← hbuf, hloop]
          · intro hs
            have hpool : m₁.world.inPool .frontEnd p = true := hend hs rfl
            simp [hpool]
      have hall : m₂.touched = m.touched ++ ([(p, true)] ++ ts ++ extra) := by
        rw [hts₂, hts]; simp only [List.append_assoc]
      have hhanded : m₂.handed = m.handed ++ ds := hds₂.trans hds
      constructor
      · rintro ⟨m', ts', ds', hrun', hts', hds', hgt, hgd⟩
        obtain rfl : m₂ = m' := Option.some.inj (hrun.symm.trans hrun')
        have hts_eq := List.append_cancel_left (hall.symm.trans hts')
        have hds_eq := List.append_cancel_left (hhanded.symm.trans hds')
        refine hiff.mp ⟨fun t ht => hgt t ?_, fun d hd => hgd d (hds_eq ▸ hd)⟩
        rw [← hts_eq]
        exact List.mem_append_left _ (List.mem_append_right _ ht)
      · intro hs
        obtain ⟨hgt, hgd⟩ := hiff.mpr hs
        refine ⟨m₂, _, ds, hrun, hall, hhanded, ?_, hgd⟩
        intro t ht
        rcases List.mem_append.mp ht with ht | ht
        · rcases List.mem_append.mp ht with ht | ht
          · rw [List.mem_singleton.mp ht]
          · exact hgt t ht
        · exact hextra hs t ht

/-- An application that closes a frontend whenever a message of it comes in. -/
def App.hangUp : App Unit Unit where
  onRecvFrontEnd p _ _ _ w := (0, w.destroyFrontEnd (some p))
  onRecvFrontEnd_api p _ _ _ w := .single (.destroyNet w .frontEnd (some p))
  onRecvBackEnd _ _ _ _ w := (0, w)
  onRecvBackEnd_api _ _ _ _ _ := .refl
  spawnMessage _ _ := none
  rpcSvcMgr := none
  rpcIsActive _ _ := false
  rpcResume _ _ _ w := w
  rpcResume_api _ _ _ _ := .refl

/-- A connection with one complete message in its input, of an application that hangs up. -/
def World.hangingUp : World Unit Unit :=
  let w := (World.start () (fun _ => true) .small .small .normal 0).openAt
    .frontEnd 7 0 .netEstablished
  { w with heap := w.heap.setBev 0 ⟨7, [0, 0, 0, 5, 9], [], []⟩ }

/-- The counter is incremented after the callback has destroyed the connection. -/
theorem hangUp_accesses_dangling : ¬ AccessesInPool App.hangUp ⟨World.hangingUp, [], []⟩ 0 := by
  rintro ⟨m', ts, ds, hrun, hts, _, hgood, _⟩
  have htouched : (Monitor.onFrontEndMsg App.hangUp ⟨World.hangingUp, [], []⟩ 0).map
      (·.touched) = some [(0, true), (0, true), (0, false), (0, false), (0, false)] := by rfl
  rw [hrun, Option.map_some, hts] at htouched
  have hlist : ts = [(0, true), (0, true), (0, false), (0, false), (0, false)] :=
    Option.some.inj htouched
  exact absurd (hgood (0, false) (by rw [hlist]; simp)) (by decide)

end Rapidapp
