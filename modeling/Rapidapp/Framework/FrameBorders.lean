import Rapidapp.Framework.FrameSafety

/-!
# What a handler leaves in the input

A handler copies at most as many bytes as its receive buffer holds, and hands out the frames
that are complete in the copy. What it leaves behind begins with a complete frame exactly when
the complete frames of the input were longer than the receive buffer (or one of them longer
than an `int` can say): libevent does not call the handler again for it.
-/

namespace Rapidapp

variable {σ γ : Type}

/-- A message on the wire: its header is its length. -/
structure IsMsg (f : List UInt8) : Prop where
  four_le : 4 ≤ f.length
  header : Bytes.readBe32 f = f.length

/-- The buffer begins with a complete message. -/
def BeginsWithMsg (buf : List UInt8) : Prop := ∃ f, IsMsg f ∧ f <+: buf

/-- The beginning of a message that is not complete yet. -/
def IsPartial (t : List UInt8) : Prop := ∃ f, IsMsg f ∧ t <+: f ∧ t ≠ f

theorem IsMsg.beginsWithMsg {f : List UInt8} (h : IsMsg f) (t : List UInt8) :
    BeginsWithMsg (f ++ t) :=
  ⟨f, h, List.prefix_append f t⟩

theorem IsPartial.not_beginsWithMsg {t : List UInt8} (h : IsPartial t) : ¬ BeginsWithMsg t := by
  rintro ⟨g, hg, hgt⟩
  obtain ⟨f, hf, htf, hne⟩ := h
  have hfour := hg.four_le
  have hlen : g.length = f.length := by
    rw [← hg.header, ← hf.header]
    exact Bytes.readBe32_prefix (hgt.trans htf) hfour
  have hle := hgt.length_le
  exact hne (htf.eq_of_length_le (by omega))

/-- Of a message that stands first, the decoder finds all or nothing; nothing when its length is
negative as an `int`. -/
theorem IsMsg.next {f t buf : List UInt8} (h : IsMsg f) (hbuf : buf <+: f ++ t)
    (hsize : buf.length < 2 ^ 63) :
    msgDecoder.next buf =
      if f.length ≤ buf.length ∧ f.length < 2 ^ 31 then some f.length else none := by
  have hfour := h.four_le
  have hread := Bytes.readBe32_lt f
  rw [h.header] at hread
  cases hnext : msgDecoder.next buf with
  | some n =>
    obtain ⟨hheader, hlt, hbig⟩ := header_of_next hsize hnext
    have hle := msgDecoder.next_le hnext
    have hsame : Bytes.readBe32 buf = f.length := by
      rw [Bytes.readBe32_prefix hbuf hbig, ← h.header]
      exact (Bytes.readBe32_prefix (List.prefix_append f t) hfour).symm
    rw [if_pos ⟨by omega, by omega⟩]
    congr 1
    omega
  | none =>
    rw [if_neg]
    rintro ⟨hle, hint⟩
    have hsame : Bytes.readBe32 buf = f.length := by
      rw [Bytes.readBe32_prefix hbuf (by omega), ← h.header]
      exact (Bytes.readBe32_prefix (List.prefix_append f t) hfour).symm
    have hlen : CInt.uint64 (getMsgLength buf) = f.length := by
      rw [getMsgLength, if_neg (by omega), hsame]
      exact CInt.uint64_int32 (by omega)
    have hsome := next_eq_some.mpr ⟨hlen, by omega, hle⟩
    rw [hnext] at hsome
    cases hsome

theorem IsPartial.next {t buf : List UInt8} (h : IsPartial t) (hbuf : buf <+: t)
    (hsize : buf.length < 2 ^ 63) : msgDecoder.next buf = none := by
  obtain ⟨f, hf, htf, hne⟩ := h
  have hlt : buf.length < f.length := by
    have hle := (hbuf.trans htf).length_le
    have hne' : buf.length ≠ f.length := by
      intro heq
      have := (hbuf.trans htf).eq_of_length heq
      subst this
      exact hne (htf.eq_of_length_le hbuf.length_le)
    omega
  rw [hf.next ((hbuf.trans htf).trans (List.prefix_append f [])) hsize, if_neg (by omega)]

/-- The messages found in a copy of the first `k` bytes of some messages and other bytes: the
first ones, up to the first that does not lie in the copy or is too long. -/
theorem cuts_take {ws : List (List UInt8)} (hws : ∀ f ∈ ws, IsMsg f) (t : List UInt8) {k : Nat}
    (hk : k < 2 ^ 63) :
    ∃ us vs, ws = us ++ vs ∧ us.flatten.length ≤ k ∧ (∀ u ∈ us, u.length < 2 ^ 31) ∧
      (∀ f ∈ vs.head?, k < us.flatten.length + f.length ∨ 2 ^ 31 ≤ f.length) ∧
      msgDecoder.cuts ((ws.flatten ++ t).take k) = us.map List.length ++
        if vs = [] then msgDecoder.cuts (t.take (k - us.flatten.length)) else [] := by
  induction ws generalizing k with
  | nil => exact ⟨[], [], rfl, Nat.zero_le _, by simp, by simp, by simp⟩
  | cons f ws ih =>
    have hf := hws f List.mem_cons_self
    have hflat : (f :: ws).flatten ++ t = f ++ (ws.flatten ++ t) := by simp
    have hnext := hf.next (t := ws.flatten ++ t) (List.take_prefix k _)
      (by rw [List.length_take]; omega)
    rw [hflat]
    by_cases hfound : f.length ≤ k ∧ f.length < 2 ^ 31
    · have hle : f.length ≤ ((f ++ (ws.flatten ++ t)).take k).length := by
        rw [List.length_take, List.length_append]
        omega
      rw [if_pos ⟨hle, hfound.2⟩] at hnext
      obtain ⟨us, vs, rfl, hus, hint, hvs, hcuts⟩ :=
        ih (fun w hw => hws w (List.mem_cons_of_mem _ hw)) (k := k - f.length) (by omega)
      have hlen : (f :: us).flatten.length = f.length + us.flatten.length := by
        rw [List.flatten_cons, List.length_append]
      refine ⟨f :: us, vs, rfl, ?_, ?_, ?_, ?_⟩
      · omega
      · intro u hu
        obtain rfl | hu := List.mem_cons.mp hu
        · exact hfound.2
        · exact hint u hu
      · intro g hg
        obtain hfar | hlong := hvs g hg
        · left
          omega
        · exact .inr hlong
      · rw [Framing.Decoder.cuts_of_some hnext, List.drop_take, List.drop_left, hcuts,
          List.map_cons, List.cons_append, hlen, Nat.sub_sub]
    · have hnone : msgDecoder.next ((f ++ (ws.flatten ++ t)).take k) = none := by
        rw [hnext, if_neg]
        rintro ⟨hle, hint⟩
        rw [List.length_take] at hle
        exact hfound ⟨by omega, hint⟩
      refine ⟨[], f :: ws, rfl, Nat.zero_le _, by simp, ?_, ?_⟩
      · intro g hg
        simp only [List.head?_cons, Option.mem_some_iff] at hg
        subst hg
        simp only [List.flatten_nil, List.length_nil]
        omega
      · rw [Framing.Decoder.cuts_of_none hnone, if_neg (List.cons_ne_nil f ws)]
        rfl

theorem IsPartial.cuts_take {t : List UInt8} (h : IsPartial t) {k : Nat} (hk : k < 2 ^ 63) :
    msgDecoder.cuts (t.take k) = [] :=
  Framing.Decoder.cuts_of_none
    (h.next (List.take_prefix k t) (by rw [List.length_take]; omega))

/-! ## A handler whose callbacks keep the connection -/

/-- No callback of that side destroys the connection. -/
structure App.KeepsOpen (app : App σ γ) (side : Side) (p : NetPtr) : Prop where
  onRecv : app.Keeps side p
  onRpcCall : side = .frontEnd → ∀ getRpcService ∈ app.rpcSvcMgr, ∀ name, ∀ svc ∈ getRpcService name,
    ∀ req w, World.Ok w → (w.heap.nets p).isSome → ((svc.onRpcCall p req w).heap.nets p).isSome
  rpcResume : side = .backEnd → ∀ rpc data size w, World.Ok w → (w.heap.nets p).isSome →
    ((app.rpcResume rpc data size w).heap.nets p).isSome

namespace World

/-- An open connection in the pool of its side. -/
structure Attached (side : Side) (p : NetPtr) (b : BevPtr) (w : World σ γ) : Prop where
  ok : Ok w
  live : ∃ n e, w.heap.Live p n b e ∧ (w.mgr side).handlerPool.lookup e.fd = some p

theorem Attached.alive {side : Side} {p : NetPtr} {b : BevPtr} {w : World σ γ}
    (h : Attached side p b w) : ∃ n, w.heap.nets p = some n := by
  obtain ⟨n, _, hl, _⟩ := h.live
  exact ⟨n, hl.net⟩

theorem Attached.of_kept {side : Side} {p : NetPtr} {b : BevPtr} {w w' : World σ γ}
    (h : Attached side p b w) (hk : Kept w w') (halive : ∃ n, w'.heap.nets p = some n) :
    Attached side p b w' := by
  obtain ⟨n, e, hl, hlookup⟩ := h.live
  obtain ⟨n', hn'⟩ := halive
  obtain ⟨hev, _⟩ := hk.stable.net hl.net hn'
  obtain ⟨e', he', hfd, _⟩ := hk.stable.bev hl hn'
  refine ⟨hk.ok, n', e', ⟨hn', hev.trans hl.hevent, he'⟩, ?_⟩
  rw [hfd]
  exact hk.stable.pool hlookup hn'

/-- A store through the pointer that leaves the identity of the connection alone. -/
theorem kept_modifyNet {w : World σ γ} (h : Ok w) {p : NetPtr} {n : EasyNet γ}
    (hn : w.heap.nets p = some n) {f : EasyNet γ → EasyNet γ}
    (hf : ∀ n, (f n).hevent = n.hevent ∧ (f n).nid = n.nid ∧ (f n).netType = n.netType ∧
      (f n).rpcBinded = n.rpcBinded) :
    Kept w (w.modifyNet p f) ∧ (w.modifyNet p f).heap.nets p = some (f n) := by
  obtain ⟨hev, hnid, hty, hrpc⟩ := hf n
  rw [modifyNet, hn]
  exact ⟨kept_setNet h hn hev hnid hty hrpc, Function.update_self _ _ _⟩

/-- `DestroyFrontEnd` of an open connection frees its `bufferevent`. -/
theorem Attached.bevs_destroyFrontEnd {p : NetPtr} {b : BevPtr} {w : World σ γ}
    (h : Attached .frontEnd p b w) : (w.destroyFrontEnd (some p)).heap.bevs b = none := by
  obtain ⟨n, e, hl, hlookup⟩ := h.live
  have hremove : w.destroyFrontEnd (some p) = w.eraseAt .frontEnd e.fd p := by
    have hget := getHandlerByEvent_eq .frontEnd hl.bev
    simp only [destroyFrontEnd, destroyNet, NetHandlerMgr.removeHandler, hl.net, Option.bind_some,
      hl.hevent, NetHandlerMgr.removeHandlerByEvent, hget, hlookup, getfd_of_bev hl.bev, eraseAt]
  rw [hremove, heap_eraseAt w .frontEnd e.fd hl, Heap.release]
  exact Function.update_self _ _ _

theorem bevs_modifyNet (w : World σ γ) (p : NetPtr) (f : EasyNet γ → EasyNet γ) :
    (w.modifyNet p f).heap.bevs = w.heap.bevs := by
  rw [modifyNet]
  split <;> rfl

theorem exists_of_modifyNet {w : World σ γ} {p : NetPtr} {f : EasyNet γ → EasyNet γ}
    {n : EasyNet γ} (h : (w.modifyNet p f).heap.nets p = some n) :
    ∃ n', w.heap.nets p = some n' := by
  cases hn : w.heap.nets p with
  | none =>
    rw [modifyNet, hn] at h
    exact absurd (hn.symm.trans h) (by simp)
  | some n' => exact ⟨n', rfl⟩

theorem nets_evbufferDrain (w : World σ γ) (b : BevPtr) (len : Nat) :
    (w.evbufferDrain b len).heap.nets = w.heap.nets := by
  rw [evbufferDrain]
  split <;> rfl

theorem evbufferDrain_input {w : World σ γ} {b : BevPtr} {e : BufferEvent}
    (he : w.heap.bevs b = some e) (len : Nat) :
    ∃ e', (w.evbufferDrain b len).heap.bevs b = some e' ∧ e'.input = e.input.drop len := by
  rw [evbufferDrain, he]
  exact ⟨_, Function.update_self _ _ _, rfl⟩

theorem onFrontEndRpcMsg_alive {app : App σ γ} {p : NetPtr} (hkeep : app.KeepsOpen .frontEnd p)
    {w : World σ γ} (h : Ok w) (hp : (w.heap.nets p).isSome) (data : List UInt8) (size : Nat) :
    ((onFrontEndRpcMsg app p data size w).2.heap.nets p).isSome := by
  unfold onFrontEndRpcMsg
  cases app.spawnMessage data size with
  | none => exact hp
  | some req =>
    cases hmgr : app.rpcSvcMgr with
    | none => exact hp
    | some getRpcService =>
      dsimp only
      cases hsvc : getRpcService req.typeName with
      | none => exact hp
      | some svc =>
        dsimp only
        split_ifs
        · exact hkeep.onRpcCall rfl _ hmgr _ _ hsvc req w h hp
        · exact hp

end World

namespace Monitor

open World

variable {app : App σ γ} {side : Side} {p : NetPtr} {b : BevPtr} {m : Monitor σ γ}

/-- How the loop goes on: with the connection, or without it when a request was refused. -/
structure WentOn (side : Side) (p : NetPtr) (b : BevPtr) (m m' : Monitor σ γ) (cont : Bool) :
    Prop where
  kept : Kept m.world m'.world
  alive : cont = true → ∃ n, m'.world.heap.nets p = some n
  refused : cont = false →
    side = .frontEnd ∧ m.world.svcMode = .rpc ∧ m'.world.heap.bevs b = none

theorem WentOn.trans {m' m'' : Monitor σ γ} {cont : Bool} (ha : m.world.Ok)
    (h : WentOn side p b m m' true) (h' : WentOn side p b m' m'' cont) :
    WentOn side p b m m'' cont where
  kept := h.kept.trans ha h'.kept
  alive := h'.alive
  refused hcont := by
    obtain ⟨hside, hmode, hgone⟩ := h'.refused hcont
    exact ⟨hside, h.kept.stable.svcMode ▸ hmode, hgone⟩

/-- One frame. -/
theorem wentOn_frameBody (h : Attached side p b m.world) (hkeep : app.KeepsOpen side p)
    (buf : List UInt8) (elapsed msglen : Nat) :
    ∃ m' cont, frameBody app side p buf elapsed msglen m = (m', cont) ∧
      WentOn side p b m m' cont := by
  obtain ⟨n, hn⟩ := h.alive
  have hsome : (m.world.heap.nets p).isSome := by rw [hn]; rfl
  have hcount : ∀ n : EasyNet γ, (countPkg n).hevent = n.hevent ∧ (countPkg n).nid = n.nid ∧
      (countPkg n).netType = n.netType ∧ (countPkg n).rpcBinded = n.rpcBinded :=
    fun n => ⟨rfl, rfl, rfl, rfl⟩
  cases side with
  | frontEnd =>
    cases hmode : m.world.svcMode with
    | normal =>
      have hkept := ApiReach.kept h.ok (app.onRecvFrontEnd_api p n.netType
        (payloadBytes buf elapsed msglen) (payloadSize msglen) m.world)
      obtain ⟨n', hn'⟩ := Option.isSome_iff_exists.mp (hkeep.onRecv n.netType
        (payloadBytes buf elapsed msglen) (payloadSize msglen) m.world h.ok hsome)
      obtain ⟨hmod, hnet⟩ := kept_modifyNet hkept.ok hn' hcount
      generalize hw : (app.onRecvFrontEnd p n.netType (payloadBytes buf elapsed msglen)
        (payloadSize msglen) m.world).2 = w at hkept hmod hnet
      refine ⟨((((m.touch .frontEnd p).hand .frontEnd p buf elapsed msglen).goTo w).touch
        .frontEnd p).goTo (w.modifyNet p countPkg), true, ?_, hkept.trans h.ok hmod,
        fun _ => ⟨_, hnet⟩, fun hcont => by cases hcont⟩
      simp only [frameBody, frontEndBody, hmode, touch, hand, hn, ← hw]
      rfl
    | rpc =>
      have halive := onFrontEndRpcMsg_alive hkeep h.ok hsome (payloadBytes buf elapsed msglen)
        (payloadSize msglen)
      have hworld : (m.hand .frontEnd p buf elapsed msglen).world = m.world := rfl
      obtain ⟨_, hmsg⟩ | ⟨_, ret, w, hret, hmsg, hreach⟩ := onFrontEndRpcMsg_cases app p
        (payloadBytes buf elapsed msglen) (payloadSize msglen) m.world
      · refine ⟨(((m.hand .frontEnd p buf elapsed msglen).goTo m.world).touch .frontEnd p).goTo
          (m.world.destroyFrontEnd (some p)), false, ?_,
          kept_destroyNet h.ok .frontEnd (some p), (fun hcont => by cases hcont),
          fun _ => ⟨rfl, hmode, h.bevs_destroyFrontEnd⟩⟩
        simp only [frameBody, frontEndBody, hmode, hworld, hmsg]
        rfl
      · rw [hmsg] at halive
        obtain ⟨n', hn'⟩ := Option.isSome_iff_exists.mp halive
        have hkept := ApiReach.kept h.ok hreach
        obtain ⟨hmod, hnet⟩ := kept_modifyNet hkept.ok hn' hcount
        refine ⟨(((m.hand .frontEnd p buf elapsed msglen).goTo w).touch .frontEnd p).goTo
          (w.modifyNet p countPkg), true, ?_, hkept.trans h.ok hmod, fun _ => ⟨_, hnet⟩,
          fun hcont => by cases hcont⟩
        simp only [frameBody, frontEndBody, hmode, hworld, hmsg, if_neg (not_lt.mpr hret)]
  | backEnd =>
    have honRecv : WentOn .backEnd p b m (((m.touch .backEnd p).hand .backEnd p buf elapsed
        msglen).goTo (app.onRecvBackEnd p n.netType (payloadBytes buf elapsed msglen)
          (payloadSize msglen) m.world).2) true :=
      ⟨ApiReach.kept h.ok (app.onRecvBackEnd_api _ _ _ _ _),
        fun _ => Option.isSome_iff_exists.mp (hkeep.onRecv _ _ _ m.world h.ok hsome),
        fun hcont => by cases hcont⟩
    cases hrpc : n.rpcBinded with
    | none =>
      refine ⟨_, true, ?_, honRecv⟩
      simp only [frameBody, backEndBody, touch, hand, hn, Option.bind_some, hrpc]
      rfl
    | some rpc =>
      by_cases hactive : app.rpcIsActive rpc m.world
      · refine ⟨((m.touch .backEnd p).hand .backEnd p buf elapsed msglen).goTo
          (app.rpcResume rpc (payloadBytes buf elapsed msglen) (payloadSize msglen) m.world), true,
          ?_, ApiReach.kept h.ok (app.rpcResume_api _ _ _ _),
          fun _ => Option.isSome_iff_exists.mp (hkeep.rpcResume rfl _ _ _ m.world h.ok hsome),
          fun hcont => by cases hcont⟩
        simp only [frameBody, backEndBody, touch, hand, hn, Option.bind_some, hrpc, hactive]
        rfl
      · refine ⟨_, true, ?_, honRecv⟩
        simp only [frameBody, backEndBody, touch, hand, hn, Option.bind_some, hrpc, hactive]
        rfl

/-- The frames of a buffer, one after the other. -/
theorem wentOn_foldFrames (h : Attached side p b m.world) (hkeep : app.KeepsOpen side p)
    (buf : List UInt8) (elapsed : Nat) (lens : List Nat) :
    ∃ m' drained cont,
      foldFrames (frameBody app side p buf) elapsed lens m = (m', drained, cont) ∧
        WentOn side p b m m' cont ∧ (cont = true → drained = elapsed + lens.sum) := by
  induction lens generalizing m elapsed with
  | nil => exact ⟨m, elapsed, true, rfl, ⟨Kept.refl h.ok, fun _ => h.alive,
      fun hcont => by cases hcont⟩, fun _ => rfl⟩
  | cons msglen rest ih =>
    obtain ⟨m₁, cont, hbody, hwent⟩ := wentOn_frameBody h hkeep buf elapsed msglen
    rw [foldFrames, hbody]
    cases cont with
    | false => exact ⟨m₁, elapsed, false, rfl, hwent, fun hcont => by cases hcont⟩
    | true =>
      have h₁ := h.of_kept hwent.kept (hwent.alive rfl)
      obtain ⟨m₂, drained, cont, hfold, hwent', hsum⟩ := ih h₁ (elapsed + msglen)
      refine ⟨m₂, drained, cont, hfold, hwent.trans h.ok hwent', fun hcont => ?_⟩
      rw [hsum hcont, List.sum_cons, Nat.add_assoc]

/-- One run of a handler drains the frames it copied, unless a request was refused. -/
theorem attached_onMsg (h : Attached side p b m.world) (hkeep : app.KeepsOpen side p)
    {e : BufferEvent} (he : m.world.heap.bevs b = some e) {buf : List UInt8}
    (hbuf : buf = e.input.take (m.world.mgr side).recvBuffer.size) :
    ∃ m', onMsg app side m b = some m' ∧
      (side = .frontEnd ∧ m.world.svcMode = .rpc ∧ m'.world.heap.bevs b = none ∨
        ∃ e', m'.world.heap.bevs b = some e' ∧
          e'.input = e.input.drop (msgDecoder.cuts buf).sum) := by
  have ht : Attached side p b (m.touch side p).world := h
  obtain ⟨m₁, drained, cont, hfold, hwent, hsum⟩ :=
    wentOn_foldFrames ht hkeep buf 0 (msgDecoder.cuts buf)
  have hloop : frameLoop (frameBody app side p buf) buf (buf.length + 1) 0 (m.touch side p) =
      some (m₁, drained, cont) := by
    rw [frameLoop_eq _ _ (by omega), List.drop_zero, hfold]
  obtain ⟨n, f, hl, hlookup⟩ := h.live
  obtain rfl : f = e := Option.some.inj (hl.bev.symm.trans he)
  have hget := getHandlerByEvent_eq side he
  rw [hlookup] at hget
  cases side with
  | frontEnd =>
    have hget' : m.world.frontendHandlerMgr.getHandlerByEvent m.world.heap b = some p := hget
    have hbuf' : f.input.take m.world.frontendHandlerMgr.recvBuffer.size = buf := hbuf.symm
    simp only [frameBody] at hloop
    simp only [onMsg, onFrontEndMsg, he, hget', hbuf', hloop]
    cases cont with
    | false => exact ⟨m₁, rfl, .inl ⟨trivial, (hwent.refused rfl).2⟩⟩
    | true =>
      obtain ⟨n', hn'⟩ := hwent.alive rfl
      obtain ⟨e', he', _, hin, _⟩ := hwent.kept.stable.bev hl hn'
      obtain ⟨e₂, he₂, hin₂⟩ := evbufferDrain_input (w := m₁.world) he' drained
      refine ⟨m₁.finishFrontEnd p b drained, rfl, .inr ⟨e₂, ?_, ?_⟩⟩
      · simp only [finishFrontEnd, goTo, touch, bevs_modifyNet]
        exact he₂
      · rw [hin₂, hin, hsum rfl, Nat.zero_add]
  | backEnd =>
    have hget' : m.world.backendHandlerMgr.getHandlerByEvent m.world.heap b = some p := hget
    have hbuf' : f.input.take m.world.backendHandlerMgr.recvBuffer.size = buf := hbuf.symm
    simp only [frameBody] at hloop
    simp only [onMsg, onBackEndMsg, he, hget', hbuf', hloop]
    have hcont : cont = true := by
      cases cont with
      | false => cases (hwent.refused rfl).1
      | true => rfl
    obtain ⟨n', hn'⟩ := hwent.alive hcont
    obtain ⟨e', he', _, hin, _⟩ := hwent.kept.stable.bev hl hn'
    obtain ⟨e₂, he₂, hin₂⟩ := evbufferDrain_input (w := m₁.world) he' drained
    refine ⟨_, rfl, .inr ⟨e₂, he₂, ?_⟩⟩
    rw [hin₂, hin, hsum hcont, Nat.zero_add]

end Monitor

/-- A handler runs on an input of some messages and a part of one: it ends, the connection is
still there unless a request was refused, and then the input does not begin with a complete
message exactly when the messages fit into the receive buffer together and the length of each
fits into an `int`. -/
theorem exhausted_iff {app : App σ γ} {side : Side} {p : NetPtr} {b : BevPtr} {m : Monitor σ γ}
    (h : World.Attached side p b m.world) (hkeep : app.KeepsOpen side p) {maxMsgSize : Nat}
    (hsize : (m.world.mgr side).recvBuffer.size = 2 * maxMsgSize) {e : BufferEvent}
    (he : m.world.heap.bevs b = some e) {ws : List (List UInt8)} {t : List UInt8}
    (hinput : e.input = ws.flatten ++ t) (hws : ∀ f ∈ ws, IsMsg f) (ht : IsPartial t) :
    ∃ m', Monitor.onMsg app side m b = some m' ∧
      (side = .backEnd ∨ m.world.svcMode = .normal → (m'.world.heap.bevs b).isSome) ∧
      ∀ e', m'.world.heap.bevs b = some e' →
        (¬ BeginsWithMsg e'.input ↔
          ws.flatten.length ≤ 2 * maxMsgSize ∧ ∀ f ∈ ws, f.length < 2 ^ 31) := by
  have hlt := (m.world.mgr side).recvBuffer.size_lt
  rw [hsize] at hlt
  obtain ⟨m', hrun, hleft⟩ := Monitor.attached_onMsg h hkeep he rfl
  refine ⟨m', hrun, ?_, ?_⟩
  · intro hmode
    obtain ⟨rfl, hrpc, _⟩ | ⟨e', he', _⟩ := hleft
    · obtain hback | hnormal := hmode
      · cases hback
      · rw [hrpc] at hnormal
        cases hnormal
    · rw [he']
      rfl
  · intro e' he'
    obtain ⟨_, _, hgone⟩ | ⟨e'', he'', hin⟩ := hleft
    · rw [hgone] at he'
      cases he'
    obtain rfl : e'' = e' := Option.some.inj (he''.symm.trans he')
    obtain ⟨us, vs, rfl, hus, hint, hvs, hcuts⟩ := cuts_take hws t hlt
    rw [ht.cuts_take (by omega), ite_self, List.append_nil] at hcuts
    have hdrained : (msgDecoder.cuts (e.input.take (m.world.mgr side).recvBuffer.size)).sum =
        us.flatten.length := by
      rw [hsize, hinput, hcuts, List.length_flatten]
    have hrest : e''.input = vs.flatten ++ t := by
      rw [hin, hdrained, hinput, List.flatten_append, List.append_assoc, List.drop_left]
    rw [hrest]
    cases vs with
    | nil =>
      refine iff_of_true ht.not_beginsWithMsg ?_
      rw [List.append_nil]
      exact ⟨hus, hint⟩
    | cons f vs =>
      have hf := hws f (by simp)
      refine iff_of_false (not_not.mpr ?_) ?_
      · rw [List.flatten_cons, List.append_assoc]
        exact hf.beginsWithMsg _
      · rintro ⟨hall, hshort⟩
        obtain hfar | hlong := hvs f rfl
        · rw [List.flatten_append, List.length_append, List.flatten_cons,
            List.length_append] at hall
          omega
        · have := hshort f (by simp)
          omega

/-! ## A frontend in `normal` mode, whatever its callbacks do -/

theorem mem_dispatchesAt {p : NetPtr} {buf : List UInt8} {elapsed : Nat} {lens : List Nat}
    {d : Dispatch} : d ∈ dispatchesAt p buf elapsed lens ↔
      ∃ before n after, lens = before ++ n :: after ∧
        d = Dispatch.ofFrame p buf (elapsed + before.sum) n true := by
  induction lens generalizing elapsed with
  | nil => simp [dispatchesAt]
  | cons n rest ih =>
    rw [dispatchesAt, List.mem_cons, ih]
    constructor
    · rintro (rfl | ⟨before, k, after, rfl, rfl⟩)
      · exact ⟨[], n, rest, rfl, by simp⟩
      · exact ⟨n :: before, k, after, rfl, by rw [List.sum_cons, Nat.add_assoc]⟩
    · rintro ⟨before, k, after, hsplit, rfl⟩
      cases before with
      | nil =>
        cases hsplit
        exact .inl (by simp)
      | cons n' before =>
        cases hsplit
        exact .inr ⟨before, k, after, rfl, by rw [List.sum_cons, Nat.add_assoc]⟩

namespace Monitor

open World

variable {app : App σ γ} {p : NetPtr} {b : BevPtr} {m : Monitor σ γ}

theorem kept_countPkg {w : World σ γ} (h : Ok w) (p : NetPtr) :
    Kept w (w.modifyNet p countPkg) := by
  cases hn : w.heap.nets p with
  | none =>
    rw [modifyNet, hn]
    exact Kept.refl h
  | some n => exact (kept_modifyNet (f := countPkg) h hn fun n => ⟨rfl, rfl, rfl, rfl⟩).1

/-- The frames of a buffer in `normal` mode: all are handed out. -/
theorem normal_foldFrames (h : m.world.Ok) (hmode : m.world.svcMode = .normal) (app : App σ γ)
    (p : NetPtr) (buf : List UInt8) (elapsed : Nat) (lens : List Nat) :
    ∃ m' ds, foldFrames (frontEndBody app p buf) elapsed lens m = (m', elapsed + lens.sum, true) ∧
      Kept m.world m'.world ∧ m'.handed = m.handed ++ ds ∧
      ds.map range = dispatchesAt p buf elapsed lens := by
  induction lens generalizing m elapsed with
  | nil => exact ⟨m, [], rfl, Kept.refl h, (List.append_nil _).symm, rfl⟩
  | cons msglen rest ih =>
    obtain ⟨w, hw⟩ : ∃ w, w = (app.onRecvFrontEnd p
      (((m.world.heap.nets p).map (·.netType)).getD 0) (payloadBytes buf elapsed msglen)
      (payloadSize msglen) m.world).2 := ⟨_, rfl⟩
    have hrecv : Kept m.world w := hw ▸ ApiReach.kept h (app.onRecvFrontEnd_api _ _ _ _ _)
    have hcount := kept_countPkg hrecv.ok p
    have hkept := hrecv.trans h hcount
    obtain ⟨m₁, hm₁, hbody⟩ : ∃ m₁ : Monitor σ γ, (m₁.world = w.modifyNet p countPkg ∧
        m₁.handed = m.handed ++
          [Dispatch.ofFrame p buf elapsed msglen (m.world.inPool .frontEnd p)]) ∧
        frontEndBody app p buf elapsed msglen m = (m₁, true) := by
      refine ⟨(frontEndBody app p buf elapsed msglen m).1, ?_, ?_⟩ <;>
        simp only [frontEndBody, hmode, touch, hand, goTo, ← hw, and_self]
    have hmode₁ : m₁.world.svcMode = .normal := by
      rw [hm₁.1, hkept.stable.svcMode, hmode]
    obtain ⟨m₂, ds, hfold, hkept₂, hds, hrange⟩ :=
      ih (hm₁.1 ▸ hkept.ok) hmode₁ (elapsed + msglen)
    refine ⟨m₂, Dispatch.ofFrame p buf elapsed msglen (m.world.inPool .frontEnd p) :: ds, ?_,
      hkept.trans h (hm₁.1 ▸ hkept₂), ?_, ?_⟩
    · rw [foldFrames, hbody]
      dsimp only
      rw [hfold, List.sum_cons, Nat.add_assoc]
    · rw [hds, hm₁.2, List.append_assoc, List.singleton_append]
    · rw [List.map_cons, hrange, dispatchesAt]
      rfl

/-- One run of `OnFrontEndMsg` in `normal` mode hands out all the frames it copied; if the
connection is still there, they are no longer in its input. -/
theorem normal_onFrontEndMsg (h : Attached .frontEnd p b m.world)
    (hmode : m.world.svcMode = .normal) {e : BufferEvent} (he : m.world.heap.bevs b = some e)
    {buf : List UInt8} (hbuf : buf = e.input.take m.world.frontendHandlerMgr.recvBuffer.size) :
    ∃ m' ds, onFrontEndMsg app m b = some m' ∧ m'.handed = m.handed ++ ds ∧
      ds.map range = dispatchesAt p buf 0 (msgDecoder.cuts buf) ∧
      ∀ n e', m'.world.heap.nets p = some n → m'.world.heap.bevs b = some e' →
        e'.input = e.input.drop (msgDecoder.cuts buf).sum := by
  obtain ⟨m₁, ds, hfold, hkept, hds, hrange⟩ := normal_foldFrames (m := m.touch .frontEnd p)
    h.ok hmode app p buf 0 (msgDecoder.cuts buf)
  have hloop : frameLoop (frontEndBody app p buf) buf (buf.length + 1) 0 (m.touch .frontEnd p) =
      some (m₁, (msgDecoder.cuts buf).sum, true) := by
    rw [frameLoop_eq _ _ (by omega), List.drop_zero, hfold, Nat.zero_add]
  obtain ⟨n, f, hl, hlookup⟩ := h.live
  obtain rfl : f = e := Option.some.inj (hl.bev.symm.trans he)
  have hget : m.world.frontendHandlerMgr.getHandlerByEvent m.world.heap b = some p :=
    (getHandlerByEvent_eq .frontEnd he).trans hlookup
  refine ⟨m₁.finishFrontEnd p b (msgDecoder.cuts buf).sum, ds, ?_, hds, hrange, ?_⟩
  · simp only [onFrontEndMsg, he, hget, ← hbuf, hloop]
  · intro n' e' hn' he'
    simp only [finishFrontEnd, goTo, touch, bevs_modifyNet] at hn' he'
    obtain ⟨n₁, hn₁⟩ := exists_of_modifyNet hn'
    rw [nets_evbufferDrain] at hn₁
    obtain ⟨e₁, he₁, _, hin, _⟩ := hkept.stable.bev hl hn₁
    obtain ⟨e₂, he₂, hin₂⟩ := evbufferDrain_input he₁ (msgDecoder.cuts buf).sum
    rw [he₂] at he'
    cases he'
    rw [hin₂, hin]

end Monitor

/-! ## A message that is too long -/

namespace Monitor

open World

variable {app : App σ γ} {p : NetPtr} {b : BevPtr} {m : Monitor σ γ}

/-- When there is no complete frame in the copy, nothing happens. -/
theorem idle_onFrontEndMsg (h : Serving .frontEnd p b m.world) {e : BufferEvent}
    (he : m.world.heap.bevs b = some e)
    (hnext : msgDecoder.next (e.input.take m.world.frontendHandlerMgr.recvBuffer.size) = none) :
    ∃ m' e', onFrontEndMsg app m b = some m' ∧ Serving .frontEnd p b m'.world ∧
      m'.world.heap.bevs b = some e' ∧ e'.input = e.input ∧ m'.handed = m.handed ∧
      m'.world.frontendHandlerMgr.recvBuffer = m.world.frontendHandlerMgr.recvBuffer := by
  have hget : m.world.frontendHandlerMgr.getHandlerByEvent m.world.heap b = some p :=
    h.getHandlerByEvent
  generalize hbuf : e.input.take m.world.frontendHandlerMgr.recvBuffer.size = buf at hnext
  have hloop : frameLoop (frontEndBody app p buf) buf (buf.length + 1) 0 (m.touch .frontEnd p) =
      some (m.touch .frontEnd p, 0, true) := by
    rw [frameLoop_eq _ _ (by omega), List.drop_zero, Framing.Decoder.cuts_of_none hnext, foldFrames]
  obtain ⟨e₁, h₁, he₁, hin₁, _⟩ := h.drain he 0
  have h₂ := served_modifyNet (m := ((m.touch .frontEnd p).touch .frontEnd p).goTo
    (m.world.evbufferDrain b 0)) (f := countTraffic 0 (m.world.evbufferDrain b 0).now) h₁
    fun n => ⟨rfl, rfl, rfl, rfl⟩
  obtain ⟨e₂, he₂, _, hin₂, _⟩ := h₂.bev h₁ he₁
  refine ⟨(m.touch .frontEnd p).finishFrontEnd p b 0, e₂, ?_, h₂.serving h₁, he₂, ?_, rfl, ?_⟩
  · simp only [onFrontEndMsg, he, hget, hbuf, hloop]
  · rw [hin₂, hin₁, List.drop_zero]
  · have hrecv := h₂.stable.recvBuffer .frontEnd
    have hdrain : (m.world.evbufferDrain b 0).frontendHandlerMgr = m.world.frontendHandlerMgr := by
      rw [evbufferDrain, he]
    exact hrecv.trans (congrArg _ hdrain)

/-- A frontend that sends a message longer than the receive buffer is never heard again, however
its bytes arrive and whatever follows them. -/
theorem blocked_run (h : Serving .frontEnd p b m.world) {e : BufferEvent}
    (he : m.world.heap.bevs b = some e) {f t : List UInt8} (hf : IsMsg f)
    (hlong : m.world.frontendHandlerMgr.recvBuffer.size < f.length)
    {chunks : List (List UInt8)} (hchunks : e.input ++ chunks.flatten <+: f ++ t) :
    ∃ m' e', Run.run (arrive app .frontEnd b) m chunks = some m' ∧ m'.handed = m.handed ∧
      m'.world.heap.bevs b = some e' ∧ e'.input = e.input ++ chunks.flatten := by
  induction chunks generalizing m e with
  | nil => exact ⟨m, e, rfl, rfl, he, by simp⟩
  | cons chunk chunks ih =>
    rw [List.flatten_cons, ← List.append_assoc] at hchunks
    have h₁ := h.setBev he
      (show ({ e with input := e.input ++ chunk } : BufferEvent).fd = e.fd from rfl)
    have he₁ : (m.world.heap.setBev b { e with input := e.input ++ chunk }).bevs b =
        some { e with input := e.input ++ chunk } := Function.update_self _ _ _
    have hsize := m.world.frontendHandlerMgr.recvBuffer.size_lt
    have hnext : msgDecoder.next
        ((e.input ++ chunk).take m.world.frontendHandlerMgr.recvBuffer.size) = none := by
      have hprefix := (List.take_prefix m.world.frontendHandlerMgr.recvBuffer.size
        (e.input ++ chunk)).trans ((List.prefix_append _ _).trans hchunks)
      have hlen := List.length_take_le m.world.frontendHandlerMgr.recvBuffer.size
        (e.input ++ chunk)
      rw [hf.next hprefix (by omega), if_neg (by omega)]
    obtain ⟨m₂, e₂, hrun, h₂, he₂, hin₂, hhanded, hrecv⟩ := idle_onFrontEndMsg
      (m := m.goTo { m.world with
        heap := m.world.heap.setBev b { e with input := e.input ++ chunk } }) h₁ he₁ hnext
    have hlong₂ : m₂.world.frontendHandlerMgr.recvBuffer.size < f.length := by
      rw [hrecv]
      exact hlong
    have hin : e₂.input = e.input ++ chunk := hin₂
    obtain ⟨m₃, e₃, hrest, hhanded₃, he₃, hin₃⟩ := ih h₂ he₂ hlong₂ (by rw [hin]; exact hchunks)
    refine ⟨m₃, e₃, ?_, hhanded₃.trans hhanded, he₃, ?_⟩
    · have hstep : arrive app .frontEnd b m chunk = some m₂ := by
        simp only [arrive, he]
        exact hrun
      rw [Run.run_cons, hstep, Option.bind_some, hrest]
    · rw [hin₃, hin, List.flatten_cons, List.append_assoc]

end Monitor

/-! ## Two inputs -/

theorem App.keepsOpen_recorder (side : Side) (p : NetPtr) : App.recorder.KeepsOpen side p where
  onRecv := by
    intro type data size w _ halive
    cases side <;> exact halive
  onRpcCall := by
    intro _ getRpcService hsome
    cases hsome
  rpcResume := fun _ _ _ _ _ _ halive => halive

/-- A frontend connection that holds this input; the receive buffer is for messages of 32 bytes. -/
def World.holding (input : List UInt8) : World (List (List UInt8)) Unit :=
  { World.recording .small with
    heap := (World.recording .small).heap.setBev 0 ⟨7, input, [], []⟩ }

theorem World.attached_holding (input : List UInt8) :
    World.Attached .frontEnd 0 0 (World.holding input) := by
  have hfresh : (World.start (σ := List (List UInt8)) (γ := Unit) [] (fun _ => true) .small .small
      .normal 0).FreshFd 7 := ⟨by decide, by decide, fun _ _ h => by cases h⟩
  have hserve := World.serving_openAt (World.ok_start _ _ _ _ _ _) .frontEnd hfresh 0
    .netEstablished fun _ => rfl
  have hin : World.Serving .frontEnd 0 0 (World.holding input) :=
    hserve.setBev (e := ⟨7, [], [], []⟩) rfl rfl
  exact ⟨hin.ok, hin.live⟩

/-- A message of 32 bytes. -/
def fullMsg : List UInt8 := encodeMsg (List.replicate 32 9)

theorem isMsg_fullMsg : IsMsg fullMsg := ⟨by decide, by decide⟩

/-- One message and the beginning of another. -/
theorem exhausted_one : ∃ m' : Monitor (List (List UInt8)) Unit,
    Monitor.onMsg App.recorder .frontEnd ⟨World.holding (fullMsg ++ [0, 0]), [], []⟩ 0 = some m' ∧
      ∃ e', m'.world.heap.bevs 0 = some e' ∧ ¬ BeginsWithMsg e'.input := by
  have hpartial : IsPartial [0, 0] := ⟨fullMsg, isMsg_fullMsg, by decide, by decide⟩
  have hsize : ((World.holding (fullMsg ++ [0, 0])).mgr .frontEnd).recvBuffer.size = 2 * 32 := rfl
  have hinput : fullMsg ++ [0, 0] = [fullMsg].flatten ++ [0, 0] := by decide
  obtain ⟨m', hrun, hsome, hiff⟩ := exhausted_iff
    (m := ⟨World.holding (fullMsg ++ [0, 0]), [], []⟩) (World.attached_holding _)
    (App.keepsOpen_recorder .frontEnd 0) hsize rfl hinput (by simp [isMsg_fullMsg]) hpartial
  obtain ⟨e', he'⟩ := Option.isSome_iff_exists.mp (hsome (.inr rfl))
  exact ⟨m', hrun, e', he', (hiff e' he').mpr ⟨by decide, by decide⟩⟩

/-- Of two messages, each of which fits into the receive buffer, the second is left behind. -/
theorem exhausted_not_two : fullMsg.length ≤ 2 * 32 ∧
    ((World.holding (fullMsg ++ fullMsg)).mgr .frontEnd).recvBuffer.size = 2 * 32 ∧
    ∃ m' e', Monitor.onMsg App.recorder .frontEnd
      ⟨World.holding (fullMsg ++ fullMsg), [], []⟩ 0 = some m' ∧
        m'.world.heap.bevs 0 = some e' ∧ BeginsWithMsg e'.input := by
  have hinput : ((Monitor.onMsg App.recorder .frontEnd
      ⟨World.holding (fullMsg ++ fullMsg), [], []⟩ 0).bind fun m' =>
        (m'.world.heap.bevs 0).map (·.input)) = some fullMsg := by decide +kernel
  obtain ⟨m', hrun, hm'⟩ := Option.bind_eq_some_iff.mp hinput
  obtain ⟨e', he', hin⟩ := Option.map_eq_some_iff.mp hm'
  refine ⟨by decide, rfl, m', e', hrun, he', fullMsg, isMsg_fullMsg, ?_⟩
  exact hin ▸ List.prefix_refl fullMsg

end Rapidapp
