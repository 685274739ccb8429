import Rapidapp.Misc.Run
import Rapidapp.Framework.ApiOk
import Rapidapp.Framework.FrameCuts

/-!
# What is sent arrives, in order and once

Payloads written by `EasyNet::Send` on one side of a connection, cut into arbitrary chunks
on the way, and handed out by `OnFrontEndMsg` or `OnBackEndMsg` on the other. One run of a
handler drains exactly the frames it hands out (`arrive_serving`); since these are the
frames `cuts_of_prefix` finds in a prefix of a concatenation of frames, the payloads handed
out so far are a prefix of the payloads sent, for every way of cutting (`run_arrive_sent`).
-/

namespace Rapidapp

variable {σ γ : Type}

/-- The callback of that side. -/
def App.onRecv (app : App σ γ) :
    Side → NetPtr → Int → List UInt8 → Nat → World σ γ → Int × World σ γ
  | .frontEnd => app.onRecvFrontEnd
  | .backEnd => app.onRecvBackEnd

/-- The callback of that side does not destroy the connection. -/
def App.Keeps (app : App σ γ) (side : Side) (p : NetPtr) : Prop :=
  ∀ type data size w, World.Ok w → (w.heap.nets p).isSome →
    ((app.onRecv side p type data size w).2.heap.nets p).isSome

/-- The records of the payloads of the frames of these lengths, the first of them at `elapsed`. -/
def dispatchesAt (p : NetPtr) (buf : List UInt8) : Nat → List Nat → List Dispatch
  | _, [] => []
  | elapsed, msglen :: rest =>
    Dispatch.ofFrame p buf elapsed msglen true :: dispatchesAt p buf (elapsed + msglen) rest

namespace World

/-- The handler of a connection that is open and whose messages go to the application's
callback: `normal` mode for a frontend, no rpc bound for a backend. -/
structure Serving (side : Side) (p : NetPtr) (b : BevPtr) (w : World σ γ) : Prop where
  ok : Ok w
  live : ∃ n e, w.heap.Live p n b e ∧ (w.mgr side).handlerPool.lookup e.fd = some p
  mode : side = .frontEnd → w.svcMode = .normal
  unbound : side = .backEnd → ∀ n, w.heap.nets p = some n → n.rpcBinded = none

/-- An open connection whose object is still there is still open, on the same `bufferevent`. -/
theorem Serving.of_stable {side : Side} {p : NetPtr} {b : BevPtr} {w w' : World σ γ}
    (h : Serving side p b w) (hok : Ok w') (hst : Stable w w')
    (halive : ∃ n, w'.heap.nets p = some n) : Serving side p b w' := by
  obtain ⟨n, e, hl, hlookup⟩ := h.live
  obtain ⟨n', hn'⟩ := halive
  obtain ⟨hev, _, _, hrpc⟩ := hst.net hl.net hn'
  obtain ⟨e', he', hfd, _, _⟩ := hst.bev hl hn'
  refine ⟨hok, ⟨n', e', ⟨hn', hev.trans hl.hevent, he'⟩, ?_⟩, ?_, ?_⟩
  · rw [hfd]; exact hst.pool hlookup hn'
  · intro hside; rw [hst.svcMode]; exact h.mode hside
  · intro hside m hm
    cases hn'.symm.trans hm
    rw [hrpc]
    exact h.unbound hside n hl.net

theorem inPool_of_lookup {w : World σ γ} {side : Side} {fd : Int} {p : NetPtr}
    (h : (w.mgr side).handlerPool.lookup fd = some p) : w.inPool side p = true := by
  have hmem := AList.mem_lookup_iff.mp (Option.mem_def.mpr h)
  exact List.any_eq_true.mpr ⟨_, hmem, by simp⟩

theorem Serving.inPool {side : Side} {p : NetPtr} {b : BevPtr} {w : World σ γ}
    (h : Serving side p b w) : w.inPool side p = true := by
  obtain ⟨_, _, _, hlookup⟩ := h.live
  exact inPool_of_lookup hlookup

theorem Serving.alive {side : Side} {p : NetPtr} {b : BevPtr} {w : World σ γ}
    (h : Serving side p b w) : ∃ n, w.heap.nets p = some n := by
  obtain ⟨n, _, hl, _⟩ := h.live
  exact ⟨n, hl.net⟩

theorem Serving.getHandlerByEvent {side : Side} {p : NetPtr} {b : BevPtr} {w : World σ γ}
    (h : Serving side p b w) : (w.mgr side).getHandlerByEvent w.heap b = some p := by
  obtain ⟨n, e, hl, hlookup⟩ := h.live
  rw [getHandlerByEvent_eq side hl.bev, hlookup]

/-- Storing into the `bufferevent` of a served connection. -/
theorem Serving.setBev {side : Side} {p : NetPtr} {b : BevPtr} {w : World σ γ}
    (h : Serving side p b w) {e e' : BufferEvent} (he : w.heap.bevs b = some e)
    (hfd : e'.fd = e.fd) : Serving side p b { w with heap := w.heap.setBev b e' } := by
  obtain ⟨n, f, hl, hlookup⟩ := h.live
  obtain rfl : f = e := Option.some.inj (hl.bev.symm.trans he)
  refine ⟨h.ok.similar (similar_setBev w he hfd),
    ⟨n, e', ⟨hl.net, hl.hevent, Function.update_self _ _ _⟩, ?_⟩, h.mode, h.unbound⟩
  rw [hfd]
  cases side <;> exact hlookup

/-- Draining what was handed out. -/
theorem Serving.drain {side : Side} {p : NetPtr} {b : BevPtr} {w : World σ γ}
    (h : Serving side p b w) {e : BufferEvent} (he : w.heap.bevs b = some e) (len : Nat) :
    ∃ e', Serving side p b (w.evbufferDrain b len) ∧
      (w.evbufferDrain b len).heap.bevs b = some e' ∧ e'.input = e.input.drop len ∧
      e'.drained = e.drained ++ e.input.take len := by
  rw [World.evbufferDrain, he]
  exact ⟨_, h.setBev he rfl, Function.update_self _ _ _, rfl, rfl⟩

end World

namespace Monitor

open World

/-- What handing out the payloads `ds` of `p` does to the connections: nothing but what
application code may do, and `p` is still there. -/
structure Served (p : NetPtr) (ds : List Dispatch) (m m' : Monitor σ γ) : Prop where
  ok : m'.world.Ok
  stable : Stable m.world m'.world
  alive : ∃ n, m'.world.heap.nets p = some n
  handed : m'.handed = m.handed ++ ds

theorem Served.trans {p : NetPtr} {ds ds' : List Dispatch} {a b c : Monitor σ γ}
    (ha : a.world.Ok) (hab : Served p ds a b) (hbc : Served p ds' b c) :
    Served p (ds ++ ds') a c where
  ok := hbc.ok
  stable := hab.stable.trans ha hbc.stable
  alive := hbc.alive
  handed := by rw [hbc.handed, hab.handed, List.append_assoc]

variable {side : Side} {p : NetPtr} {b : BevPtr} {m : Monitor σ γ}

theorem Served.serving {ds : List Dispatch} {m' : Monitor σ γ} (hs : Served p ds m m')
    (h : Serving side p b m.world) : Serving side p b m'.world :=
  h.of_stable hs.ok hs.stable hs.alive

/-- What `Served` leaves alone of the `bufferevent`. -/
theorem Served.bev {ds : List Dispatch} {m' : Monitor σ γ} (hs : Served p ds m m')
    (h : Serving side p b m.world) {e : BufferEvent} (he : m.world.heap.bevs b = some e) :
    ∃ e', m'.world.heap.bevs b = some e' ∧ e'.fd = e.fd ∧ e'.input = e.input ∧
      e'.drained = e.drained := by
  obtain ⟨n, f, hl, _⟩ := h.live
  obtain rfl : f = e := Option.some.inj (hl.bev.symm.trans he)
  obtain ⟨n', hn'⟩ := hs.alive
  exact hs.stable.bev hl hn'

/-! ## The pieces of a handler -/

theorem served_touch (h : Serving side p b m.world) : Served p [] m (m.touch side p) :=
  ⟨h.ok, Stable.refl _, h.alive, (List.append_nil _).symm⟩

theorem served_hand (h : Serving side p b m.world) (buf : List UInt8) (elapsed msglen : Nat) :
    Served p [Dispatch.ofFrame p buf elapsed msglen true] m (m.hand side p buf elapsed msglen) :=
  ⟨h.ok, Stable.refl _, h.alive, by rw [hand, h.inPool]⟩

/-- An update through the pointer that leaves the identity of the connection alone. -/
theorem served_modifyNet (h : Serving side p b m.world) {f : EasyNet γ → EasyNet γ}
    (hf : ∀ n, (f n).hevent = n.hevent ∧ (f n).nid = n.nid ∧ (f n).netType = n.netType ∧
      (f n).rpcBinded = n.rpcBinded) : Served p [] m (m.goTo (m.world.modifyNet p f)) := by
  obtain ⟨n, hn⟩ := h.alive
  obtain ⟨hev, hnid, hty, hrpc⟩ := hf n
  have hk := kept_setNet h.ok hn hev hnid hty hrpc
  rw [modifyNet, hn]
  exact ⟨hk.ok, hk.stable, ⟨f n, Function.update_self _ _ _⟩, (List.append_nil _).symm⟩

theorem served_onRecv {app : App σ γ} (h : Serving side p b m.world)
    (hkeep : app.Keeps side p) (type : Int) (data : List UInt8) (size : Nat) :
    Served p [] m (m.goTo (app.onRecv side p type data size m.world).2) := by
  have hreach : ApiReach m.world (app.onRecv side p type data size m.world).2 := by
    cases side
    · exact app.onRecvFrontEnd_api p type data size m.world
    · exact app.onRecvBackEnd_api p type data size m.world
  have hk := ApiReach.kept h.ok hreach
  obtain ⟨n, hn⟩ := h.alive
  have halive := hkeep type data size m.world h.ok (by rw [hn]; rfl)
  exact ⟨hk.ok, hk.stable, Option.isSome_iff_exists.mp halive, (List.append_nil _).symm⟩

/-! ## One frame, the frames of a buffer, one run of a handler -/

/-- The body of the loop of that side. -/
def frameBody (app : App σ γ) : Side → NetPtr → List UInt8 → Nat → Nat → Monitor σ γ →
    Monitor σ γ × Bool
  | .frontEnd => frontEndBody app
  | .backEnd => backEndBody app

/-- One frame: its payload is handed out, and the loop goes on. -/
theorem served_frameBody {app : App σ γ} (h : Serving side p b m.world)
    (hkeep : app.Keeps side p) (buf : List UInt8) (elapsed msglen : Nat) :
    ∃ m', frameBody app side p buf elapsed msglen m = (m', true) ∧
      Served p [Dispatch.ofFrame p buf elapsed msglen true] m m' := by
  have h1 := served_touch h
  have h2 := served_hand (h1.serving h) buf elapsed msglen
  have h12 := h1.trans h.ok h2
  have hs2 := h12.serving h
  obtain ⟨n, hn⟩ := h.alive
  have h3 := served_onRecv hs2 hkeep n.netType (payloadBytes buf elapsed msglen)
    (payloadSize msglen)
  have h123 := h12.trans h.ok h3
  cases side with
  | frontEnd =>
    have hmode : m.world.svcMode = .normal := h.mode rfl
    have hs3 := h123.serving h
    have h4 := served_touch hs3
    have hs4 := h4.serving hs3
    have h5 := served_modifyNet (f := countPkg) hs4 fun n => ⟨rfl, rfl, rfl, rfl⟩
    refine ⟨_, ?_, (h123.trans h.ok h4).trans h.ok h5⟩
    simp only [frameBody, frontEndBody, hmode, touch, hand, hn]
    rfl
  | backEnd =>
    have hrpc : n.rpcBinded = none := h.unbound rfl n hn
    refine ⟨_, ?_, h123⟩
    simp only [frameBody, backEndBody, touch, hand, hn, Option.bind_some, hrpc]
    rfl

/-- The frames of a buffer, one after the other. -/
theorem served_foldFrames {app : App σ γ} (h : Serving side p b m.world)
    (hkeep : app.Keeps side p) (buf : List UInt8) (elapsed : Nat) (lens : List Nat) :
    ∃ m', foldFrames (frameBody app side p buf) elapsed lens m = (m', elapsed + lens.sum, true) ∧
      Served p (dispatchesAt p buf elapsed lens) m m' := by
  induction lens generalizing m elapsed with
  | nil => exact ⟨m, rfl, h.ok, Stable.refl _, h.alive, (List.append_nil _).symm⟩
  | cons msglen rest ih =>
    obtain ⟨m₁, hbody, hs₁⟩ := served_frameBody h hkeep buf elapsed msglen
    obtain ⟨m₂, hfold, hs₂⟩ := ih (hs₁.serving h) (elapsed + msglen)
    refine ⟨m₂, ?_, hs₁.trans h.ok hs₂⟩
    rw [foldFrames, hbody]
    dsimp only
    rw [hfold, List.sum_cons, Nat.add_assoc]

/-- The loop of a handler, run on the bytes it copied. -/
theorem served_frameLoop {app : App σ γ} (h : Serving side p b m.world)
    (hkeep : app.Keeps side p) (buf : List UInt8) :
    ∃ m', frameLoop (frameBody app side p buf) buf (buf.length + 1) 0 (m.touch side p) =
        some (m', (msgDecoder.cuts buf).sum, true) ∧
      Served p (dispatchesAt p buf 0 (msgDecoder.cuts buf)) m m' := by
  have ht := served_touch h
  obtain ⟨m', hfold, hs⟩ := served_foldFrames (ht.serving h) hkeep buf 0 (msgDecoder.cuts buf)
  refine ⟨m', ?_, by simpa using ht.trans h.ok hs⟩
  rw [frameLoop_eq _ _ (by omega), List.drop_zero, hfold, Nat.zero_add]

/-- One run of a handler hands out the payloads of the frames it copied, drains these frames and
leaves the rest in the input. -/
theorem serving_onMsg {app : App σ γ} (h : Serving side p b m.world) (hkeep : app.Keeps side p)
    {e : BufferEvent} (he : m.world.heap.bevs b = some e) {buf : List UInt8}
    (hbuf : buf = e.input.take (m.world.mgr side).recvBuffer.size) :
    ∃ m' e', onMsg app side m b = some m' ∧ Serving side p b m'.world ∧
      m'.world.heap.bevs b = some e' ∧ e'.input = e.input.drop (msgDecoder.cuts buf).sum ∧
      e'.drained = e.drained ++ e.input.take (msgDecoder.cuts buf).sum ∧
      m'.handed = m.handed ++ dispatchesAt p buf 0 (msgDecoder.cuts buf) := by
  obtain ⟨m₁, hloop, hs₁⟩ := served_frameLoop h hkeep buf
  have ht := served_touch (hs₁.serving h)
  have hs₂ := hs₁.trans h.ok ht
  obtain ⟨e₂, he₂, _, hin, hdr⟩ := hs₂.bev h he
  obtain ⟨e₃, h₃, he₃, hin₃, hdr₃⟩ := (hs₂.serving h).drain he₂ (msgDecoder.cuts buf).sum
  have hget := h.getHandlerByEvent
  cases side with
  | backEnd =>
    have hget' : m.world.backendHandlerMgr.getHandlerByEvent m.world.heap b = some p := hget
    have hbuf' : e.input.take m.world.backendHandlerMgr.recvBuffer.size = buf := hbuf.symm
    simp only [frameBody] at hloop
    refine ⟨(m₁.touch .backEnd p).goTo _, e₃, ?_, h₃, he₃, by rw [hin₃, hin],
      by rw [hdr₃, hdr, hin], ?_⟩
    · simp only [onMsg, onBackEndMsg, he, hget', hbuf', hloop]
      rfl
    · exact hs₁.handed
  | frontEnd =>
    have hget' : m.world.frontendHandlerMgr.getHandlerByEvent m.world.heap b = some p := hget
    have hbuf' : e.input.take m.world.frontendHandlerMgr.recvBuffer.size = buf := hbuf.symm
    -- the counters after the drain
    have h₄ := served_modifyNet (m := ((m₁.touch .frontEnd p).goTo _).touch .frontEnd p)
      (f := countTraffic (msgDecoder.cuts buf).sum
        ((m₁.touch .frontEnd p).world.evbufferDrain b (msgDecoder.cuts buf).sum).now)
      h₃ fun n => ⟨rfl, rfl, rfl, rfl⟩
    obtain ⟨e₅, he₅, _, hin₅, hdr₅⟩ := h₄.bev h₃ he₃
    refine ⟨_, e₅, ?_, h₄.serving h₃, he₅, by rw [hin₅, hin₃, hin],
      by rw [hdr₅, hdr₃, hdr, hin], ?_⟩
    · simp only [frameBody] at hloop
      simp only [onMsg, onFrontEndMsg, he, hget', hbuf', hloop]
      rfl
    · exact hs₁.handed

/-- A chunk arrives and the handler runs once. -/
theorem serving_arrive {app : App σ γ} (h : Serving side p b m.world) (hkeep : app.Keeps side p)
    {e : BufferEvent} (he : m.world.heap.bevs b = some e) (chunk : List UInt8) {buf : List UInt8}
    (hbuf : buf = (e.input ++ chunk).take (m.world.mgr side).recvBuffer.size) :
    ∃ m' e', arrive app side b m chunk = some m' ∧ Serving side p b m'.world ∧
      m'.world.heap.bevs b = some e' ∧
      e'.input = (e.input ++ chunk).drop (msgDecoder.cuts buf).sum ∧
      e'.drained = e.drained ++ (e.input ++ chunk).take (msgDecoder.cuts buf).sum ∧
      m'.handed = m.handed ++ dispatchesAt p buf 0 (msgDecoder.cuts buf) := by
  rw [arrive, he]
  have hin := h.setBev he
    (show ({ e with input := e.input ++ chunk } : BufferEvent).fd = e.fd from rfl)
  cases side <;>
    exact serving_onMsg (m := m.goTo _) hin hkeep (Function.update_self _ _ _) hbuf

end Monitor

/-! ## Sending -/

/-- The payloads are sent one after the other, and each `Send` succeeds. -/
def Heap.sendAll (h : Heap γ) (q : NetPtr) : List (List UInt8) → Option (Heap γ)
  | [] => some h
  | m :: ms =>
    match h.send q m with
    | (.easyNetOk, h) => h.sendAll q ms
    | _ => none

/-- The sender's stream is the concatenation of the encodings. -/
theorem Heap.sendAll_output {h h' : Heap γ} {q : NetPtr} {msgs : List (List UInt8)}
    (hne : ∀ m ∈ msgs, Sendable m) (hsend : h.sendAll q msgs = some h') {n : EasyNet γ}
    {b : BevPtr} {e : BufferEvent} (hl : h.Live q n b e) :
    ∃ e', h'.bevs b = some e' ∧ e'.output = e.output ++ msgs.flatMap encodeMsg := by
  induction msgs generalizing h e with
  | nil =>
    cases hsend
    exact ⟨e, hl.bev, by simp⟩
  | cons m ms ih =>
    rw [sendAll] at hsend
    rcases hs : h.send q m with ⟨r, h₁⟩
    rw [hs] at hsend
    cases r
    case easyNetOk =>
      obtain ⟨n', b', e₀, hl', _, hw⟩ := send_ok (hne m (by simp)).ne_nil hs
      obtain rfl : n' = n := Option.some.inj (hl'.net.symm.trans hl.net)
      obtain rfl : b' = b := Option.some.inj (hl'.hevent.symm.trans hl.hevent)
      obtain rfl : e₀ = e := Option.some.inj (hl'.bev.symm.trans hl.bev)
      have hl₁ : h₁.Live q n' b' { e₀ with output := e₀.output ++ encodeMsg m } :=
        ⟨by rw [hw.nets]; exact hl.net, hl.hevent, by rw [hw.bev hl.bev, if_pos rfl]; rfl⟩
      obtain ⟨e', he', hout⟩ := ih (fun x hx => hne x (by simp [hx])) hsend hl₁
      exact ⟨e', he', by rw [hout]; simp⟩
    all_goals cases hsend

/-! ## The payloads handed out -/

/-- What is handed out of a buffer that begins with the encodings of some payloads: these
payloads, with their sizes. -/
theorem dispatchesAt_encodeMsg (p : NetPtr) {us : List (List UInt8)}
    (hus : ∀ u ∈ us, Sendable u) (pre t : List UInt8) :
    (dispatchesAt p (pre ++ us.flatMap encodeMsg ++ t) pre.length
      (us.map fun u => (encodeMsg u).length)).map (fun d => (d.net, d.bytes, d.size)) =
      us.map fun u => (p, u, u.length) := by
  induction us generalizing pre with
  | nil => rfl
  | cons u us ih =>
    have hu := hus u (by simp)
    have hrest := ih (fun x hx => hus x (by simp [hx])) (pre ++ encodeMsg u)
    have hbuf : pre ++ (u :: us).flatMap encodeMsg ++ t =
        pre ++ encodeMsg u ++ us.flatMap encodeMsg ++ t := by simp
    rw [hbuf, List.map_cons, dispatchesAt, List.map_cons, ← List.length_append, hrest,
      List.map_cons]
    congr 1
    -- the range of the first frame, behind its header
    have hsize : payloadSize (encodeMsg u).length = u.length := by
      have := hu.fits
      rw [payloadSize, length_encodeMsg]
      have hcast : (((u.length + 4 : Nat) : Int) - 4) = (u.length : Int) := by omega
      rw [hcast, CInt.uint64_natCast (by omega)]
    have hhead : (pre ++ encodeMsg u ++ us.flatMap encodeMsg ++ t).drop (pre.length + 4) =
        u ++ (us.flatMap encodeMsg ++ t) := by
      have hsplit : pre ++ encodeMsg u ++ us.flatMap encodeMsg ++ t =
          (pre ++ Heap.lengthHeader u.length) ++ (u ++ (us.flatMap encodeMsg ++ t)) := by
        simp [encodeMsg]
      rw [hsplit, List.drop_left' (by simp [Heap.lengthHeader])]
    rw [Dispatch.ofFrame, payloadBytes, hhead, hsize, List.take_left]

namespace Monitor

open World

variable {side : Side} {p : NetPtr} {b : BevPtr} {m : Monitor σ γ}

/-- The step of the delivery: one chunk of a stream of messages takes the head of the messages
still to be handed out. -/
theorem arrive_sent {app : App σ γ} (h : Serving side p b m.world) (hkeep : app.Keeps side p)
    {e : BufferEvent} (he : m.world.heap.bevs b = some e) {msgs : List (List UInt8)}
    (hmsgs : ∀ x ∈ msgs, Sendable x)
    {chunk : List UInt8} (hchunk : e.input ++ chunk <+: msgs.flatMap encodeMsg) :
    ∃ m' e' us vs ds, arrive app side b m chunk = some m' ∧ Serving side p b m'.world ∧
      m'.world.heap.bevs b = some e' ∧ msgs = us ++ vs ∧
      e'.drained = e.drained ++ us.flatMap encodeMsg ∧
      e.input ++ chunk = us.flatMap encodeMsg ++ e'.input ∧
      m'.handed = m.handed ++ ds ∧
      ds.map (fun d => (d.net, d.bytes, d.size)) = us.map fun u => (p, u, u.length) := by
  obtain ⟨buf, hbuf⟩ : ∃ buf, buf = (e.input ++ chunk).take (m.world.mgr side).recvBuffer.size :=
    ⟨_, rfl⟩
  obtain ⟨m', e', hrun, hserve, he', hin', hdr', hhd'⟩ := serving_arrive h hkeep he chunk hbuf
  have hbufle : buf <+: e.input ++ chunk := by rw [hbuf]; exact List.take_prefix _ _
  -- the frames found are the encodings of the first messages
  have hframes : ∀ f ∈ msgs.map encodeMsg, msgDecoder.IsFrame f := by
    intro f hf
    obtain ⟨x, hx, rfl⟩ := List.mem_map.mp hf
    exact isFrame_encodeMsg (hmsgs x hx)
  have hprefix : buf <+: (msgs.map encodeMsg).flatten := by
    rw [← List.flatMap_def]; exact hbufle.trans hchunk
  obtain ⟨fs, gs, hsplit, hcuts, hfs⟩ := Framing.Decoder.cuts_of_prefix hframes hprefix
  obtain ⟨us, vs, rfl, rfl, rfl⟩ := List.map_eq_append_iff.mp hsplit
  rw [← List.flatMap_def] at hfs
  have hlens : msgDecoder.cuts buf = us.map fun u => (encodeMsg u).length := by
    rw [hcuts, List.map_map]; rfl
  have hsum : (msgDecoder.cuts buf).sum = (us.flatMap encodeMsg).length := by
    rw [hlens, List.length_flatMap]
  obtain ⟨t, ht⟩ := hfs
  obtain ⟨t', ht'⟩ := hbufle
  have hinput : e.input ++ chunk = us.flatMap encodeMsg ++ (t ++ t') := by
    rw [← ht', ← ht, List.append_assoc]
  refine ⟨m', e', us, vs, _, hrun, hserve, he', rfl, ?_, ?_, hhd', ?_⟩
  · rw [hdr', hsum, hinput, List.take_left]
  · rw [hin', hsum, hinput, List.drop_left]
  · rw [hlens, ← ht]
    exact dispatchesAt_encodeMsg p (fun u hu => hmsgs u (by simp [hu])) [] t

/-- The run: whatever the chunks, the messages handed out are the first ones of those sent. -/
theorem run_arrive {app : App σ γ} (h : Serving side p b m.world) (hkeep : app.Keeps side p)
    {e : BufferEvent} (he : m.world.heap.bevs b = some e) {msgs : List (List UInt8)}
    (hmsgs : ∀ x ∈ msgs, Sendable x)
    {chunks : List (List UInt8)} (hchunks : e.input ++ chunks.flatten <+: msgs.flatMap encodeMsg) :
    ∃ m' e' us vs ds, Run.run (arrive app side b) m chunks = some m' ∧
      m'.world.heap.bevs b = some e' ∧ msgs = us ++ vs ∧
      e'.drained = e.drained ++ us.flatMap encodeMsg ∧
      e.input ++ chunks.flatten = us.flatMap encodeMsg ++ e'.input ∧
      m'.handed = m.handed ++ ds ∧
      ds.map (fun d => (d.net, d.bytes, d.size)) = us.map fun u => (p, u, u.length) := by
  induction chunks generalizing m e msgs with
  | nil => exact ⟨m, e, [], msgs, [], rfl, he, rfl, by simp, by simp, by simp, rfl⟩
  | cons chunk rest ih =>
    rw [List.flatten_cons, ← List.append_assoc] at hchunks
    obtain ⟨m₁, e₁, us, vs, ds, hstep, h₁, he₁, rfl, hdr₁, hin₁, hhd₁, hds⟩ :=
      arrive_sent h hkeep he hmsgs ((List.prefix_append _ _).trans hchunks)
    have hrest : e₁.input ++ rest.flatten <+: vs.flatMap encodeMsg := by
      rw [hin₁, List.flatMap_append, List.append_assoc] at hchunks
      exact (List.prefix_append_right_inj _).mp hchunks
    obtain ⟨m₂, e₂, us', vs', ds', hrun, he₂, rfl, hdr₂, hin₂, hhd₂, hds'⟩ :=
      ih h₁ he₁ (fun x hx => hmsgs x (by simp [hx])) hrest
    refine ⟨m₂, e₂, us ++ us', vs', ds ++ ds', ?_, he₂, by simp, ?_, ?_, ?_, ?_⟩
    · rw [Run.run_cons, hstep, Option.bind_some, hrun]
    · rw [hdr₂, hdr₁, List.flatMap_append, List.append_assoc]
    · rw [List.flatten_cons, ← List.append_assoc, hin₁, List.append_assoc, hin₂,
        List.flatMap_append, List.append_assoc]
    · rw [hhd₂, hhd₁, List.append_assoc]
    · rw [List.map_append, hds, hds', List.map_append]

end Monitor

/-- Messages sent over a connection are handed to the callback in order, each once and whole:
after any chunks of the stream the sender wrote, the payloads handed out are a prefix of those
sent, and the drained bytes are exactly the encodings of that prefix. -/
theorem delivered_prefix {σ γ δ : Type} {app : App σ γ} {side : Side} {p : NetPtr} {b : BevPtr}
    {m : Monitor σ γ} {e : BufferEvent} (hserve : World.Serving side p b m.world)
    (hkeep : app.Keeps side p) (he : m.world.heap.bevs b = some e) (hin : e.input = [])
    {sender sender' : Heap δ} {q : NetPtr} {n : EasyNet δ} {c : BevPtr} {f f' : BufferEvent}
    (hl : sender.Live q n c f) {msgs : List (List UInt8)} (hmsgs : ∀ x ∈ msgs, Sendable x)
    (hsend : sender.sendAll q msgs = some sender') (hf' : sender'.bevs c = some f')
    {chunks : List (List UInt8)} (hchunks : chunks.flatten <+: f'.output.drop f.output.length) :
    ∃ m' e' us vs ds, Run.run (Monitor.arrive app side b) m chunks = some m' ∧
      msgs = us ++ vs ∧ m'.handed = m.handed ++ ds ∧
      ds.map (fun d => (d.net, d.bytes, d.size)) = us.map (fun u => (p, u, u.length)) ∧
      m'.world.heap.bevs b = some e' ∧ e'.drained = e.drained ++ us.flatMap encodeMsg ∧
      chunks.flatten = us.flatMap encodeMsg ++ e'.input := by
  obtain ⟨f'', hf'', hout⟩ := Heap.sendAll_output hmsgs hsend hl
  obtain rfl : f'' = f' := Option.some.inj (hf''.symm.trans hf')
  rw [hout, List.drop_left] at hchunks
  obtain ⟨m', e', us, vs, ds, hrun, he', hsplit, hdr, hinput, hhd, hds⟩ :=
    Monitor.run_arrive hserve hkeep he hmsgs (by rw [hin]; exact hchunks)
  exact ⟨m', e', us, vs, ds, hrun, hsplit, hhd, hds, he', hdr, by rw [← hinput, hin]; rfl⟩

/-- A connection just opened is served. -/
theorem World.serving_openAt {w : World σ γ} (h : World.Ok w) (side : Side) {fd : Int}
    (hfd : w.FreshFd fd) (type : Int) (state : NetState)
    (hmode : side = .frontEnd → w.svcMode = .normal) :
    World.Serving side w.heap.nextNet w.heap.nextBev (w.openAt side fd type state) := by
  have hlive := w.live_openAt side fd type state
  refine ⟨h.openAt side hfd type state, ⟨_, _, hlive, ?_⟩, ?_, ?_⟩
  · rw [World.lookup_openAt, if_pos ⟨rfl, rfl⟩]
  · intro hside
    rw [(h.stable_openAt side hfd type state).svcMode]
    exact hmode hside
  · intro _ n hn
    obtain rfl := Option.some.inj (hlive.net.symm.trans hn)
    rfl

/-- An application that keeps a list of the payloads it is given. -/
def App.recorder : App (List (List UInt8)) Unit where
  onRecvFrontEnd _ _ data _ w := (0, { w with app := w.app ++ [data] })
  onRecvFrontEnd_api _ _ _ _ _ := .single (.app _ _)
  onRecvBackEnd _ _ data _ w := (0, { w with app := w.app ++ [data] })
  onRecvBackEnd_api _ _ _ _ _ := .single (.app _ _)
  spawnMessage _ _ := none
  rpcSvcMgr := none
  rpcIsActive _ _ := false
  rpcResume _ _ _ w := w
  rpcResume_api _ _ _ _ := .refl

/-- A frontend connection on descriptor 7 of an application that records its payloads. -/
def World.recording (recv : RapBuffer) : World (List (List UInt8)) Unit :=
  (World.start [] (fun _ => true) recv recv .normal 0).openAt .frontEnd 7 0 .netEstablished

/-- Two messages in three chunks, the cuts inside the first header and inside the second frame: both
are handed out, and nothing is left. -/
theorem delivered_prefix_two :
    let w := World.recording .small
    ∃ m' e' us vs ds,
      Run.run (Monitor.arrive App.recorder .frontEnd 0) ⟨w, [], []⟩
        [[0, 0, 0], [6, 1, 2, 0, 0, 0], [5, 3]] = some m' ∧
      [[1, 2], [3]] = us ++ vs ∧ m'.handed = ds ∧
      ds.map (fun d => (d.net, d.bytes, d.size)) = us.map (fun u => (0, u, u.length)) ∧
      m'.world.heap.bevs 0 = some e' ∧ e'.drained = us.flatMap encodeMsg ∧
      [[0, 0, 0], [6, 1, 2, 0, 0, 0], [5, 3]].flatten = us.flatMap encodeMsg ++ e'.input ∧
      us = [[1, 2], [3]] ∧ e'.input = [] := by
  intro w
  have hserve : World.Serving .frontEnd 0 0 w :=
    World.serving_openAt (World.ok_start _ _ _ _ _ _) .frontEnd
      ⟨by decide, by decide, nofun⟩ 0 .netEstablished fun _ => rfl
  have hkeep : App.recorder.Keeps .frontEnd 0 := fun _ _ _ _ _ halive => halive
  have hl : (World.openNet (Heap.empty (γ := Unit) fun _ => true) 5 0 .netEstablished).2.Live 0
      _ 0 ⟨5, [], [], []⟩ := ⟨rfl, rfl, rfl⟩
  have hmsgs : ∀ x ∈ [[1, 2], [3]], Sendable x := by
    intro x hx
    rcases List.mem_pair.mp hx with rfl | rfl <;> exact ⟨by decide, by decide⟩
  have hchunks : [[0, 0, 0], [6, 1, 2, 0, 0, 0], [5, 3]].flatten <+:
      ([0, 0, 0, 6, 1, 2, 0, 0, 0, 5, 3] : List UInt8) := by decide
  obtain ⟨m', e', us, vs, ds, hrun, hsplit, hhd, hds, he', hdr, hinput⟩ :=
    delivered_prefix (m := ⟨w, [], []⟩) hserve hkeep (e := ⟨7, [], [], []⟩) rfl rfl hl hmsgs
      rfl rfl hchunks
  have hboth : (Run.run (Monitor.arrive App.recorder .frontEnd 0) ⟨w, [], []⟩
      [[0, 0, 0], [6, 1, 2, 0, 0, 0], [5, 3]]).map (fun m => m.handed.map fun d => d.bytes) =
      some [[1, 2], [3]] := by decide +kernel
  rw [hrun, Option.map_some, Option.some.injEq, hhd, List.nil_append] at hboth
  have hus : us = [[1, 2], [3]] := by
    have hbytes := congrArg (List.map fun d : NetPtr × List UInt8 × Nat => d.2.1) hds
    rw [List.map_map, List.map_map] at hbytes
    calc us = us.map id := (List.map_id us).symm
      _ = ds.map (fun d => d.bytes) := hbytes.symm
      _ = [[1, 2], [3]] := hboth
  have hall : [[0, 0, 0], [6, 1, 2, 0, 0, 0], [5, 3]].flatten =
      ([[1, 2], [3]] : List (List UInt8)).flatMap encodeMsg ++ [] := by decide +kernel
  have hnone : e'.input = [] := by
    rw [hus] at hinput
    exact List.append_cancel_left (hinput.symm.trans hall)
  exact ⟨m', e', us, vs, ds, hrun, hsplit, hhd, hds, he', hdr, hinput, hus, hnone⟩

end Rapidapp
