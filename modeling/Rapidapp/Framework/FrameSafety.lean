import Rapidapp.Framework.FrameDelivery

/-!
# The ranges handed out

Which payload ranges the handlers hand out is a function of the copied bytes
(`handedAt`), whatever the callbacks do. A range lies inside the copied bytes unless its
header announces one, two or three bytes, fewer than the header itself has: then
`msglen - sizeof(uint32_t)` wraps around. `rangesInside_iff` says so for every run; the loops
end in all of them (`Monitor.loops_end`).
-/

namespace Rapidapp

variable {σ γ : Type}

/-- The range lies inside the bytes copied, and its size did not wrap around. -/
structure Dispatch.InBounds (d : Dispatch) : Prop where
  header : 4 ≤ d.msglen
  inside : d.offset + d.size ≤ d.msgSize

/-- Whether the loop goes on after this payload: in rpc mode a frontend's request that
`OnFrontEndRpcMsg` refuses ends it. -/
def App.goesOn (app : App σ γ) (side : Side) (mode : SvcMode) (data : List UInt8) (size : Nat) :
    Bool :=
  match side, mode with
  | .frontEnd, .rpc => (app.spawnMessage data size).isSome && app.rpcSvcMgr.isSome
  | _, _ => true

/-- Offset and `msglen` of the frames handed out, of the frames of these lengths. -/
def handedAt (goesOn : List UInt8 → Nat → Bool) (buf : List UInt8) :
    Nat → List Nat → List (Nat × Nat)
  | _, [] => []
  | elapsed, msglen :: rest =>
    (elapsed, msglen) ::
      if goesOn (payloadBytes buf elapsed msglen) (payloadSize msglen) then
        handedAt goesOn buf (elapsed + msglen) rest
      else []

theorem handedAt_le {goesOn : List UInt8 → Nat → Bool} {buf : List UInt8} {elapsed : Nat}
    {lens : List Nat} (h : elapsed + lens.sum ≤ buf.length) {f : Nat × Nat}
    (hf : f ∈ handedAt goesOn buf elapsed lens) : f.1 + f.2 ≤ buf.length := by
  induction lens generalizing elapsed with
  | nil => cases hf
  | cons msglen rest ih =>
    rw [List.sum_cons] at h
    rw [handedAt] at hf
    rcases List.mem_cons.mp hf with rfl | hrest
    · simp only; omega
    · split_ifs at hrest
      · exact ih (by omega) hrest
      · cases hrest

/-- A frame that lies in the buffer and is no shorter than its header gives a good range, and a
shorter one does not. -/
theorem inBounds_ofFrame {p : NetPtr} {buf : List UInt8} (hbuf : buf.length < 2 ^ 63)
    {elapsed msglen : Nat} (hle : elapsed + msglen ≤ buf.length) {inPool : Bool} :
    (Dispatch.ofFrame p buf elapsed msglen inPool).InBounds ↔ 4 ≤ msglen := by
  constructor
  · exact fun h => h.header
  · intro h
    have hsize : payloadSize msglen = msglen - 4 := by
      rw [payloadSize, CInt.uint64_of_nonneg (by omega) (by omega)]
      omega
    refine ⟨h, ?_⟩
    simp only [Dispatch.ofFrame, hsize]
    omega

/-! ## Short headers -/

/-- The bytes begin with frames that are handed out, and then with a header that announces fewer
bytes than it has itself. -/
inductive ShortHeader (goesOn : List UInt8 → Nat → Bool) : List UInt8 → Prop
  | here {k : Nat} {t : List UInt8} (hpos : 0 < k) (hlt : k < 4) :
      ShortHeader goesOn (Bytes.be32 k ++ t)
  | later {payload t : List UInt8} (hfits : payload.length + 4 < 2 ^ 31)
      (hgo : goesOn payload payload.length = true) (hrest : ShortHeader goesOn t) :
      ShortHeader goesOn (encodeMsg payload ++ t)

theorem shortHeader_cases {goesOn : List UInt8 → Nat → Bool} {buf : List UInt8}
    (h : ShortHeader goesOn buf) :
    (∃ k t, 0 < k ∧ k < 4 ∧ buf = Bytes.be32 k ++ t) ∨
    ∃ payload t, payload.length + 4 < 2 ^ 31 ∧ goesOn payload payload.length = true ∧
      ShortHeader goesOn t ∧ buf = encodeMsg payload ++ t := by
  cases h with
  | here hpos hlt => exact .inl ⟨_, _, hpos, hlt, rfl⟩
  | later hfits hgo hrest => exact .inr ⟨_, _, hfits, hgo, hrest, rfl⟩

theorem next_be32 {k : Nat} (hpos : 0 < k) (hlt : k < 4) (t : List UInt8) :
    msgDecoder.next (Bytes.be32 k ++ t) = some k := by
  have hread : Bytes.readBe32 (Bytes.be32 k ++ t) = k := by
    rw [Bytes.readBe32_be32, Nat.mod_eq_of_lt (by omega)]
  refine next_eq_some.mpr ⟨?_, hpos, by rw [List.length_append, Bytes.length_be32]; omega⟩
  rw [getMsgLength, if_neg (by simp), hread, CInt.int32_of_range (by omega) (by omega),
    CInt.uint64_natCast (by omega)]

/-- A complete frame at the head of a buffer: its length is a short header's, or it is the
encoding of its payload. -/
theorem frame_of_next {buf : List UInt8} (hbuf : buf.length < 2 ^ 63) {n : Nat}
    (h : msgDecoder.next buf = some n) :
    (0 < n ∧ n < 4 ∧ buf = Bytes.be32 n ++ buf.drop 4) ∨
    (4 ≤ n ∧ ((buf.drop 4).take (n - 4)).length + 4 = n ∧ n < 2 ^ 31 ∧
      buf = encodeMsg ((buf.drop 4).take (n - 4)) ++ buf.drop n) := by
  obtain ⟨hread, hlt, hfour⟩ := header_of_next hbuf h
  obtain ⟨_, hpos, hle⟩ := next_eq_some.mp h
  have hhead : Bytes.be32 n = buf.take 4 := by rw [← hread]; exact Bytes.be32_readBe32 hfour
  by_cases hn : n < 4
  · exact .inl ⟨hpos, hn, by rw [hhead, List.take_append_drop]⟩
  · have hlen : ((buf.drop 4).take (n - 4)).length + 4 = n := by
      rw [List.length_take, List.length_drop]; omega
    refine .inr ⟨by omega, hlen, hlt, ?_⟩
    have hcast : CInt.uint64 ((((buf.drop 4).take (n - 4)).length : Int) + 4) = n := by
      have hsum : (((buf.drop 4).take (n - 4)).length : Int) + 4 = n := by omega
      rw [hsum, CInt.uint64_natCast (by omega)]
    have hdrop : buf.drop n = (buf.drop 4).drop (n - 4) := by
      rw [List.drop_drop]; congr 1; omega
    rw [encodeMsg, Heap.lengthHeader, hcast, hhead, hdrop, List.append_assoc,
      List.take_append_drop, List.take_append_drop]

/-- Among the frames handed out of a buffer there is one with a short header exactly when the
buffer is of that shape. -/
theorem exists_short_iff (goesOn : List UInt8 → Nat → Bool) {buf : List UInt8}
    (hbuf : buf.length < 2 ^ 63) (elapsed : Nat) :
    (∃ f ∈ handedAt goesOn buf elapsed (msgDecoder.cuts (buf.drop elapsed)), f.2 < 4) ↔
      ShortHeader goesOn (buf.drop elapsed) := by
  obtain ⟨rest, hrest⟩ : ∃ rest, rest = buf.drop elapsed := ⟨_, rfl⟩
  rw [← hrest]
  induction rest using Framing.Decoder.cuts_induction (d := msgDecoder) generalizing elapsed with
  | none rest hnone =>
    rw [Framing.Decoder.cuts_of_none hnone]
    refine iff_of_false (by simp [handedAt]) ?_
    intro hshort
    cases hshort with
    | here hpos hlt => rw [next_be32 hpos hlt] at hnone; cases hnone
    | later hfits => rw [next_encodeMsg hfits] at hnone; cases hnone
  | some rest n hsome ih =>
    have hlen : rest.length < 2 ^ 63 := by rw [hrest, List.length_drop]; omega
    rw [Framing.Decoder.cuts_of_some hsome, handedAt]
    simp only [List.mem_cons, exists_eq_or_imp]
    obtain ⟨hpos, hlt, hshape⟩ | ⟨hfour, hdata, hmax, hshape⟩ := frame_of_next hlen hsome
    · refine iff_of_true (.inl hlt) ?_
      rw [hshape]
      exact .here hpos hlt
    · have hpayload : payloadBytes buf elapsed n = (rest.drop 4).take (n - 4) := by
        have hsize : payloadSize n = n - 4 := by
          rw [payloadSize, CInt.uint64_of_nonneg (by omega) (by omega)]
          omega
        rw [payloadBytes, hsize, hrest, List.drop_drop]
      have hsize : payloadSize n = ((rest.drop 4).take (n - 4)).length := by
        rw [payloadSize, CInt.uint64_of_nonneg (by omega) (by omega)]
        omega
      have hih := ih (elapsed + n) (by rw [hrest, List.drop_drop])
      rw [hpayload, hsize]
      have hnot : ¬ n < 4 := by omega
      simp only [hnot, false_or]
      constructor
      · rintro ⟨f, hf, hf4⟩
        split_ifs at hf with hgo
        · rw [hshape]
          exact .later (by omega) hgo (hih.mp ⟨f, hf, hf4⟩)
        · cases hf
      · intro hshort
        -- the frame at the head of `rest` is the one just found
        obtain ⟨k, t, hpos, hlt, heq⟩ | ⟨payload, t, hfits, hgo, htail, heq⟩ :=
          shortHeader_cases hshort
        · have hk := next_be32 hpos hlt t
          rw [← heq, hsome] at hk
          cases hk
          omega
        · have hp := next_encodeMsg hfits t
          rw [← heq, hsome] at hp
          have hn : n = payload.length + 4 := Option.some.inj hp
          obtain ⟨hframe, hdrop⟩ := List.append_inj (hshape.symm.trans heq)
            (by rw [length_encodeMsg, length_encodeMsg]; omega)
          have hpay := List.append_inj_right hframe (by simp [Heap.lengthHeader])
          rw [hpay, if_pos hgo]
          obtain ⟨f, hf, hf4⟩ := hih.mpr (hdrop ▸ htail)
          exact ⟨f, hf, hf4⟩

/-! ## What a handler hands out -/

namespace World

/-- Application code does not change the service mode. -/
theorem ApiStep.svcMode {w w' : World σ γ} (hs : ApiStep w w') : w'.svcMode = w.svcMode := by
  have hset : ∀ (w : World σ γ) side r, (w.setMgr side r).svcMode = w.svcMode := by
    intro w side r; cases side <;> rfl
  have hcreate : ∀ (w : World σ γ) type connect,
      (w.createBackEnd type connect).2.svcMode = w.svcMode := by
    intro w type connect
    obtain ⟨_, heq⟩ | ⟨fd, n, _, _, heq⟩ := createBackEnd_cases w type connect
    · rw [heq]
    · rw [heq]; exact hset _ _ _
  cases hs with
  | app s => rfl
  | setUserContext p c =>
    rw [World.setUserContext]
    split
    · rfl
    · split <;> rfl
  | sendToFrontEnd net buf =>
    obtain heq | ⟨p, _, heq⟩ := sendToFrontEnd_cases w net buf <;> rw [heq]
  | sendToBackEnd net buf =>
    obtain heq | ⟨p, _, heq | ⟨n, _, heq⟩⟩ := sendToBackEnd_cases w net buf <;> rw [heq]
  | destroyNet side net =>
    cases net with
    | none => rfl
    | some p => exact hset _ _ _
  | createBackEnd type connect _ => exact hcreate w type connect
  | createRpc type connect rpc _ p _ =>
    rw [← hcreate w type connect, setRpcBinded]
    split <;> rfl

theorem ApiReach.svcMode {w w' : World σ γ} (hr : ApiReach w w') : w'.svcMode = w.svcMode := by
  induction hr with
  | refl => rfl
  | tail _ hs ih => exact hs.svcMode.trans ih

/-- `OnFrontEndRpcMsg` refuses the request, or runs the service at most. -/
theorem onFrontEndRpcMsg_cases (app : App σ γ) (p : NetPtr) (data : List UInt8) (size : Nat)
    (w : World σ γ) :
    (app.goesOn .frontEnd .rpc data size = false ∧ onFrontEndRpcMsg app p data size w = (-1, w)) ∨
    (app.goesOn .frontEnd .rpc data size = true ∧
      ∃ ret w', 0 ≤ ret ∧ onFrontEndRpcMsg app p data size w = (ret, w') ∧ ApiReach w w') := by
  unfold onFrontEndRpcMsg App.goesOn
  cases app.spawnMessage data size with
  | none => exact .inl ⟨rfl, rfl⟩
  | some req =>
    cases app.rpcSvcMgr with
    | none => exact .inl ⟨rfl, rfl⟩
    | some getRpcService =>
      refine .inr ⟨rfl, ?_⟩
      dsimp only
      cases getRpcService req.typeName with
      | none => exact ⟨0, w, by decide, rfl, .refl⟩
      | some svc =>
        dsimp only
        split
        · exact ⟨1, _, by decide, rfl, svc.onRpcCall_api p req w⟩
        · exact ⟨0, w, by decide, rfl, .refl⟩

theorem modifyNet_svcMode (w : World σ γ) (p : NetPtr) (f : EasyNet γ → EasyNet γ) :
    (w.modifyNet p f).svcMode = w.svcMode := by
  rw [modifyNet]
  split <;> rfl

end World

namespace Monitor

/-- The record without what depends on the state. -/
def range (d : Dispatch) : Dispatch := { d with inPool := true }

theorem inBounds_range (d : Dispatch) : (range d).InBounds ↔ d.InBounds :=
  ⟨fun h => ⟨h.header, h.inside⟩, fun h => ⟨h.header, h.inside⟩⟩

/-- One frame is handed out, and the mode stays; the loop goes on when `goesOn` says so. -/
theorem handed_frameBody (app : App σ γ) (side : Side) (p : NetPtr) (buf : List UInt8)
    (elapsed msglen : Nat) (m : Monitor σ γ) :
    let r := frameBody app side p buf elapsed msglen m
    (∃ i, r.1.handed = m.handed ++ [Dispatch.ofFrame p buf elapsed msglen i]) ∧
      r.2 = app.goesOn side m.world.svcMode (payloadBytes buf elapsed msglen) (payloadSize msglen) ∧
      (r.2 = true → r.1.world.svcMode = m.world.svcMode) := by
  cases side with
  | backEnd =>
    simp only [frameBody, backEndBody]
    have hmode := fun n => World.ApiReach.svcMode (app.onRecvBackEnd_api p
      (((m.world.heap.nets p).map (·.netType)).getD 0) (payloadBytes buf elapsed msglen) n
      m.world)
    split
    · split
      · exact ⟨⟨_, rfl⟩, rfl, fun _ => World.ApiReach.svcMode (app.rpcResume_api _ _ _ _)⟩
      · exact ⟨⟨_, rfl⟩, rfl, fun _ => hmode _⟩
    · exact ⟨⟨_, rfl⟩, rfl, fun _ => hmode _⟩
  | frontEnd =>
    simp only [frameBody, frontEndBody]
    cases hmode : m.world.svcMode with
    | normal =>
      refine ⟨⟨_, rfl⟩, rfl, fun _ => ?_⟩
      simp only [goTo, World.modifyNet_svcMode]
      exact (World.ApiReach.svcMode (app.onRecvFrontEnd_api _ _ _ _ _)).trans hmode
    | rpc =>
      have hworld : (m.hand .frontEnd p buf elapsed msglen).world = m.world := rfl
      obtain ⟨hgo, hmsg⟩ | ⟨hgo, ret, w', hret, hmsg, hreach⟩ :=
        World.onFrontEndRpcMsg_cases app p (payloadBytes buf elapsed msglen)
          (payloadSize msglen) m.world
      · simp only [hworld, hmsg, hgo]
        exact ⟨⟨_, rfl⟩, rfl, fun h => by cases h⟩
      · simp only [hworld, hmsg, hgo, if_neg (not_lt.mpr hret)]
        refine ⟨⟨_, rfl⟩, trivial, fun _ => ?_⟩
        simp only [goTo, World.modifyNet_svcMode]
        exact hreach.svcMode.trans hmode

/-- What is handed out of the frames of a buffer is `handedAt`, whatever the callbacks do. -/
theorem handed_foldFrames (app : App σ γ) (side : Side) (p : NetPtr) (buf : List UInt8)
    (elapsed : Nat) (lens : List Nat) (m : Monitor σ γ) :
    ∃ ds, (foldFrames (frameBody app side p buf) elapsed lens m).1.handed = m.handed ++ ds ∧
      ds.map range = (handedAt (app.goesOn side m.world.svcMode) buf elapsed lens).map
        fun f => Dispatch.ofFrame p buf f.1 f.2 true := by
  induction lens generalizing m elapsed with
  | nil => exact ⟨[], (List.append_nil _).symm, rfl⟩
  | cons msglen rest ih =>
    obtain ⟨⟨i, hhanded⟩, hgo, hmode⟩ := handed_frameBody app side p buf elapsed msglen m
    rw [foldFrames, handedAt, ← hgo]
    rcases hr : frameBody app side p buf elapsed msglen m with ⟨m', cont⟩
    rw [hr] at hhanded hmode
    cases cont with
    | false => exact ⟨_, hhanded, rfl⟩
    | true =>
      obtain ⟨ds, hds, hrange⟩ := ih (elapsed + msglen) m'
      refine ⟨Dispatch.ofFrame p buf elapsed msglen i :: ds, ?_, ?_⟩
      · have hm : m'.handed = m.handed ++ [Dispatch.ofFrame p buf elapsed msglen i] := hhanded
        dsimp only
        rw [hds, hm, List.append_assoc, List.singleton_append]
      · rw [List.map_cons, hrange, hmode rfl, if_pos rfl, List.map_cons]
        rfl

/-- The ranges a handler hands out of a receive buffer are good exactly when no short header is
reached. -/
theorem inBounds_iff {app : App σ γ} {side : Side} {p : NetPtr} {buf : List UInt8}
    (hbuf : buf.length < 2 ^ 63) {mode : SvcMode} {ds : List Dispatch}
    (hds : ds.map range = (handedAt (app.goesOn side mode) buf 0 (msgDecoder.cuts buf)).map
      fun f => Dispatch.ofFrame p buf f.1 f.2 true) :
    (∀ d ∈ ds, d.InBounds) ↔ ¬ ShortHeader (app.goesOn side mode) buf := by
  have hcuts := exists_short_iff (app.goesOn side mode) hbuf 0
  rw [List.drop_zero] at hcuts
  rw [← hcuts]
  have hall : (∀ d ∈ ds, d.InBounds) ↔ ∀ d ∈ ds.map range, d.InBounds := by
    simp only [List.forall_mem_map, inBounds_range]
  rw [hall, hds, List.forall_mem_map]
  push Not
  refine forall₂_congr fun f hf => ?_
  have hle := handedAt_le (by rw [Nat.zero_add]; exact Framing.Decoder.sum_cuts_le buf) hf
  exact inBounds_ofFrame hbuf hle

/-- One run of a handler ends, and hands out what `handedAt` lists. -/
theorem handed_onMsg (app : App σ γ) (side : Side) (m : Monitor σ γ) {b : BevPtr}
    {e : BufferEvent} (he : m.world.heap.bevs b = some e) :
    ∃ m' ds, onMsg app side m b = some m' ∧ m'.handed = m.handed ++ ds ∧
      ((m.world.mgr side).handlerPool.lookup e.fd = none → ds = []) ∧
      ∀ p, (m.world.mgr side).handlerPool.lookup e.fd = some p →
        let buf := e.input.take (m.world.mgr side).recvBuffer.size
        ds.map range =
          (handedAt (app.goesOn side m.world.svcMode) buf 0 (msgDecoder.cuts buf)).map
            fun f => Dispatch.ofFrame p buf f.1 f.2 true := by
  have hget := World.getHandlerByEvent_eq side he
  cases hp : (m.world.mgr side).handlerPool.lookup e.fd with
  | none =>
    rw [hp] at hget
    refine ⟨m, [], ?_, (List.append_nil _).symm, fun _ => rfl, fun p h => by cases h⟩
    cases side with
    | frontEnd =>
      have hget' : m.world.frontendHandlerMgr.getHandlerByEvent m.world.heap b = none := hget
      simp only [onMsg, onFrontEndMsg, he, hget']
    | backEnd =>
      have hget' : m.world.backendHandlerMgr.getHandlerByEvent m.world.heap b = none := hget
      simp only [onMsg, onBackEndMsg, he, hget']
  | some p =>
    rw [hp] at hget
    obtain ⟨buf, hbuf⟩ : ∃ buf, buf = e.input.take (m.world.mgr side).recvBuffer.size := ⟨_, rfl⟩
    obtain ⟨ds, hds, hrange⟩ :=
      handed_foldFrames app side p buf 0 (msgDecoder.cuts buf) (m.touch side p)
    have hloop := frameLoop_eq (frameBody app side p buf) buf
      (show buf.length - 0 < buf.length + 1 by omega) (m.touch side p)
    rw [List.drop_zero] at hloop
    rcases hr : foldFrames (frameBody app side p buf) 0 (msgDecoder.cuts buf) (m.touch side p)
      with ⟨m₁, elapsed, cont⟩
    rw [hr] at hds hloop
    have hsome : some p = none → ds = [] := fun h => by cases h
    have hrest : ∀ q, some p = some q → ds.map range =
        (handedAt (app.goesOn side m.world.svcMode) buf 0 (msgDecoder.cuts buf)).map
          fun f => Dispatch.ofFrame q buf f.1 f.2 true := by
      intro q hq
      cases hq
      exact hrange
    simp only [← hbuf]
    cases side with
    | frontEnd =>
      have hget' : m.world.frontendHandlerMgr.getHandlerByEvent m.world.heap b = some p := hget
      have hbuf' : e.input.take m.world.frontendHandlerMgr.recvBuffer.size = buf := hbuf.symm
      simp only [frameBody] at hloop
      simp only [onMsg, onFrontEndMsg, he, hget', hbuf', hloop]
      cases cont with
      | false => exact ⟨_, ds, rfl, hds, hsome, hrest⟩
      | true => exact ⟨_, ds, rfl, hds, hsome, hrest⟩
    | backEnd =>
      have hget' : m.world.backendHandlerMgr.getHandlerByEvent m.world.heap b = some p := hget
      have hbuf' : e.input.take m.world.backendHandlerMgr.recvBuffer.size = buf := hbuf.symm
      simp only [frameBody] at hloop
      simp only [onMsg, onBackEndMsg, he, hget', hbuf', hloop]
      exact ⟨_, ds, rfl, hds, hsome, hrest⟩

end Monitor

/-! ## Runs -/

/-- A chunk arrives on a connection of one side. -/
structure Arrival where
  side : Side
  bev : BevPtr
  chunk : List UInt8
  deriving DecidableEq, Repr

/-- One arrival. -/
def Monitor.step (app : App σ γ) (m : Monitor σ γ) (a : Arrival) : Option (Monitor σ γ) :=
  Monitor.arrive app a.side a.bev m a.chunk

/-- The arrival completes, in the bytes the handler copies, a short header. -/
def ShortHeaderIn (app : App σ γ) (w : World σ γ) (a : Arrival) : Prop :=
  ∃ e p, w.heap.bevs a.bev = some e ∧ (w.mgr a.side).handlerPool.lookup e.fd = some p ∧
    ShortHeader (app.goesOn a.side w.svcMode)
      ((e.input ++ a.chunk).take (w.mgr a.side).recvBuffer.size)

/-- Every loop of the run ends, and every range it hands out lies inside the bytes copied. -/
def RangesInside (app : App σ γ) (m : Monitor σ γ) (as : List Arrival) : Prop :=
  ∃ m' ds, Run.run (Monitor.step app) m as = some m' ∧ m'.handed = m.handed ++ ds ∧
    ∀ d ∈ ds, d.InBounds

/-- One arrival: the loop ends, and the ranges are good exactly when no short header is reached. -/
theorem Monitor.step_inBounds (app : App σ γ) (m : Monitor σ γ) (a : Arrival) :
    ∃ m' ds, Monitor.step app m a = some m' ∧ m'.handed = m.handed ++ ds ∧
      ((∀ d ∈ ds, d.InBounds) ↔ ¬ ShortHeaderIn app m.world a) := by
  obtain ⟨side, b, chunk⟩ := a
  cases he : m.world.heap.bevs b with
  | none =>
    refine ⟨m, [], by simp only [step, arrive, he], (List.append_nil _).symm, ?_⟩
    refine iff_of_true (by simp) ?_
    rintro ⟨e, p, he', _⟩
    rw [he] at he'
    cases he'
  | some e =>
    obtain ⟨w, hw⟩ : ∃ w, w = { m.world with
        heap := m.world.heap.setBev b { e with input := e.input ++ chunk } } := ⟨_, rfl⟩
    have hb : (m.goTo w).world.heap.bevs b = some { e with input := e.input ++ chunk } := by
      rw [goTo, hw]; exact Function.update_self _ _ _
    have hmgr : ∀ s, w.mgr s = m.world.mgr s := fun s => by rw [hw]; cases s <;> rfl
    have hmode : w.svcMode = m.world.svcMode := by rw [hw]
    obtain ⟨m', ds, hrun, hds, hnone, hsome⟩ := handed_onMsg app side (m.goTo w) hb
    simp only [goTo, hmgr, hmode] at hnone hsome
    refine ⟨m', ds, by simp only [step, arrive, he, ← hw]; exact hrun, hds, ?_⟩
    cases hp : (m.world.mgr side).handlerPool.lookup e.fd with
    | none =>
      rw [hnone hp]
      refine iff_of_true (by simp) ?_
      rintro ⟨e', p, he', hp', _⟩
      rw [he] at he'
      cases he'
      rw [hp] at hp'
      cases hp'
    | some p =>
      have hlen : ((e.input ++ chunk).take (m.world.mgr side).recvBuffer.size).length < 2 ^ 63 := by
        have := (m.world.mgr side).recvBuffer.size_lt
        rw [List.length_take]
        omega
      rw [inBounds_iff hlen (hsome p hp)]
      refine not_congr ⟨fun h => ⟨e, p, he, hp, h⟩, ?_⟩
      rintro ⟨e', p', he', hp', h⟩
      rw [he] at he'
      cases he'
      exact h

/-- Whatever arrives, short headers or not, the loops end. -/
theorem Monitor.loops_end (app : App σ γ) (m : Monitor σ γ) (as : List Arrival) :
    (Run.run (Monitor.step app) m as).isSome := by
  refine Run.run_isSome (fun m a => ?_) m as
  obtain ⟨m', _, hstep, _⟩ := m.step_inBounds app a
  rw [hstep]
  rfl

/-- Nothing is taken back of what was handed out. -/
theorem Monitor.handed_prefix {app : App σ γ} {m m' : Monitor σ γ} {as : List Arrival}
    (h : Run.run (Monitor.step app) m as = some m') : m.handed <+: m'.handed := by
  refine Run.run_rel (R := fun a b : Monitor σ γ => a.handed <+: b.handed)
    (fun _ => List.prefix_rfl) List.IsPrefix.trans ?_ h
  intro m₁ a m₂ hstep
  obtain ⟨m₃, ds, hstep', hds, _⟩ := m₁.step_inBounds app a
  obtain rfl : m₃ = m₂ := Option.some.inj (hstep'.symm.trans hstep)
  exact ⟨ds, hds.symm⟩

/-- For every stream of bytes on every connection and every cutting of it: all loops end, and
the ranges handed out lie inside the bytes copied exactly when no arrival completes a header
that announces one, two or three bytes. -/
theorem rangesInside_iff (app : App σ γ) (m : Monitor σ γ) (as : List Arrival) :
    RangesInside app m as ↔
      Run.Along (Monitor.step app) (fun m a => ¬ ShortHeaderIn app m.world a) m as := by
  induction as generalizing m with
  | nil => exact iff_of_true ⟨m, [], rfl, (List.append_nil _).symm, fun d h => by cases h⟩ trivial
  | cons a as ih =>
    obtain ⟨m₁, ds₁, hstep, hds₁, hgood⟩ := m.step_inBounds app a
    rw [Run.Along, hstep]
    simp only [Option.some.injEq, forall_eq']
    rw [← ih m₁, ← hgood]
    constructor
    · rintro ⟨m₂, ds, hrun, hds, hin⟩
      rw [Run.run_cons, hstep, Option.bind_some] at hrun
      obtain ⟨ds₂, hds₂⟩ := Monitor.handed_prefix hrun
      have hsplit : ds = ds₁ ++ ds₂ := by
        rw [← hds₂, hds₁, List.append_assoc] at hds
        exact (List.append_cancel_left hds).symm
      subst hsplit
      exact ⟨fun d hd => hin d (by simp [hd]), m₂, ds₂, hrun, hds₂.symm,
        fun d hd => hin d (by simp [hd])⟩
    · rintro ⟨hin₁, m₂, ds₂, hrun, hds₂, hin₂⟩
      refine ⟨m₂, ds₁ ++ ds₂, by rw [Run.run_cons, hstep, Option.bind_some, hrun],
        by rw [hds₂, hds₁, List.append_assoc], ?_⟩
      intro d hd
      rcases List.mem_append.mp hd with h | h
      · exact hin₁ d h
      · exact hin₂ d h

/-- The header `00 00 00 01` alone: the payload handed out is 2^64 - 3 bytes long. -/
theorem short_header_outside :
    ¬ RangesInside App.recorder ⟨World.recording .small, [], []⟩
      [⟨.frontEnd, 0, [0, 0, 0, 1]⟩] := by
  rintro ⟨m', ds, hrun, hds, hin⟩
  have hhanded : (Run.run (Monitor.step App.recorder) ⟨World.recording .small, [], []⟩
      [⟨.frontEnd, 0, [0, 0, 0, 1]⟩]).map (·.handed) =
      some [⟨0, 1, 4, 2 ^ 64 - 3, 4, [], true⟩] := by rfl
  rw [hrun, Option.map_some, hds] at hhanded
  have hone : ds = [⟨0, 1, 4, 2 ^ 64 - 3, 4, [], true⟩] := Option.some.inj hhanded
  have hbad := (hin ⟨0, 1, 4, 2 ^ 64 - 3, 4, [], true⟩ (by rw [hone]; simp)).header
  exact absurd hbad (by decide)

end Rapidapp
