import Rapidapp.Framework.RpcPairTurns

/-!
# Runs of a caller and a service

Whatever the two processes do one after another, and however their bytes arrive, they do it as
`RemoteCalls` has it (`RpcSetup.Holds.step`). From that come the things a caller can rely on: a
callback is called with the answer of the service to its own call, no call has two of them, and a
call that was taken up has its callback once the service is done with it.
-/

namespace Rapidapp

open Framing RemoteCalls

variable {υ ν Msg γ δ : Type}

namespace RpcSetup

/-- The calls between the two processes are `c`. -/
structure Holds (S : RpcSetup υ ν Msg γ) (P : RpcPair υ ν Msg γ δ) (c : LineCalls Msg) : Prop where
  ok : c.Ok fun q a => S.may q a = true
  readable : S.Readable c
  calling : S.Calling P.caller P.called P.returned c
  arrived : P.arrived ≤ (P.asks S.line).length
  serving : S.Serving P.server ((P.asks S.line).take P.arrived) c
  heard : Decoder.Carries msgDecoder S.server.proto.tellFrame (P.tells S.line) P.heard c.tell
  taken : P.taken = c.served
  told : P.told = c.tell.all

variable {S : RpcSetup υ ν Msg γ} {P P' : RpcPair υ ν Msg γ δ} {c c' : LineCalls Msg}

/-- The calls that are on their way get one more. -/
theorem Serving.put {s : ServiceRun ν Msg δ} {bytes : List UInt8} (h : S.Serving s bytes c)
    {x : RpcAsk Msg} (hx : msgDecoder.IsFrame (S.server.proto.askFrame x)) :
    S.Serving s bytes { c with ask := c.ask.put [x] } where
  sound := h.sound
  filed := h.filed
  pooled := h.pooled
  line := by
    obtain ⟨n, e, drained, hl, hout, hr⟩ := h.line
    refine ⟨n, e, drained, hl, hout, hr.rest, hr.carries.put ?_, hr.bev, hr.within⟩
    intro m hm
    rw [List.mem_singleton.mp hm]
    exact hx
  closures := h.closures

/-- The answers that the caller has heard are nothing to the server. -/
theorem Serving.hear {s : ServiceRun ν Msg δ} {bytes : List UInt8} (h : S.Serving s bytes c)
    {tell : Lane (RpcTell Msg)} (htell : tell.all = c.tell.all) :
    S.Serving s bytes { c with tell := tell } where
  sound := h.sound
  filed := h.filed
  pooled := h.pooled
  line := by
    obtain ⟨n, e, drained, hl, hout, hr⟩ := h.line
    exact ⟨n, e, drained, hl, htell ▸ hout, hr⟩
  closures := h.closures

namespace Holds

theorem asks_eq (h : S.Holds P c) :
    P.asks S.line = Decoder.stream S.server.proto.askFrame c.ask.all := h.calling.output

theorem tells_eq (h : S.Holds P c) :
    P.tells S.line = Decoder.stream S.server.proto.tellFrame c.tell.all := h.serving.output

/-- The process of the caller has gone on, and nothing was called or answered. -/
theorem caller (h : S.Holds P c) {w : RpcWorld υ Msg γ}
    (hcalling : S.Calling w P.called P.returned c) : S.Holds { P with caller := w } c := by
  have hasks : w.heap.output S.line.bev = P.asks S.line := hcalling.output.trans h.asks_eq.symm
  have hserving : S.Serving P.server ((w.heap.output S.line.bev).take P.arrived) c := by
    rw [hasks]
    exact h.serving
  exact ⟨h.ok, h.readable, hcalling, h.arrived.trans_eq (congrArg _ hasks.symm), hserving,
    h.heard, h.taken, h.told⟩

/-- `RpcCall` of the caller. -/
theorem call (h : S.Holds P c) {a : World.RpcArgs} {ret : Int} {w : RpcWorld υ Msg γ}
    (hcall : P.caller.rpcCall S.server.proto S.user S.line.rpc a = some (ret, w))
    (hfits : S.Fits P.caller a) (hup : S.line.Up w) :
    ∃ c', Relation.ReflGen (Calls.Step fun q a => S.may q a = true) c c' ∧ S.Holds { P with
      caller := w
      called := P.called ++ if ret = 0 then S.line.made P.caller a else [] } c' := by
  obtain ⟨hret, hcalling⟩ | ⟨hret, x, hmade, hnew, hasyncid, hinitialized, hfits', hcalling⟩ :=
    h.calling.call h.ok hfits hup hcall
  · rw [if_neg hret, List.append_nil]
    exact ⟨c, .refl, h.caller hcalling⟩
  · rw [if_pos hret, hmade]
    have hframe := RpcProto.isFrame_askFrame hfits'
    have hasks : w.heap.output S.line.bev =
        P.asks S.line ++ S.server.proto.askFrame x.ask := by
      rw [hcalling.output, h.asks_eq, Lane.all_put, Decoder.stream_append,
        Decoder.stream_singleton]
    have hstep : Calls.Step (fun q a => S.may q a = true) c { c with ask := c.ask.put [x.ask] } :=
      .call x.ask hnew
    have hbytes : (w.heap.output S.line.bev).take P.arrived = (P.asks S.line).take P.arrived := by
      rw [hasks, List.take_append_of_le_length h.arrived]
    refine ⟨{ c with ask := c.ask.put [x.ask] }, .single hstep, h.ok.step hstep,
      ⟨?_, h.readable.tell⟩, hcalling, ?_, ?_, h.heard, h.taken, h.told⟩
    · intro x' hx'
      rw [Lane.all_put] at hx'
      obtain hx' | hx' := List.mem_append.mp hx'
      · exact h.readable.ask x' hx'
      · rw [List.mem_singleton.mp hx']
        exact ⟨hasyncid, hinitialized, hfits'⟩
    · show P.arrived ≤ (w.heap.output S.line.bev).length
      rw [hasks, List.length_append]
      exact h.arrived.trans (Nat.le_add_right _ _)
    · show S.Serving P.server ((w.heap.output S.line.bev).take P.arrived) _
      rw [hbytes]
      exact h.serving.put hframe

/-- The next bytes of the caller arrive. -/
theorem arrive [Inhabited δ] (h : S.Holds P c) {n : Nat} {s : ServiceRun ν Msg δ}
    (hs : P.server.step S.server S.setting
      (.loop (.arrive S.line.input (((P.asks S.line).drop P.arrived).take n))) = some s) :
    S.Holds { P with
      server := s
      arrived := P.arrived + (((P.asks S.line).drop P.arrived).take n).length } c := by
  have hbytes : (P.asks S.line).take P.arrived ++ ((P.asks S.line).drop P.arrived).take n <+:
      P.asks S.line := by
    rw [← List.take_add]
    exact List.take_prefix _ _
  have hserving := h.serving.arrive (h.asks_eq ▸ hbytes) hs
  have hheard : Decoder.Carries msgDecoder S.server.proto.tellFrame
      (s.world.heap.output S.line.input) P.heard c.tell := by
    rw [hserving.output, ← h.tells_eq]
    exact h.heard
  have hlen : ((P.asks S.line).take P.arrived ++ ((P.asks S.line).drop P.arrived).take n).length =
      P.arrived + (((P.asks S.line).drop P.arrived).take n).length := by
    rw [List.length_append, List.length_take_of_le h.arrived]
  refine ⟨h.ok, h.readable, h.calling, ?_, ?_, hheard, h.taken, h.told⟩
  · exact hlen ▸ hbytes.length_le
  · show S.Serving s ((P.asks S.line).take _) c
    rw [← hlen, ← List.prefix_iff_eq_take.mp hbytes]
    exact hserving

/-- Something happens in the process of the server. -/
theorem server [Inhabited δ] (h : S.Holds P c)
    (hlossless : S.server.proto.Lossless S.initialized) {e : ServiceEvent ν Msg δ}
    {s : ServiceRun ν Msg δ} (hs : P.server.step S.server S.setting e = some s)
    (hserves : S.Serves P.server P.taken e)
    (hfront : s.world.inPool .frontEnd S.line.peer = true) :
    ∃ c', Relation.ReflGen (Calls.Step fun q a => S.may q a = true) c c' ∧ S.Holds { P with
      server := s
      taken := P.taken ++ S.line.opened P.server s
      told := P.told ++ S.line.answered P.server e } c' := by
  rw [h.taken] at hserves
  have hanswers := Serving.answers hserves
  obtain ⟨c', hturn⟩ := h.serving.step hlossless h.readable h.ok hserves hs
    (World.inPool_iff_inFront.mp hfront)
  have htell : c'.tell = c.tell.put (S.line.answered P.server e) := by
    have hall := hturn.told
    rw [Lane.all, Lane.all, hturn.past, List.append_assoc] at hall
    rw [Lane.put, ← List.append_cancel_left hall, ← hturn.past]
  have hframes : ∀ y ∈ S.line.answered P.server e,
      msgDecoder.IsFrame (S.server.proto.tellFrame y) :=
    fun y hy => RpcProto.isFrame_tellFrame (hanswers y hy).2.2
  have hok : c'.Ok fun q a => S.may q a = true := by
    obtain _ | hstep := hturn.step
    · exact h.ok
    · exact h.ok.step hstep
  have htells := h.heard
  rw [h.tells_eq] at htells
  refine ⟨c', hturn.step, hok, ⟨hturn.ask.symm ▸ h.readable.ask, ?_⟩, ?_, h.arrived,
    hturn.serving, ?_, ?_, ?_⟩
  · intro y hy
    rw [hturn.told] at hy
    obtain hy | hy := List.mem_append.mp hy
    · exact h.readable.tell y hy
    · exact (hanswers y hy).2
  · have hcalling := h.calling
    exact ⟨hcalling.inv, hcalling.responses, hcalling.up, hturn.ask.symm ▸ hcalling.output,
      hturn.ask.symm ▸ hcalling.ask, hcalling.issued, hturn.past.symm ▸ hcalling.waiting,
      hturn.past.symm ▸ hcalling.returned⟩
  · show Decoder.Carries _ _ (s.world.heap.output S.line.input) _ _
    rw [hturn.serving.output, htell]
    exact htells.write hframes
  · rw [hturn.served, h.taken]
  · rw [hturn.told, h.told]

/-- The caller is served the next frame. -/
theorem hear (h : S.Holds P c) (hlossless : S.server.proto.Lossless S.initialized) {n : Nat}
    (hnext : msgDecoder.next ((P.tells S.line).drop P.heard) = some n) {w : RpcWorld υ Msg γ}
    (hserve : P.caller.serveBackEnd S.server.proto S.user S.line.net
      (payloadBytes (P.tells S.line) P.heard n) (payloadSize n) = some w)
    (hk : S.line.Keeps P.caller w) :
    ∃ c', Relation.ReflGen (Calls.Step fun q a => S.may q a = true) c c' ∧ S.Holds { P with
      caller := w
      heard := P.heard + n
      returned := P.returned ++ S.line.returns S.server.proto
        (payloadBytes (P.tells S.line) P.heard n) (payloadSize n) P.caller } c' := by
  obtain ⟨y, tell, ht, rfl, htake, hcarries⟩ := h.heard.take hnext
  have hy : y ∈ c.tell.all := List.mem_append_right _ (by rw [ht.ahead]; exact List.mem_cons_self)
  obtain ⟨hinitialized, hfits⟩ := h.readable.tell y hy
  obtain ⟨q, hq, _⟩ := (h.ok.next ht).1
  have hasyncid := (h.readable.ask _ hq).1
  have hunpack := hlossless.unpack_tell (hasyncid.trans (by decide)) hfits htake
    P.caller.app.rpcMsg
  obtain ⟨ret, hreturns, hcalling⟩ :=
    h.calling.hear hlossless h.ok ht hinitialized hunpack hserve hk
  have hstep : Calls.Step (fun q a => S.may q a = true) c { c with tell := tell } := .hear ht
  have hasks : w.heap.output S.line.bev = P.asks S.line := hk.2
  rw [hreturns]
  refine ⟨{ c with tell := tell }, .single hstep, h.ok.step hstep, ⟨h.readable.ask, ?_⟩, hcalling,
    h.arrived.trans_eq (congrArg _ hasks.symm), ?_, hcarries, h.taken, ?_⟩
  · rw [ht.all]
    exact h.readable.tell
  · show S.Serving P.server ((w.heap.output S.line.bev).take P.arrived) _
    rw [hasks]
    exact h.serving.hear ht.all
  · exact h.told.trans ht.all.symm

/-- One event is a step of the calls, or nothing to them. -/
theorem step [Inhabited δ] (h : S.Holds P c)
    (hlossless : S.server.proto.Lossless S.initialized) {e : RpcPairEvent ν Msg γ δ}
    (hs : P.step S e = some P') :
    ∃ c', Relation.ReflGen (Calls.Step fun q a => S.may q a = true) c c' ∧ S.Holds P' c' := by
  cases e with
  | call a =>
    rw [RpcPair.step] at hs
    split at hs
    · cases hs
    · next ret w hcall =>
      by_cases hif : S.Fits P.caller a ∧ S.line.Up w
      · rw [if_pos hif] at hs
        cases hs
        exact h.call hcall hif.1 hif.2
      · rw [if_neg hif] at hs
        cases hs
  | caller e =>
    rw [RpcPair.step] at hs
    split at hs
    · cases hs
    · next w hstep =>
      split_ifs at hs with hif
      cases hs
      exact ⟨c, .refl, h.caller (h.calling.elsewhere hstep hif.1 hif.2)⟩
  | arrive n =>
    rw [RpcPair.step] at hs
    split at hs
    · cases hs
    · next s hstep =>
      cases hs
      exact ⟨c, .refl, h.arrive hstep⟩
  | server e =>
    rw [RpcPair.step] at hs
    split at hs
    · cases hs
    · next s hstep =>
      split_ifs at hs with hif
      cases hs
      exact h.server hlossless hstep hif.1 hif.2
  | hear =>
    rw [RpcPair.step] at hs
    dsimp only at hs
    split at hs
    · cases hs
    · next n hnext =>
      split at hs
      · cases hs
      · next w hserve =>
        split_ifs at hs with hif
        cases hs
        exact h.hear hlossless hnext hserve hif

end Holds

end RpcSetup

namespace RpcPair

/-- The two processes have run until the connection was there, and nothing was said on it yet. -/
structure Starts [Inhabited δ] (S : RpcSetup υ ν Msg γ) (P : RpcPair υ ν Msg γ δ) : Prop where
  caller : ∃ user messages cocurrentNum fate frontRecv backRecv svcMode now es,
    WithResponses es ∧ Run.run (rpcStep S.server.proto S.user)
      (.start (.init user messages cocurrentNum) fate frontRecv backRecv svcMode now) es =
        some P.caller
  up : S.line.Up P.caller
  unused : ∀ q ∈ Exchange.issues P.caller.app.log, q.owner ≠ S.line.rpc
  asks : P.asks S.line = []
  server : ∃ user messages fate frontRecv backRecv now es,
    Run.run (ServiceRun.step S.server S.setting)
      (.start user messages fate frontRecv backRecv now) es = some P.server
  idle : P.server.handling = none
  pooled : P.server.world.inPool .frontEnd S.line.peer = true
  attached : (P.server.world.heap.nets S.line.peer).bind (·.hevent) = some S.line.input
  fresh : (P.server.world.heap.bevs S.line.input).map (fun e => (e.input, e.output)) =
    some ([], [])
  asked : ∀ a ∈ P.server.service.asked, a.net ≠ S.line.peer
  begin : P = { caller := P.caller, server := P.server }

/-- What the two processes show of the calls. -/
structure Shows (S : RpcSetup υ ν Msg γ) (P : RpcPair υ ν Msg γ δ) (c : LineCalls Msg) : Prop where
  called : P.called.map RpcCallMade.ask = c.ask.all
  asks : P.asks S.line = Decoder.stream S.server.proto.askFrame c.ask.all
  taken : P.taken = c.served
  closures : S.line.Open P.server.service.closures c.serving
  told : P.told = c.tell.all
  tells : P.tells S.line = Decoder.stream S.server.proto.tellFrame c.tell.all
  heard : P.heard = (Decoder.stream S.server.proto.tellFrame c.tell.past).length
  returned : List.Forall₂ (fun ret y => ret.Shows y.2 ∧
    ∃ x ∈ P.called, x.ctx = ret.ctx ∧ x.asyncid = y.1) P.returned c.tell.past

variable {S : RpcSetup υ ν Msg γ} {P P' : RpcPair υ ν Msg γ δ}

theorem shows_of_holds {c : LineCalls Msg} (h : S.Holds P c) :
    P.Shows S c where
  called := h.calling.ask.symm
  asks := h.asks_eq
  taken := h.taken
  closures := h.serving.closures
  told := h.told
  tells := h.tells_eq
  heard := h.heard.pos_eq
  returned := h.calling.returned

variable [Inhabited δ]

namespace Starts

theorem sound (h : P.Starts S) : P.server.Sound ∧ P.server.service.Filed := by
  obtain ⟨user, messages, fate, frontRecv, backRecv, now, es, hrun⟩ := h.server
  exact Run.run_preserves (I := fun s : ServiceRun ν Msg δ => s.Sound ∧ s.service.Filed)
    (fun _ _ _ h hs => ⟨h.1.step hs, ServiceRun.filed_step h.2 hs⟩)
    ⟨ServiceRun.sound_start user messages fate frontRecv backRecv now,
      ServiceState.filed_init messages⟩ hrun

theorem rpcInv (h : P.Starts S) : RpcInv S.server.proto P.caller.app ∧ Responses P.caller.app := by
  obtain ⟨user, messages, n, fate, frontRecv, backRecv, svcMode, now, es, hes, hrun⟩ := h.caller
  exact rpcInv_run (.init S.server.proto user messages n)
    (fun q hq => absurd hq List.not_mem_nil) hes hrun h.up.few

/-- Nobody has called yet. -/
theorem holds (h : P.Starts S) : S.Holds P Calls.start := by
  obtain ⟨hsound, hfiled⟩ := h.sound
  obtain ⟨hinv, hresponses⟩ := h.rpcInv
  have hissues : (Exchange.issues P.caller.app.log).filter (·.owner = S.line.rpc) = [] :=
    List.filter_eq_nil_iff.mpr fun q hq => by simpa using h.unused q hq
  have hwaiting : (Exchange.after P.caller.app.log).waiting.filter (·.owner = S.line.rpc) = [] :=
    List.filter_eq_nil_iff.mpr fun q hq => by
      simpa using h.unused q ((Exchange.waiting_sublist P.caller.app.log).subset hq)
  have hclosures : ∀ k closure, P.server.service.closures k = some closure →
      closure.net ≠ S.line.peer := by
    intro k closure hk
    obtain ⟨a, ha, rfl⟩ := hfiled.opened k closure hk
    exact h.asked _ ha
  obtain ⟨n, hn, hev⟩ := Option.bind_eq_some_iff.mp h.attached
  obtain ⟨e, he, hempty⟩ := Option.map_eq_some_iff.mp h.fresh
  obtain ⟨hinput, houtput⟩ := Prod.mk.inj hempty
  have hserving : S.Serving P.server [] Calls.start :=
    ⟨hsound, hfiled, World.inPool_iff_inFront.mp h.pooled, ⟨n, e, 0, ⟨hn, hev, he⟩, houtput,
      hinput, h.idle ▸ .empty, h.idle ▸ nofun, h.idle ▸ nofun⟩,
      fun k closure hk hnet => absurd hnet (hclosures k closure hk),
      fun k _ closure _ hk _ hnet => absurd hnet (hclosures k closure hk), nofun⟩
  have htells : P.tells S.line = [] := hserving.output
  have hbegin := h.begin
  obtain ⟨caller, server, _, _, _, _, _, _⟩ := P
  cases hbegin
  refine ⟨Calls.ok_start _, ⟨nofun, nofun⟩, ⟨hinv, hresponses, h.up, h.asks, rfl, hissues, hwaiting,
    .nil⟩, Nat.zero_le _, hserving, ?_, rfl, rfl⟩
  rw [htells]
  exact .empty

end Starts

theorem holds_run (hlossless : S.server.proto.Lossless S.initialized) (hstart : P.Starts S)
    {es : List (RpcPairEvent ν Msg γ δ)} (hrun : Run.run (RpcPair.step S) P es = some P') :
    ∃ c, Calls.Steps (fun q a => S.may q a = true) Calls.start c ∧ S.Holds P' c := by
  refine Run.run_preserves (I := fun P => ∃ c,
    Calls.Steps (fun q a => S.may q a = true) Calls.start c ∧ S.Holds P c) ?_
    ⟨Calls.start, .refl, hstart.holds⟩ hrun
  rintro P e P' ⟨c, hsteps, hholds⟩ hs
  obtain ⟨c', hstep, hholds'⟩ := hholds.step hlossless hs
  exact ⟨c', hsteps.trans hstep.to_reflTransGen, hholds'⟩

/-! ## Two calls -/

/-- A server whose service answers a request with a `Pong`. -/
def pongServer : RpcServer Unit (List UInt8) where
  proto := .wire
  newInstance _ := true
  rpcSvcMgr := some fun _ => some ⟨fun _ => some ([80, 111, 110, 103], [8, 5])⟩

/-- A process that calls it, on the first connection of both. -/
def pingSetup : RpcSetup Unit Unit (List UInt8) Unit where
  user := .idle
  server := pongServer
  setting := ⟨-1, -1, -1⟩
  line := ⟨0, 0, 0, 0, 0⟩
  initialized _ message := ProtoWire.complete message
  may _ answer := decide (answer = some ([80, 111, 110, 103], [8, 5]) ∨ answer = none)

/-- `CreateRpc`, and its connection comes up. -/
def pingLinked : List (RpcEvent Unit) :=
  let w := RpcWorld.connecting.onBackEndSocketEvent 0 { connected := true }
  [.createRpc 0 (some 7) true, .connections w.heap w.frontendHandlerMgr w.backendHandlerMgr]

/-- The server before there is any connection. -/
def pongStart : ServiceRun Unit (List UInt8) Unit :=
  .start () (fun _ => []) (fun _ => true) .small .small 0

/-- The two processes with the connection between them. -/
def pingStart : RpcPair Unit Unit (List UInt8) Unit Unit where
  caller := (Run.run (rpcStep .wire .idle) .idle pingLinked).getD .idle
  server := (Run.run (ServiceRun.step pongServer ⟨-1, -1, -1⟩) pongStart
    [.loop (.connect 7 true true)]).getD pongStart

/-- Two calls go out, and the frame of the first one comes in two pieces. The second call is
answered first, with `Done`, and then the first one with `Cancel`. -/
def pingEvents : List (RpcPairEvent Unit (List UInt8) Unit Unit) :=
  [.call .ping, .arrive 3, .server (.round true), .call .ping, .arrive 100, .server (.round true),
    .server .returned, .server (.round true), .server .returned, .server (.round true),
    .server (.done 1), .hear, .server (.cancel 0), .hear]

def pingEnd : RpcPair Unit Unit (List UInt8) Unit Unit :=
  (Run.run (RpcPair.step pingSetup) pingStart pingEvents).getD pingStart

theorem run_pings : Run.run (RpcPair.step pingSetup) pingStart pingEvents = some pingEnd := by
  have hruns : (Run.run (RpcPair.step pingSetup) pingStart pingEvents).isSome := by decide +kernel
  obtain ⟨P, hP⟩ := Option.isSome_iff_exists.mp hruns
  rw [pingEnd, hP]
  rfl

theorem starts_pings : pingStart.Starts pingSetup where
  caller := by
    have hruns : (Run.run (rpcStep .wire .idle) .idle pingLinked).isSome := by decide +kernel
    obtain ⟨w, hw⟩ := Option.isSome_iff_exists.mp hruns
    refine ⟨(), fun _ => [], 8, fun _ => true, .small, .small, .normal, 0, pingLinked, ?_, ?_⟩
    · intro r a ha
      simp [pingLinked] at ha
    · show Run.run (rpcStep .wire .idle) .idle pingLinked = some pingStart.caller
      rw [pingStart, hw]
      rfl
  up := by decide +kernel
  unused := by decide +kernel
  asks := by decide +kernel
  server := by
    have hruns : (Run.run (ServiceRun.step pongServer ⟨-1, -1, -1⟩) pongStart
      [.loop (.connect 7 true true)]).isSome := by decide +kernel
    obtain ⟨s, hs⟩ := Option.isSome_iff_exists.mp hruns
    refine ⟨(), fun _ => [], fun _ => true, .small, .small, 0, [.loop (.connect 7 true true)], ?_⟩
    show Run.run (ServiceRun.step pongServer ⟨-1, -1, -1⟩) pongStart
      [.loop (.connect 7 true true)] = some pingStart.server
    rw [pingStart, hs]
    rfl
  idle := by decide +kernel
  pooled := by decide +kernel
  attached := by decide +kernel
  fresh := by decide +kernel
  asked := by decide +kernel
  begin := rfl

/-! ## What the two processes do -/

/-- The answers that were heard, with their calls. -/
theorem heard_calls {called : List (RpcCallMade Msg)} {returned : List (RpcReturn Msg)}
    {heard : List (RpcTell Msg)}
    (h : List.Forall₂ (fun ret y => ret.Shows y.2 ∧
      ∃ x ∈ called, x.ctx = ret.ctx ∧ x.asyncid = y.1) returned heard) :
    ∃ calls : List (RpcCallMade Msg), calls ⊆ called ∧
      calls.map RpcCallMade.asyncid = heard.map Prod.fst ∧
      List.Forall₂ (fun ret x => x.ctx = ret.ctx ∧
        ∃ a, (x.asyncid, a) ∈ heard ∧ ret.Shows a) returned calls := by
  induction h with
  | nil => exact ⟨[], nofun, rfl, .nil⟩
  | @cons ret y returned heard hfirst _ ih =>
    obtain ⟨hshows, x, hx, hctx, hid⟩ := hfirst
    obtain ⟨calls, hcalls, hids, hall⟩ := ih
    refine ⟨x :: calls, List.cons_subset.mpr ⟨hx, hcalls⟩, ?_, .cons ?_ (hall.imp ?_)⟩
    · rw [List.map_cons, List.map_cons, hid, hids]
    · exact ⟨hctx, y.2, by rw [hid]; exact List.mem_cons_self, hshows⟩
    · rintro ret x ⟨hctx, a, ha, hshows⟩
      exact ⟨hctx, a, List.mem_cons_of_mem _ ha, hshows⟩

end RpcPair

end Rapidapp
