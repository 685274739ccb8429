import Rapidapp.Framework.RpcPairServer

/-!
# The turns of the server

What one event of the server is to the calls on the connection (`RpcSetup.Turn`): the next call is
taken up or dropped when the loop of `OnFrontEndMsg` comes to its frame, an open call is answered
when its closure is completed, and anything else is nothing to them.
-/

namespace Rapidapp

open Framing RemoteCalls

variable {υ ν Msg γ δ : Type}

namespace ServiceState

variable {s s' : ServiceState Msg}

/-- The next closure is not there yet. -/
theorem Filed.fresh (h : s.Filed) : s.closures s.nextClosure = none := by
  by_contra hne
  obtain ⟨closure, hclosure⟩ := Option.ne_none_iff_exists'.mp hne
  obtain ⟨a, ha, rfl⟩ := h.opened _ closure hclosure
  exact lt_irrefl _ (h.made _ ha)

/-- `OnFrontEndRpcMsg` drops a call, or makes a closure with its asyncid and its request. -/
theorem onFrontEndRpcMsg_ask (server : RpcServer ν Msg) (user : ν) (newOk : Bool) (p : NetPtr)
    {data : List UInt8} {size : Nat} {x : RpcAsk Msg}
    (hunpack : server.proto.unpackToRpcMsg data size s.rpcMsg = (0, server.proto.askMessage x))
    (hparse : server.proto.parseFromString (server.proto.askMessage x).msgName
      (server.proto.askMessage x).msgBin = (true, x.2.2)) :
    ∃ s₁, SameClosures s s₁ ∧
      ((∃ ret, ret ≤ 0 ∧ s.onFrontEndRpcMsg server user newOk p data size = (ret, s₁)) ∨
        ∃ req rsp, s.onFrontEndRpcMsg server user newOk p data size =
            (1, s₁.openClosure p req rsp s₁.rpcMsg.asyncid) ∧
          s₁.rpcMsg.asyncid = x.1 ∧ (req.typeName, s₁.messages req.addr) = x.2) := by
  unfold onFrontEndRpcMsg spawnMessage
  rw [hunpack]
  dsimp only
  rw [if_neg (not_not.mpr rfl)]
  cases server.newInstance (server.proto.askMessage x).msgName with
  | false => 
    refine ⟨_, ?_, .inl ⟨-1, by decide, rfl⟩⟩
    exact ⟨rfl, rfl, rfl, rfl⟩
  | true =>
    rw [if_pos rfl, hparse]
    dsimp only [newMessage]
    cases server.rpcSvcMgr with
    | none => 
      refine ⟨_, ?_, .inl ⟨-1, by decide, rfl⟩⟩
      exact ⟨rfl, rfl, rfl, rfl⟩
    | some getRpcService =>
      dsimp only
      cases getRpcService (server.proto.askMessage x).msgName with
      | none => 
        refine ⟨_, ?_, .inl ⟨0, le_rfl, rfl⟩⟩
        exact ⟨rfl, rfl, rfl, rfl⟩
      | some svc =>
        dsimp only
        cases svc.newResponse user with
        | none => 
          refine ⟨_, ?_, .inl ⟨0, le_rfl, rfl⟩⟩
          exact ⟨rfl, rfl, rfl, rfl⟩
        | some response =>
          dsimp only
          cases newOk with
          | false => 
            refine ⟨_, ?_, .inl ⟨0, le_rfl, rfl⟩⟩
            exact ⟨rfl, rfl, rfl, rfl⟩
          | true =>
            refine ⟨_, ?_, .inr ⟨_, _, rfl, rfl, Prod.ext rfl ?_⟩⟩
            · exact ⟨rfl, rfl, rfl, rfl⟩
            -- the response is another message
            exact (Function.update_of_ne (Nat.ne_of_lt (Nat.lt_succ_self _)) _ _).trans
              (Function.update_self _ _ _)

end ServiceState

namespace RpcLine

variable {l : RpcLine} {proto : RpcProto Msg} {handling handling' : Option Handling}
  {bytes input chunk : List UInt8} {ask : Lane (RpcAsk Msg)} {drained : Nat} {k : Handling}

/-- The loop is somewhere else, and has gone no further on the connection. -/
theorem Reads.change (h : l.Reads proto handling bytes input ask drained)
    (hhad : l.had handling' = l.had handling)
    (hbev : ∀ k, handling' = some k → (k.net = l.peer ↔ k.bev = l.input))
    (hwithin : ∀ k, handling' = some k → k.net = l.peer →
      k.buf <+: input ∧ k.had ≤ k.buf.length) :
    l.Reads proto handling' bytes input ask drained :=
  ⟨h.rest, hhad ▸ h.carries, hbev, hwithin⟩

/-- The loop is done with other connections. -/
theorem Reads.away (h : l.Reads proto handling bytes input ask drained)
    (hnot : l.had handling = 0)
    (haway : ∀ k, handling' = some k → k.net ≠ l.peer ∧ k.bev ≠ l.input) :
    l.Reads proto handling' bytes input ask drained := by
  refine h.change ?_ (fun k hk => iff_of_false (haway k hk).1 (haway k hk).2)
    fun k hk hnet => absurd hnet (haway k hk).1
  rw [hnot]
  cases handling' with
  | none => rfl
  | some k => exact if_neg (haway k rfl).1

theorem had_of_ne (hnet : k.net ≠ l.peer) : l.had (some k) = 0 := if_neg hnet

theorem had_of_eq (hnet : k.net = l.peer) : l.had (some k) = k.had := if_pos hnet

/-- The next frame of the loop is the next call. -/
theorem Reads.take (h : l.Reads proto (some k) bytes input ask drained) (hnet : k.net = l.peer)
    (hcalling : k.calling = none) {msglen : Nat} (hframe : k.frame = some msglen) :
    ∃ x ask', ask.Takes x ask' ∧ msglen = (proto.askFrame x).length ∧
      (k.buf.drop k.elapsed).take msglen = proto.askFrame x ∧
      k.elapsed + msglen ≤ k.buf.length ∧
      Decoder.Carries msgDecoder proto.askFrame bytes (drained + (k.elapsed + msglen)) ask' := by
  obtain ⟨⟨rest, hrest⟩, hle⟩ := h.within k rfl hnet
  have hhad : k.had = k.elapsed := by rw [Handling.had, hcalling]; rfl
  have hcarries := h.carries
  rw [had_of_eq hnet, hhad] at hcarries
  rw [hhad] at hle
  have hpos := hcarries.pos_le
  have hlen : (bytes.take drained).length = drained := List.length_take_of_le (by omega)
  -- the bytes of the loop, behind those that were taken out before
  have hseen : bytes.take drained ++ k.buf <+: bytes :=
    ⟨rest, by rw [List.append_assoc, hrest, h.rest, List.take_append_drop]⟩
  have hdrop : (bytes.take drained ++ k.buf).drop (drained + k.elapsed) =
      k.buf.drop k.elapsed := by
    rw [← List.drop_drop, List.drop_left' hlen]
  rw [Handling.frame_eq, ← hdrop] at hframe
  obtain ⟨x, ask', ht, hmsglen, htake, htaken⟩ :=
    (hcarries.of_prefix hseen (by rw [List.length_append, hlen]; omega)).take hframe
  have hend := msgDecoder.next_le hframe
  rw [hdrop] at htake hend
  rw [List.length_drop] at hend
  refine ⟨x, ask', ht, hmsglen, htake, by omega, ?_⟩
  rw [← Nat.add_assoc]
  exact htaken.arrive hseen (ht.all ▸ hcarries.written)

/-- The loop goes on behind the call that was taken. -/
theorem Reads.behind (h : l.Reads proto (some k) bytes input ask drained) (hnet : k.net = l.peer)
    (hcalling : k.calling = none) {msglen : Nat} (hframe : k.frame = some msglen) {x : RpcAsk Msg}
    {ask' : Lane (RpcAsk Msg)} (ht : ask.Takes x ask') {k' : Handling} (hnet' : k'.net = k.net)
    (hbev : k'.bev = k.bev) (hbuf : k'.buf = k.buf) (hhad : k'.had = k.elapsed + msglen) :
    l.Reads proto (some k') bytes input ask' drained := by
  obtain ⟨x', ask'', ht', _, _, hend, hcarries⟩ := h.take hnet hcalling hframe
  obtain ⟨rfl, rfl⟩ := ht.unique ht'
  have hpeer := hnet'.trans hnet
  refine ⟨h.rest, ?_, ?_, ?_⟩
  · rw [had_of_eq hpeer, hhad]
    exact hcarries
  · rintro _ ⟨⟩
    rw [hnet', hbev]
    exact h.bev k rfl
  · rintro _ ⟨⟩ _
    rw [hbuf, hhad]
    exact ⟨(h.within k rfl hnet).1, hend⟩

/-- The loop has come to its end, and what it went through is taken out. -/
theorem Reads.drain (h : l.Reads proto (some k) bytes input ask drained) (hnet : k.net = l.peer)
    (hcalling : k.calling = none) :
    l.Reads proto none bytes (input.drop k.elapsed) ask (drained + k.elapsed) := by
  have hcarries := h.carries
  rw [had_of_eq hnet, Handling.had, hcalling] at hcarries
  refine ⟨?_, hcarries, nofun, nofun⟩
  rw [h.rest, List.drop_drop]

/-- More bytes have come, and the loop begins. -/
theorem Reads.arrive (h : l.Reads proto none bytes input ask drained)
    (hwritten : bytes ++ chunk <+: Decoder.stream proto.askFrame ask.all) (size : Nat) :
    l.Reads proto (some ⟨l.input, l.peer, (input ++ chunk).take size, 0, none⟩) (bytes ++ chunk)
      (input ++ chunk) ask drained := by
  have hpos : drained ≤ bytes.length := h.carries.pos_le
  refine ⟨?_, ?_, ?_, ?_⟩
  · rw [h.rest, List.drop_append_of_le_length hpos]
  · rw [had_of_eq rfl]
    exact h.carries.arrive (List.prefix_append _ _) hwritten
  · rintro _ ⟨⟩
    exact iff_of_true rfl rfl
  · rintro _ ⟨⟩ _
    exact ⟨List.take_prefix _ _, Nat.zero_le _⟩

/-- No closure was made. -/
theorem opened_of_same {s s' : ServiceRun ν Msg δ} (hfiled : s.service.Filed)
    (hs : s.service.SameClosures s'.service) : l.opened s s' = [] := by
  rw [opened, hs.closures, hfiled.fresh]

/-- A closure was made for a call. -/
theorem opened_of_ask {s : ServiceRun ν Msg δ} {s₁ : ServiceState Msg} {p : NetPtr}
    {req rsp : MessageRef} {x : RpcAsk Msg} (hs : s.service.SameClosures s₁)
    (hp : p = l.peer) (hasyncid : s₁.rpcMsg.asyncid = x.1)
    (hreq : (req.typeName, s₁.messages req.addr) = x.2) {s' : ServiceRun ν Msg δ}
    (hs' : s'.service = s₁.openClosure p req rsp s₁.rpcMsg.asyncid) : l.opened s s' = [x] := by
  have hnew : s'.service.closures s.service.nextClosure =
      some ⟨p, s₁.rpcMsg.asyncid, req, rsp⟩ := by
    rw [hs', ← hs.nextClosure]
    exact Function.update_self _ _ _
  have hmessages : s'.service.messages = s₁.messages := by
    rw [hs']
    rfl
  rw [opened, hnew]
  dsimp only
  rw [if_pos hp, hasyncid, hmessages, hreq]

theorem opened_of_other {s : ServiceRun ν Msg δ} {s₁ : ServiceState Msg} {p : NetPtr}
    {req rsp : MessageRef} (hs : s.service.SameClosures s₁) (hp : p ≠ l.peer)
    {s' : ServiceRun ν Msg δ}
    (hs' : s'.service = s₁.openClosure p req rsp s₁.rpcMsg.asyncid) : l.opened s s' = [] := by
  have hnew : s'.service.closures s.service.nextClosure =
      some ⟨p, s₁.rpcMsg.asyncid, req, rsp⟩ := by
    rw [hs', ← hs.nextClosure]
    exact Function.update_self _ _ _
  rw [opened, hnew]
  exact if_neg hp

theorem opened_of_delete {s s' : ServiceRun ν Msg δ} (hfiled : s.service.Filed) {k : ClosurePtr}
    (hs' : s'.service = s.service.deleteClosure k) : l.opened s s' = [] := by
  have hnone : s'.service.closures s.service.nextClosure = none := by
    rw [hs', ServiceState.deleteClosure]
    by_cases heq : s.service.nextClosure = k
    · rw [heq]
      exact Function.update_self _ _ _
    · exact (Function.update_of_ne heq _ _).trans hfiled.fresh
  rw [opened, hnone]

theorem stays_modifyNet (w : World ν δ) (p : NetPtr) {f : EasyNet δ → EasyNet δ}
    (hev : ∀ n, (f n).hevent = n.hevent) : l.Stays w (w.modifyNet p f) := by
  intro n e hl
  unfold World.modifyNet
  split
  · exact ⟨n, hl⟩
  · next n' hn' =>
    by_cases hp : l.peer = p
    · subst hp
      obtain rfl := Option.some.inj (hl.net.symm.trans hn')
      exact ⟨f n, Function.update_self _ _ _, (hev n).trans hl.hevent, hl.bev⟩
    · exact ⟨n, (Function.update_of_ne hp _ _).trans hl.net, hl.hevent, hl.bev⟩

end RpcLine

namespace RpcSetup

/-- What an event of the server is to the calls on the connection: one step of theirs or none, with
what was taken up and what was answered. -/
structure Turn (S : RpcSetup υ ν Msg γ) (s s' : ServiceRun ν Msg δ) (bytes : List UInt8)
    (c c' : LineCalls Msg) (told : List (RpcTell Msg)) : Prop where
  step : Relation.ReflGen (Calls.Step fun q a => S.may q a = true) c c'
  serving : S.Serving s' bytes c'
  ask : c'.ask.all = c.ask.all
  past : c'.tell.past = c.tell.past
  served : c'.served = c.served ++ S.line.opened s s'
  told : c'.tell.all = c.tell.all ++ told

open World

variable {S : RpcSetup υ ν Msg γ} {s s' : ServiceRun ν Msg δ} {bytes : List UInt8}
  {c c' : LineCalls Msg} {k : Handling}

namespace Serving

/-- Nothing comes in on the connection, and nothing is written to it. -/
theorem rest (h : S.Serving s bytes c) (hsound : s'.Sound) (hfiled : s'.service.Filed)
    (hfront : s'.world.InFront S.line.peer) (hstays : S.line.Stays s.world s'.world)
    (htell : c'.tell = c.tell)
    (hreads : ∀ input drained,
      S.line.Reads S.server.proto s.handling bytes input c.ask drained →
        S.line.Reads S.server.proto s'.handling bytes input c'.ask drained)
    (hclosures : S.line.Open s'.service.closures c'.serving) : S.Serving s' bytes c' where
  sound := hsound
  filed := hfiled
  pooled := hfront
  line := by
    obtain ⟨n, e, drained, hl, hout, hr⟩ := h.line
    obtain ⟨n', hl'⟩ := hstays n e hl
    exact ⟨n', e, drained, hl', htell ▸ hout, hreads _ _ hr⟩
  closures := hclosures

/-- It is nothing to the calls. -/
theorem same (h : S.Serving s bytes c) (hsound : s'.Sound) (hfiled : s'.service.Filed)
    (hfront : s'.world.InFront S.line.peer) (hstays : S.line.Stays s.world s'.world)
    (hreads : ∀ input drained,
      S.line.Reads S.server.proto s.handling bytes input c.ask drained →
        S.line.Reads S.server.proto s'.handling bytes input c.ask drained)
    (hs : s.service.SameClosures s'.service) : S.Turn s s' bytes c c [] where
  step := .refl
  serving := h.rest hsound hfiled hfront hstays rfl hreads (hs.closures ▸ h.closures)
  ask := rfl
  past := rfl
  served := by rw [RpcLine.opened_of_same h.filed hs, List.append_nil]
  told := (List.append_nil _).symm

/-! ## The loop of `OnFrontEndMsg` -/

/-- The loop goes on for another connection. -/
theorem round_other (h : S.Serving s bytes c) (hk : s.handling = some k)
    (hnet : k.net ≠ S.line.peer) (newOk : Bool)
    (hfiled : (s.round S.server newOk k).service.Filed)
    (hfront : (s.round S.server newOk k).world.InFront S.line.peer) :
    S.Turn s (s.round S.server newOk k) bytes c c [] := by
  have hsound := h.sound.round S.server newOk hk
  have hbev := h.bev_ne hk hnet
  have hreads : ∀ handling', (∀ k', handling' = some k' → k'.net = k.net ∧ k'.bev = k.bev) →
      ∀ input drained, S.line.Reads S.server.proto s.handling bytes input c.ask drained →
        S.line.Reads S.server.proto handling' bytes input c.ask drained := by
    intro handling' hsame input drained hr
    rw [hk] at hr
    refine hr.away (RpcLine.had_of_ne hnet) fun k' hk' => ?_
    rw [(hsame k' hk').1, (hsame k' hk').2]
    exact ⟨hnet, hbev⟩
  unfold ServiceRun.round at hsound hfiled hfront ⊢
  cases hframe : k.frame with
  | none =>
    rw [hframe] at hsound hfiled hfront
    refine h.same hsound hfiled hfront ?_ (hreads none nofun) (.refl _)
    have hdrain : Leaves S.line.peer s.world (s.world.evbufferDrain k.bev k.elapsed) :=
      .evbufferDrain_other (h.hevent_ne hbev) k.elapsed
    have hmodify : Leaves S.line.peer s.world (ServiceRun.endOfInput k s.world) :=
      hdrain.trans h.sound.ok (.modifyNet _ (fun _ => rfl) (fun _ => rfl) (fun _ => rfl)
        fun _ => rfl)
    exact RpcLine.stays_of_leaves hmodify hsound.ok hfront
  | some msglen =>
    rw [hframe] at hsound hfiled hfront
    dsimp only at hsound hfiled hfront ⊢
    obtain ⟨s₁, hsame, ⟨ret, hret, heq⟩ | ⟨req, rsp, heq⟩⟩ :=
      s.service.onFrontEndRpcMsg_cases S.server s.world.app newOk k.net
        (payloadBytes k.buf k.elapsed msglen) (payloadSize msglen) <;>
      rw [heq] at hsound hfiled hfront ⊢ <;> dsimp only at hsound hfiled hfront ⊢
    · by_cases hneg : ret < 0
      · rw [if_pos hneg] at hsound hfiled hfront ⊢
        have hdestroy : Leaves S.line.peer s.world (s.world.destroyFrontEnd (some k.net)) :=
          .destroyNet h.sound.ok .frontEnd _
        exact h.same hsound hfiled hfront (RpcLine.stays_of_leaves hdestroy hsound.ok hfront)
          (hreads none nofun) hsame
      · rw [if_neg hneg, if_pos (le_antisymm hret (not_lt.mp hneg))] at hsound hfiled hfront ⊢
        refine h.same hsound hfiled hfront (RpcLine.stays_modifyNet _ _ fun _ => rfl)
          (hreads _ ?_) hsame
        rintro _ ⟨⟩
        exact ⟨rfl, rfl⟩
    · rw [if_neg (by decide), if_neg (by decide)] at hsound hfiled hfront ⊢
      have hserving : S.line.Open (s₁.openClosure k.net req rsp s₁.rpcMsg.asyncid).closures
          c.serving := by
        have hopen := h.closures
        rw [← hsame.closures] at hopen
        exact hopen.addOther (hsame.closures ▸ hsame.nextClosure ▸ h.filed.fresh) hnet
      refine ⟨.refl, h.rest hsound hfiled hfront ?_ rfl (hreads _ ?_) hserving, rfl, rfl, ?_,
        (List.append_nil _).symm⟩
      · exact fun n e hl => ⟨n, hl⟩
      · rintro _ ⟨⟩
        exact ⟨rfl, rfl⟩
      · rw [RpcLine.opened_of_other hsame hnet rfl, List.append_nil]

/-- The loop has come to the end of what it copied of the connection. -/
theorem round_end (h : S.Serving s bytes c) (hk : s.handling = some k)
    (hcalling : k.calling = none) (hnet : k.net = S.line.peer)
    (hsound : ServiceRun.Sound { s with
      world := ServiceRun.endOfInput k s.world, handling := none })
    (hfront : (ServiceRun.endOfInput k s.world).InFront S.line.peer) :
    S.Serving { s with world := ServiceRun.endOfInput k s.world, handling := none } bytes c where
  sound := hsound
  filed := h.filed
  pooled := hfront
  line := by
    obtain ⟨n, e, drained, hl, hout, hr⟩ := h.line
    rw [hk] at hr
    have hbev := (hr.bev k rfl).mp hnet
    have hdrain : (s.world.evbufferDrain k.bev k.elapsed).heap.Live S.line.peer n S.line.input
        { e with
          input := e.input.drop k.elapsed, drained := e.drained ++ e.input.take k.elapsed } := by
      rw [hbev, World.evbufferDrain, hl.bev]
      exact ⟨hl.net, hl.hevent, Function.update_self _ _ _⟩
    obtain ⟨n', hl'⟩ := RpcLine.stays_modifyNet (l := S.line) _ k.net
      (f := countTraffic k.elapsed s.world.now) (fun _ => rfl) n _ hdrain
    exact ⟨n', _, _, hl', hout, hr.drain hnet hcalling⟩
  closures := h.closures

section Call

variable {msglen : Nat} {x : RpcAsk Msg} {ask' : Lane (RpcAsk Msg)} {s₁ : ServiceState Msg}

/-- The next call is dropped. -/
theorem refuse (h : S.Serving s bytes c) (hk : s.handling = some k) (hcalling : k.calling = none)
    (hnet : k.net = S.line.peer) (hframe : k.frame = some msglen) (ht : c.ask.Takes x ask')
    (hsame : s.service.SameClosures s₁)
    (hs : s' = { s with
      world := s.world.modifyNet k.net countPkg
      service := s₁
      handling := some (k.next msglen) })
    (hsound : s'.Sound) (hfiled : s'.service.Filed) (hfront : s'.world.InFront S.line.peer) :
    S.Turn s s' bytes c { c with ask := ask' } [] := by
  subst hs
  have hserving : S.Serving { s with
      world := s.world.modifyNet k.net countPkg
      service := s₁
      handling := some (k.next msglen) } bytes { c with ask := ask' } := by
    refine h.rest hsound hfiled hfront (RpcLine.stays_modifyNet _ _ fun _ => rfl) rfl
      (fun input drained hr => ?_) (hsame.closures ▸ h.closures)
    rw [hk] at hr
    exact hr.behind hnet hcalling hframe ht rfl rfl rfl (k.had_next msglen)
  refine ⟨.single (.refuse ht), hserving, ht.all, rfl, ?_, (List.append_nil _).symm⟩
  rw [RpcLine.opened_of_same h.filed hsame, List.append_nil]

/-- The next call is taken up, with a closure. -/
theorem serve (h : S.Serving s bytes c) {may : RpcContent Msg → Option (RpcContent Msg) → Prop}
    (hok : c.Ok may) (hk : s.handling = some k) (hcalling : k.calling = none)
    (hnet : k.net = S.line.peer) (hframe : k.frame = some msglen) (ht : c.ask.Takes x ask')
    (hsame : s.service.SameClosures s₁) {req rsp : MessageRef}
    (hid : s₁.rpcMsg.asyncid = x.1) (hreq : (req.typeName, s₁.messages req.addr) = x.2)
    (hs : s' = { s with
      service := s₁.openClosure k.net req rsp s₁.rpcMsg.asyncid
      handling := some { k with calling := some msglen } })
    (hsound : s'.Sound) (hfiled : s'.service.Filed) (hfront : s'.world.InFront S.line.peer) :
    S.Turn s s' bytes c
      { c with ask := ask', served := c.served ++ [x], serving := c.serving ++ [x] } [] := by
  subst hs
  have hnew : x.1 ∉ c.serving.map Prod.fst := fun hmem =>
    hok.notServed ht ((hok.busy.map Prod.fst).subset hmem)
  have hopen : S.line.Open (s₁.openClosure k.net req rsp s₁.rpcMsg.asyncid).closures
      (c.serving ++ [x]) := by
    have hclosures := h.closures
    rw [← hsame.closures] at hclosures
    exact hclosures.add (hsame.closures ▸ hsame.nextClosure ▸ h.filed.fresh) hnet hid hnew
  have hserving : S.Serving { s with
      service := s₁.openClosure k.net req rsp s₁.rpcMsg.asyncid
      handling := some { k with calling := some msglen } } bytes
      { c with ask := ask', served := c.served ++ [x], serving := c.serving ++ [x] } := by
    refine h.rest hsound hfiled hfront (fun n e hl => ⟨n, hl⟩) rfl (fun input drained hr => ?_)
      hopen
    rw [hk] at hr
    exact hr.behind hnet hcalling hframe ht rfl rfl rfl rfl
  refine ⟨.single (.serve ht), hserving, ht.all, rfl, ?_, (List.append_nil _).symm⟩
  rw [RpcLine.opened_of_ask hsame hnet hid hreq rfl]

/-- What the loop comes to on the connection is the next call. -/
theorem unpack (h : S.Serving s bytes c) (hlossless : S.server.proto.Lossless S.initialized)
    (hreadable : S.Readable c) (hk : s.handling = some k) (hcalling : k.calling = none)
    (hnet : k.net = S.line.peer) (hframe : k.frame = some msglen) :
    ∃ x ask', c.ask.Takes x ask' ∧ S.initialized x.2.1 x.2.2 = true ∧
      S.server.proto.unpackToRpcMsg (payloadBytes k.buf k.elapsed msglen) (payloadSize msglen)
        s.service.rpcMsg = (0, S.server.proto.askMessage x) := by
  obtain ⟨n, e, drained, hl, hout, hr⟩ := h.line
  rw [hk] at hr
  obtain ⟨x, ask', ht, rfl, htake, _⟩ := hr.take hnet hcalling hframe
  have hx : x ∈ c.ask.all := List.mem_append_right _ (by rw [ht.ahead]; exact List.mem_cons_self)
  obtain ⟨hasyncid, hinitialized, hfits⟩ := hreadable.ask x hx
  exact ⟨x, ask', ht, hinitialized, hlossless.unpack_ask (hasyncid.trans (by decide)) hfits htake _⟩

end Call

/-- The loop goes on for the connection: the next call is taken up or dropped. -/
theorem round_peer (h : S.Serving s bytes c) (hlossless : S.server.proto.Lossless S.initialized)
    (hreadable : S.Readable c) {may : RpcContent Msg → Option (RpcContent Msg) → Prop}
    (hok : c.Ok may) (hk : s.handling = some k) (hcalling : k.calling = none)
    (hnet : k.net = S.line.peer) (newOk : Bool)
    (hfiled : (s.round S.server newOk k).service.Filed)
    (hfront : (s.round S.server newOk k).world.InFront S.line.peer) :
    ∃ c', S.Turn s (s.round S.server newOk k) bytes c c' [] := by
  have hsound := h.sound.round S.server newOk hk
  unfold ServiceRun.round at hsound hfiled hfront ⊢
  cases hframe : k.frame with
  | none =>
    rw [hframe] at hsound hfiled hfront
    dsimp only at hsound hfiled hfront ⊢
    have hopened : S.line.opened s { s with
        world := ServiceRun.endOfInput k s.world, handling := none } = [] :=
      RpcLine.opened_of_same h.filed (.refl _)
    exact ⟨c, .refl, h.round_end hk hcalling hnet hsound hfront, rfl, rfl,
      by rw [hopened, List.append_nil], (List.append_nil _).symm⟩
  | some msglen =>
    rw [hframe] at hsound hfiled hfront
    dsimp only at hsound hfiled hfront ⊢
    obtain ⟨x, ask', ht, hinitialized, hunpack⟩ :=
      h.unpack hlossless hreadable hk hcalling hnet hframe
    obtain ⟨s₁, hsame, ⟨ret, hret, heq⟩ | ⟨req, rsp, heq, hid, hreq⟩⟩ :=
      ServiceState.onFrontEndRpcMsg_ask S.server s.world.app newOk k.net hunpack
        (hlossless.parse_ask hinitialized) <;>
      rw [heq] at hsound hfiled hfront ⊢ <;> dsimp only at hsound hfiled hfront ⊢
    · by_cases hneg : ret < 0
      · -- the connection would be removed
        rw [if_pos hneg] at hsound hfiled hfront
        obtain ⟨n, hn⟩ := hfront.alive hsound.ok
        have hnone := nets_destroyFrontEnd h.sound.ok h.pooled
        rw [← hnet] at hn hnone
        cases hnone.symm.trans hn
      · rw [if_neg hneg, if_pos (le_antisymm hret (not_lt.mp hneg))] at hsound hfiled hfront ⊢
        exact ⟨_, h.refuse hk hcalling hnet hframe ht hsame rfl hsound hfiled hfront⟩
    · rw [if_neg (by decide), if_neg (by decide)] at hsound hfiled hfront ⊢
      exact ⟨_, h.serve hok hk hcalling hnet hframe ht hsame hid hreq rfl hsound hfiled hfront⟩

/-- `OnRpcCall` returns to the loop. -/
theorem returned (h : S.Serving s bytes c) {b : BevPtr} {p : NetPtr} {buf : List UInt8}
    {elapsed msglen : Nat} (hk : s.handling = some ⟨b, p, buf, elapsed, some msglen⟩)
    (hs : s' = { s with
      world := s.world.modifyNet p countPkg
      handling := some (Handling.next ⟨b, p, buf, elapsed, none⟩ msglen) })
    (hsound : s'.Sound) (hfront : s'.world.InFront S.line.peer) : S.Turn s s' bytes c c [] := by
  subst hs
  refine h.same hsound h.filed hfront (RpcLine.stays_modifyNet _ _ fun _ => rfl)
    (fun input drained hr => ?_) (.refl _)
  rw [hk] at hr
  refine hr.change ?_ ?_ ?_
  · rfl
  · rintro _ ⟨⟩
    exact hr.bev ⟨b, p, buf, elapsed, some msglen⟩ rfl
  · rintro _ ⟨⟩ hnet
    exact hr.within ⟨b, p, buf, elapsed, some msglen⟩ rfl hnet

/-- The next bytes of the caller arrive. -/
theorem arrive [Inhabited δ] (h : S.Serving s bytes c) {chunk : List UInt8}
    (hwritten : bytes ++ chunk <+: Decoder.stream S.server.proto.askFrame c.ask.all)
    (hs : s.step S.server S.setting (.loop (.arrive S.line.input chunk)) = some s') :
    S.Serving s' (bytes ++ chunk) c := by
  have hsound := h.sound.step hs
  have hfiled := ServiceRun.filed_step h.filed hs
  rw [ServiceRun.step] at hs
  split at hs
  · next hk =>
    cases hs
    obtain ⟨n, e, drained, hl, hout, hr⟩ := h.line
    rw [hk] at hr
    have hlookup := h.lookup hl
    have hadd : s.world.evbufferAdd S.line.input chunk = { s.world with
        heap := s.world.heap.setBev S.line.input { e with input := e.input ++ chunk } } := by
      rw [evbufferAdd, hl.bev]
    have hself : (s.world.evbufferAdd S.line.input chunk).heap.bevs S.line.input =
        some { e with input := e.input ++ chunk } := by
      rw [hadd]
      exact Function.update_self _ _ _
    have hmgr : (s.world.evbufferAdd S.line.input chunk).frontendHandlerMgr =
        s.world.frontendHandlerMgr := by rw [hadd]
    have harrived : ServiceRun.arrived S.line.input (s.world.evbufferAdd S.line.input chunk) =
        some ⟨S.line.input, S.line.peer,
          (e.input ++ chunk).take s.world.frontendHandlerMgr.recvBuffer.size, 0, none⟩ := by
      rw [ServiceRun.arrived, hself, hmgr, Option.bind_some]
      dsimp only
      rw [hlookup]
      rfl
    refine ⟨hsound, hfiled, ⟨e.fd, by rw [hmgr]; exact hlookup⟩, ⟨n, _, drained,
      ⟨by rw [hadd]; exact hl.net, hl.hevent, hself⟩, hout, ?_⟩, h.closures⟩
    dsimp only
    rw [harrived]
    exact hr.arrive hwritten _
  · cases hs

/-! ## Done and Cancel -/

/-- A reply is written to the connection. -/
theorem send (h : S.Serving s bytes c) {closure : EasyRpcClosure}
    (hnet : closure.net = S.line.peer) (hw : s.Writable closure) {msg : List UInt8}
    (hmsg : msg ≠ []) {n : EasyNet δ} {e : BufferEvent}
    (hl : s.world.heap.Live S.line.peer n S.line.input e) :
    (s.world.heap.send closure.net msg).2.Live S.line.peer n S.line.input
      { e with output := e.output ++ encodeMsg msg } := by
  have hsent : s.world.heap.send closure.net msg =
      (.easyNetOk, (s.world.heap.send closure.net msg).2) :=
    Prod.ext ((s.world.heap.send_ok_iff _ hmsg).mpr (h.sound.takes hw)) rfl
  obtain ⟨n', b, e', hl', _, hwrote⟩ := Heap.send_ok hmsg hsent
  rw [hnet] at hl'
  obtain rfl := Option.some.inj (hl.net.symm.trans hl'.net)
  obtain rfl := Option.some.inj (hl.hevent.symm.trans hl'.hevent)
  have hbev := hwrote.bev hl.bev
  rw [if_pos rfl] at hbev
  exact ⟨by rw [hwrote.nets]; exact hl.net, hl.hevent, hbev⟩

/-- The closure of a call is completed, and the call is answered. -/
theorem answer (h : S.Serving s bytes c) {p : ClosurePtr} {closure : EasyRpcClosure}
    (hc : s.service.closures p = some closure) (hnet : closure.net = S.line.peer)
    (hw : s.Writable closure) {a : Option (RpcContent Msg)}
    (hmay : ∀ q, (closure.asyncId, q) ∈ c.serving → S.may q a = true)
    (hs : s' = { s.sendReply closure.net (S.server.proto.serializeRpc
        (S.server.proto.tellMessage (closure.asyncId, a))) with
      service := s.service.deleteClosure p })
    (hsound : s'.Sound) (hfront : s'.world.InFront S.line.peer) :
    S.Turn s s' bytes c (c.answer closure.asyncId a) [(closure.asyncId, a)] := by
  subst hs
  have hopened : S.line.opened s { s.sendReply closure.net (S.server.proto.serializeRpc
        (S.server.proto.tellMessage (closure.asyncId, a))) with
      service := s.service.deleteClosure p } = [] := RpcLine.opened_of_delete h.filed rfl
  obtain ⟨q, hq⟩ := h.closures.opened p closure hc hnet
  have hstep : Calls.Step (fun q a => S.may q a = true) c (c.answer closure.asyncId a) :=
    .answer (x := (closure.asyncId, q)) hq (hmay q hq)
  obtain ⟨n, e, drained, hl, hout, hr⟩ := h.line
  have hne : s.service.closures p ≠ none := by
    rw [hc]
    exact Option.some_ne_none _
  have hl' := h.send hnet hw (S.server.proto.serializeRpc_ne_nil
    (S.server.proto.tellMessage (closure.asyncId, a))) hl
  have hout' : e.output ++ encodeMsg (S.server.proto.serializeRpc
      (S.server.proto.tellMessage (closure.asyncId, a))) =
      Decoder.stream S.server.proto.tellFrame (c.answer closure.asyncId a).tell.all := by
    rw [hout, Calls.answer, Lane.all_put, Decoder.stream_append, Decoder.stream_singleton]
    rfl
  refine ⟨.single hstep, ⟨hsound, h.filed.deleteClosure hne, hfront,
    ⟨n, _, drained, hl', hout', hr⟩, h.closures.delete hc hnet⟩, rfl, rfl, ?_, Lane.all_put _ _⟩
  rw [hopened, List.append_nil]
  rfl

/-- A closure of another connection is completed. -/
theorem complete_other (h : S.Serving s bytes c) {reply : EasyRpcClosure → Int × List UInt8}
    {p : ClosurePtr} {closure : EasyRpcClosure} (hc : s.service.closures p = some closure)
    (hnet : closure.net ≠ S.line.peer)
    (hs : s' = { if (reply closure).1 = 0 then s.sendReply closure.net (reply closure).2 else s with
      service := s.service.deleteClosure p })
    (hsound : s'.Sound) (hfront : s'.world.InFront S.line.peer) : S.Turn s s' bytes c c [] := by
  have hservice : s'.service = s.service.deleteClosure p := by
    rw [hs]
  have hopened : S.line.opened s s' = [] := RpcLine.opened_of_delete h.filed hservice
  have hne : s.service.closures p ≠ none := by
    rw [hc]
    exact Option.some_ne_none _
  have hfiled : s'.service.Filed := hservice ▸ h.filed.deleteClosure hne
  have hopen : S.line.Open s'.service.closures c.serving :=
    hservice ▸ h.closures.deleteOther hc hnet
  refine ⟨.refl, h.rest hsound hfiled hfront ?_ rfl (fun input drained hr => ?_) hopen, rfl, rfl,
    by rw [hopened, List.append_nil], (List.append_nil _).symm⟩ <;> subst hs
  · split_ifs at hsound hfront ⊢
    · have hsend : Leaves S.line.peer s.world
          { s.world with heap := (s.world.heap.send closure.net (reply closure).2).2 } :=
        .send h.sound.ok (Ne.symm hnet) _
      exact RpcLine.stays_of_leaves hsend hsound.ok hfront
    · exact fun n e hl => ⟨n, hl⟩
  · split_ifs
    · exact hr
    · exact hr

/-- A closure is completed. -/
theorem complete (h : S.Serving s bytes c) {reply : EasyRpcClosure → Int × List UInt8}
    {p : ClosurePtr} (a : EasyRpcClosure → Option (RpcContent Msg))
    (hs : s.complete reply p = some s')
    (hreply : ∀ closure ∈ s.service.closures p, closure.net = S.line.peer →
      s.Writable closure ∧
        reply closure = (0, S.server.proto.serializeRpc
          (S.server.proto.tellMessage (closure.asyncId, a closure))) ∧
        ∀ q, (closure.asyncId, q) ∈ c.serving → S.may q (a closure) = true)
    (hfront : s'.world.InFront S.line.peer) :
    ∃ c', S.Turn s s' bytes c c' (S.line.answer s p a) := by
  have hsound := h.sound.complete hs
  obtain ⟨closure, hc, heq⟩ := ServiceRun.complete_eq hs
  by_cases hnet : closure.net = S.line.peer
  · obtain ⟨hw, hret, hmay⟩ := hreply closure hc hnet
    have hanswer : S.line.answer s p a = [(closure.asyncId, a closure)] := by
      rw [RpcLine.answer, hc]
      exact if_pos hnet
    rw [hret, if_pos rfl] at heq
    rw [hanswer]
    exact ⟨_, h.answer hc hnet hw hmay heq hsound hfront⟩
  · have hanswer : S.line.answer s p a = [] := by
      rw [RpcLine.answer, hc]
      exact if_neg hnet
    rw [hanswer]
    exact ⟨c, h.complete_other hc hnet heq hsound hfront⟩

/-! ## Any event -/

/-- Bytes for another connection begin its handler. -/
theorem arrived_other (h : S.Serving s bytes c) {b : BevPtr} {chunk : List UInt8}
    (hb : s.world.frontendHandlerMgr.getHandlerByEvent s.world.heap b ≠ some S.line.peer)
    (hk : ServiceRun.arrived b (s.world.evbufferAdd b chunk) = some k) :
    k.net ≠ S.line.peer ∧ k.bev ≠ S.line.input := by
  obtain ⟨e, he, hk⟩ := Option.bind_eq_some_iff.mp hk
  obtain ⟨p, hp, rfl⟩ := Option.map_eq_some_iff.mp hk
  constructor
  · rintro rfl
    refine hb ?_
    rw [evbufferAdd] at he hp
    split at he
    · next hnone => cases hnone.symm.trans he
    · next e₀ he₀ =>
      obtain rfl := Option.some.inj ((Function.update_self b _ _).symm.trans he)
      have hget := getHandlerByEvent_eq (w := s.world) .frontEnd he₀
      rw [he₀] at hp
      exact hget.trans hp
  · rintro rfl
    exact hb h.handler

theorem loop [Inhabited δ] (h : S.Serving s bytes c) {taken : List (RpcAsk Msg)} {e : LoopEvent}
    (hserves : S.Serves s taken (.loop e)) (hk : s.handling = none)
    (hs : s.loopStep S.server S.setting e = some s') (hsound : s'.Sound)
    (hfiled : s'.service.Filed) (hfront : s'.world.InFront S.line.peer) :
    S.Turn s s' bytes c c [] := by
  have hstays := h.stays_loop hserves hs hsound.ok hfront
  cases e with
  | arrive b chunk =>
    cases hs
    refine h.same hsound hfiled hfront hstays (fun input drained hr => ?_) (.refl _)
    rw [hk] at hr
    exact hr.away rfl fun k harrived => h.arrived_other hserves harrived
  | connect fd bevOk callocOk =>
    rw [ServiceRun.loopStep] at hs
    split_ifs at hs
    cases hs
    exact h.same hsound hfiled hfront hstays (fun _ _ hr => hr) (.refl _)
  | socketEvent side b events =>
    cases side <;> cases hs <;>
      exact h.same hsound hfiled hfront hstays (fun _ _ hr => hr) (.refl _)
  | _ =>
    cases hs
    exact h.same hsound hfiled hfront hstays (fun _ _ hr => hr) ⟨rfl, rfl, rfl, rfl⟩

theorem call (h : S.Serving s bytes c) {taken : List (RpcAsk Msg)} {e : ServiceCall ν Msg δ}
    (hserves : S.Serves s taken (.call e)) (hs : s.callStep e = some s') (hsound : s'.Sound)
    (hfiled : s'.service.Filed) (hfront : s'.world.InFront S.line.peer) :
    S.Turn s s' bytes c c [] := by
  have hstays := h.stays_call hserves hs hsound.ok hfront
  cases e with
  | createBackEnd type connect =>
    rw [ServiceRun.callStep] at hs
    split_ifs at hs
    cases hs
    exact h.same hsound hfiled hfront hstays (fun _ _ hr => hr) (.refl _)
  | _ =>
    cases hs
    exact h.same hsound hfiled hfront hstays (fun _ _ hr => hr) ⟨rfl, rfl, rfl, rfl⟩

/-- What the closures answer is what they may. -/
theorem answers {taken : List (RpcAsk Msg)} {e : ServiceEvent ν Msg δ}
    (hserves : S.Serves s taken e) : ∀ y ∈ S.line.answered s e, S.Answers taken y := by
  have hanswer : ∀ (a : EasyRpcClosure → Option (RpcContent Msg)) (p : ClosurePtr),
      (∀ closure ∈ s.service.closures p, closure.net = S.line.peer →
        S.Answers taken (closure.asyncId, a closure)) →
      ∀ y ∈ S.line.answer s p a, S.Answers taken y := by
    intro a p hall y hy
    unfold RpcLine.answer at hy
    split at hy
    · next closure hc =>
      split_ifs at hy with hnet
      · rw [List.mem_singleton.mp hy]
        exact hall closure hc hnet
      · cases hy
    · cases hy
  cases e with
  | done p => exact hanswer _ p fun closure hc hnet => (hserves closure hc hnet).2.2
  | cancel p => exact hanswer _ p fun closure hc hnet => (hserves closure hc hnet).2
  | _ => nofun

/-- Any event of the server. -/
theorem step [Inhabited δ] (h : S.Serving s bytes c)
    (hlossless : S.server.proto.Lossless S.initialized) (hreadable : S.Readable c)
    {may : RpcContent Msg → Option (RpcContent Msg) → Prop} (hok : c.Ok may)
    {e : ServiceEvent ν Msg δ} (hserves : S.Serves s c.served e)
    (hs : s.step S.server S.setting e = some s')
    (hfront : s'.world.InFront S.line.peer) :
    ∃ c', S.Turn s s' bytes c c' (S.line.answered s e) := by
  have hsound := h.sound.step hs
  have hfiled := ServiceRun.filed_step h.filed hs
  have hmay : ∀ {closure : EasyRpcClosure} {a : Option (RpcContent Msg)},
      S.Answers c.served (closure.asyncId, a) →
      ∀ q, (closure.asyncId, q) ∈ c.serving → S.may q a = true :=
    fun hanswers q hq => hanswers.1 _ (hok.busy.subset hq) rfl
  cases e with
  | loop e =>
    rw [ServiceRun.step] at hs
    split at hs
    · next hk => exact ⟨c, h.loop hserves hk hs hsound hfiled hfront⟩
    · cases hs
  | round newOk =>
    rw [ServiceRun.step] at hs
    split at hs
    · next b p buf elapsed hk =>
      cases hs
      by_cases hnet : p = S.line.peer
      · exact h.round_peer hlossless hreadable hok hk rfl hnet newOk hfiled hfront
      · exact ⟨c, h.round_other hk hnet newOk hfiled hfront⟩
    · cases hs
  | returned =>
    rw [ServiceRun.step] at hs
    split at hs
    · next hk =>
      cases hs
      exact ⟨c, h.returned hk rfl hsound hfront⟩
    · cases hs
  | call e => exact ⟨c, h.call hserves hs hsound hfiled hfront⟩
  | done p =>
    have hs : s.complete (s.doneReply S.server.proto) p = some s' := hs
    refine h.complete (RpcLine.response s) hs (fun closure hc hnet => ?_) hfront
    obtain ⟨hw, hname, hanswers⟩ := hserves closure hc hnet
    refine ⟨hw, ?_, hmay hanswers⟩
    rw [ServiceRun.doneReply, RpcProto.messageToBinary, if_neg (not_le.mpr hname)]
    rfl
  | cancel p =>
    have hs : s.complete (ServiceRun.cancelReply S.server.proto) p = some s' := hs
    refine h.complete (fun _ => none) hs (fun closure hc hnet => ?_) hfront
    obtain ⟨hw, hanswers⟩ := hserves closure hc hnet
    exact ⟨hw, rfl, hmay hanswers⟩

end Serving

end RpcSetup

end Rapidapp
