import Rapidapp.Connector.ClientTurn

/-!
# How far a client has come

A client takes the three messages of the handshake one after the other, then payloads. `At` says
where it is when it has taken that many messages. Whatever the application calls next, the client
stays there or takes one message more, and only the first two times it has something to answer.
-/

namespace Rapidapp.Connector

open TSocketUtil

namespace Client

variable {pb : Protobuf} {k : Client} {net : NetOutcome} {taken : Nat}

/-- The state after that many messages of the connector. -/
def stateAt : Nat → ClientState
  | 0 => .sessionStateKeySyning
  | 1 => .sessionStateAuthing
  | 2 => .sessionStateReady
  | _ => .sessionStateDone

/-- The message of the handshake that comes next. -/
def awaits : Nat → Option CSBodyCmdId
  | 0 => some .synack
  | 1 => some .passport
  | 2 => some .startApp
  | _ => none

theorem expected_stateAt (taken : Nat) : expected (stateAt taken) = awaits taken := by
  match taken with
  | 0 => rfl
  | 1 => rfl
  | 2 => rfl
  | _ + 3 => rfl

theorem onward_stateAt {taken : Nat} (h : taken < 3) :
    onward (stateAt taken) = stateAt (taken + 1) := by
  match taken, h with
  | 0, _ => rfl
  | 1, _ => rfl
  | 2, _ => rfl

theorem awaits_of_lt {taken : Nat} (h : taken < 3) : ∃ id, awaits taken = some id := by
  match taken, h with
  | 0, _ => exact ⟨_, rfl⟩
  | 1, _ => exact ⟨_, rfl⟩
  | 2, _ => exact ⟨_, rfl⟩

theorem stateAt_of_le {taken : Nat} (h : 3 ≤ taken) : stateAt taken = .sessionStateDone := by
  match taken, h with
  | _ + 3, _ => rfl

theorem eq_zero_of_stateAt (h : stateAt taken = .sessionStateKeySyning) : taken = 0 := by
  match taken, h with
  | 0, _ => rfl
  | 1, heq => cases heq
  | 2, heq => cases heq
  | _ + 3, heq => cases heq

/-- The client has taken that many messages. Nothing has failed, and the application is told when
the handshake is done. -/
structure At (taken : Nat) (k : Client) : Prop where
  stage : taken = 0 ∧ k.Connecting ∧ k.queued = [] ∨
    k.Online ∧ k.sessionState = stateAt taken
  flag : k.handshakeDone = true → 3 ≤ taken
  told : .onHandShakeSucceed ∈ k.calls → k.handshakeDone = true
  fine : .onHandShakeFailed ∉ k.calls ∧ .onServerClose ∉ k.calls

/-- `Update` calls `Recv`. -/
def callsRecv (k : Client) : Bool :=
  match k.sessionState with
  | .sessionStateKeySyning => true
  | .sessionStateAuthing => true
  | .sessionStateReady => true
  | .sessionStateDone => k.handshakeDone
  | _ => false

/-- What arrives during an `Update`. -/
def arriving (net : NetOutcome) (k : Client) : List UInt8 :=
  if k.callsRecv = true then net.recv.bytes else []

theorem callsRecv_of_lt (h : k.sessionState = stateAt taken) (hlt : taken < 3) :
    k.callsRecv = true := by
  rw [callsRecv, h]
  match taken, hlt with
  | 0, _ => rfl
  | 1, _ => rfl
  | 2, _ => rfl

/-- A client that has its descriptor. -/
theorem start_eq (settings : ClientSettings) {fd : Int} (hfd : 0 ≤ fd) :
    start settings fd =
      { settings := settings
        tcpSock := { TcpSocketUtil.init getPkgLen (kMaxPkgSize * 2) with
          fd := fd
          socketState := .netConnecting }
        sessionState := .sessionStateTcpSyning } := by
  simp only [start, connect, TcpSocketUtil.connectNonBlock, if_neg (not_lt.mpr hfd), ne_eq,
    not_true, if_false]

theorem at_start (settings : ClientSettings) {fd : Int} (hfd : 0 ≤ fd) :
    At 0 (start settings fd) := by
  rw [start_eq settings hfd]
  have hbuf : Bounded (.empty (kMaxPkgSize * 2)) := bounded_empty (le_refl _)
  exact ⟨.inl ⟨rfl, ⟨⟨⟨hbuf, hbuf⟩, rfl⟩, rfl, hfd, rfl⟩, rfl⟩, nofun, nofun, nofun, nofun⟩

/-- A call during the handshake. -/
theorem Moves.at_ {k' : Client} {content : List UInt8} {taken' : Nat} (h : At taken k)
    (hmoves : Moves k k' (stateAt taken') content) (hle : taken ≤ taken') : At taken' k' where
  stage := .inr ⟨hmoves.online, hmoves.state⟩
  flag hflag := (h.flag (hmoves.flag ▸ hflag)).trans hle
  told htold := by
    rw [hmoves.calls] at htold
    rw [hmoves.flag]
    exact h.told htold
  fine := by rw [hmoves.calls]; exact h.fine

namespace At

theorem receives (h : At taken k) : k.Receives := by
  obtain ⟨_, hconnecting, _⟩ | ⟨honline, _⟩ := h.stage
  · exact hconnecting.receives
  · exact honline.receives

/-- A client whose handshake is done. -/
theorem done (h : At taken k) (hle : 3 ≤ taken) :
    k.Online ∧ k.sessionState = .sessionStateDone := by
  obtain ⟨hzero, _⟩ | ⟨honline, hstate⟩ := h.stage
  · omega
  · exact ⟨honline, by rw [hstate, stateAt_of_le hle]⟩

/-- An `Update` of a client whose handshake is done. -/
theorem update_done (h : At taken k) (hle : 3 ≤ taken) (hw : Works net)
    (hdata : net.recv.bytes.length ≤ offered k.tcpSock) :
    At taken (k.update pb net).2 ∧
      (k.update pb net).2.content = k.content ++ k.arriving net ∧
        k.makes pb (.update net) = none := by
  obtain ⟨honline, hstate⟩ := h.done hle
  have hmakes : k.makes pb (.update net) = none := by
    rw [makes, hstate]
  cases hflag : k.handshakeDone with
  | false =>
    rw [update_first hstate hflag]
    have hrecv : k.arriving net = [] := by
      rw [arriving, callsRecv, hstate, hflag]
      rfl
    refine ⟨⟨.inr ⟨honline.of_sock rfl, ?_⟩, fun _ => hle, fun _ => rfl, ?_⟩, ?_,
      hmakes⟩
    · rw [stateAt_of_le hle]
      exact hstate
    · simpa [Client.told, callBack] using h.fine
    · rw [hrecv, List.append_nil]
      rfl
  | true =>
    obtain ⟨hret, harrived⟩ := arrived_recvd honline hw hdata
    have hrecv : k.arriving net = net.recv.bytes := by
      rw [arriving, callsRecv, hstate, hflag]
      rfl
    have hat : At taken (k.recvd net.recv) :=
      ⟨.inr ⟨harrived.online, by rw [stateAt_of_le hle]; exact hstate⟩, fun _ => hle,
        fun _ => hflag, h.fine⟩
    rw [Client.update_done honline.receives hstate hflag hdata, if_pos hret, hrecv]
    split_ifs
    · exact ⟨hat, harrived.content, hmakes⟩
    · refine ⟨⟨.inr ⟨harrived.online.of_sock rfl, ?_⟩, fun _ => hle, fun _ => hflag, ?_⟩,
        harrived.content, hmakes⟩
      · rw [stateAt_of_le hle]
        exact hstate
      · simpa [callBack] using hat.fine

/-- An `Update`: the client begins, or it takes the next message of the handshake when that is
complete, or nothing but the bytes that arrive changes. -/
theorem update (h : At taken k) (hw : Works net)
    (hdata : net.recv.bytes.length ≤ offered k.tcpSock) (hfit : Fits pb k (.update net))
    (hid : ∀ n id, pkgDecoder.next (k.content ++ k.arriving net) = some n →
      awaits taken = some id →
      (parsePkg pb ((k.content ++ k.arriving net).take n)).head.bodyid = id.value) :
    At taken (k.update pb net).2 ∧ (k.update pb net).2.content = k.content ++ k.arriving net ∧
        (k.makes pb (.update net) = none ∨
          k.makes pb (.update net) = some k.synMsg ∧ k.queued = []) ∨
      taken < 3 ∧ At (taken + 1) (k.update pb net).2 ∧
        (∃ n, pkgDecoder.next (k.content ++ k.arriving net) = some n ∧
          (k.update pb net).2.content = (k.content ++ k.arriving net).drop n) ∧
        k.makes pb (.update net) = if taken = 0 then some k.authMsg else none := by
  obtain ⟨rfl, hconnecting, hnone⟩ | ⟨honline, hstate⟩ := h.stage
  · have hrecv : k.arriving net = [] := by
      rw [arriving, callsRecv, hconnecting.state]
      rfl
    rw [hrecv, List.append_nil]
    left
    obtain hzero | hpos := eq_or_lt_of_le hw.check
    · have hmakes := @makes_syn pb _ _ hconnecting hzero.symm
      obtain hmoves := moves_update_connected hconnecting hzero.symm hw.send (hfit _ hmakes)
      exact ⟨@Moves.at_ _ _ _ _ 0 h hmoves (le_refl _), hmoves.content, .inr ⟨hmakes, hnone⟩⟩
    · have hmakes := @makes_connecting pb _ _ hconnecting hpos
      rw [update_connecting hconnecting hpos]
      exact ⟨h, rfl, .inl hmakes⟩
  · obtain hlt | hle := lt_or_ge taken 3
    · obtain ⟨id, hawaits⟩ := awaits_of_lt hlt
      have hexpected : expected k.sessionState = some id := by
        rw [hstate, expected_stateAt, hawaits]
      have hrecv : k.arriving net = net.recv.bytes := by
        rw [arriving, callsRecv_of_lt hstate hlt, if_pos rfl]
      rw [hrecv] at hid ⊢
      cases hnext : pkgDecoder.next (k.content ++ net.recv.bytes) with
      | none =>
        obtain ⟨hmoves, hmakes⟩ :=
          @moves_update_none pb _ _ honline hw hdata _ hexpected hnext
        rw [hstate] at hmoves
        exact .inl ⟨hmoves.at_ h (le_refl _), hmoves.content, .inl hmakes⟩
      | some n =>
        obtain ⟨hmoves, hmakes⟩ := moves_update_some honline hw hdata hexpected hnext
          (hid n id hnext hawaits) hfit
        rw [hstate, onward_stateAt hlt] at hmoves
        refine .inr ⟨hlt, hmoves.at_ h (Nat.le_succ _), ⟨n, rfl, hmoves.content⟩, ?_⟩
        rw [hmakes, hstate]
        by_cases hzero : taken = 0
        · rw [hzero]
          rfl
        · rw [if_neg hzero, if_neg fun heq => hzero (eq_zero_of_stateAt heq)]
    · obtain ⟨hat, hcontent, hmakes⟩ := @update_done pb _ _ _ h hle hw hdata
      exact .inl ⟨hat, hcontent, .inl hmakes⟩

/-- Another call once the handshake is done. -/
theorem of_moves (h : At taken k) (hle : 3 ≤ taken) {k' : Client} {content : List UInt8}
    (hmoves : Moves k k' k.sessionState content) {taken' : Nat} (hle' : taken ≤ taken') :
    At taken' k' := by
  rw [(h.done hle).2, ← stateAt_of_le (hle.trans hle')] at hmoves
  exact hmoves.at_ h hle'

/-- A payload is queued; the empty one is refused. -/
theorem pushMessage (h : At taken k) (hle : 3 ≤ taken) {data : List UInt8} {send : SendOutcome}
    (hfit : Fits pb k (.pushMessage data send)) (hsend : send ≠ .failed) :
    At taken (k.pushMessage pb data send).2 ∧
      (k.pushMessage pb data send).2.content = k.content ∧
      ((k.pushMessage pb data send).1 = 0 ↔ data ≠ []) := by
  by_cases hdata : data.length = 0
  · rw [pushMessage_empty hdata]
    have hfails : (-1 : Int) ≠ 0 := by decide
    exact ⟨h, rfl, iff_of_false hfails (not_not.mpr (List.length_eq_zero_iff.mp hdata))⟩
  · obtain ⟨hzero, hmoves⟩ := moves_pushMessage (h.done hle).1 hdata hfit hsend
    refine ⟨h.of_moves hle hmoves (le_refl _), hmoves.content, iff_of_true hzero ?_⟩
    exact fun hnil => hdata (by rw [hnil]; rfl)

theorem peekMessage (h : At taken k) (hle : 3 ≤ taken) :
    At taken (k.peekMessage pb).2.2 ∧ (k.peekMessage pb).2.2.content = k.content := by
  have hmoves := @moves_peekMessage pb _ (h.done hle).1
  exact ⟨h.of_moves hle hmoves (le_refl _), hmoves.content⟩

/-- A pop takes the package at the head of the queue, if there is one. -/
theorem popMessage (h : At taken k) (hle : 3 ≤ taken) :
    pkgDecoder.next k.content = none ∧ At taken k.popMessage.2 ∧
        k.popMessage.2.content = k.content ∨
      ∃ n, pkgDecoder.next k.content = some n ∧ At (taken + 1) k.popMessage.2 ∧
        k.popMessage.2.content = k.content.drop n := by
  cases hnext : pkgDecoder.next k.content with
  | none =>
    have hmoves := moves_popMessage_none (h.done hle).1 hnext
    exact .inl ⟨rfl, h.of_moves hle hmoves (le_refl _), hmoves.content⟩
  | some n =>
    have hmoves := moves_popMessage_some (h.done hle).1 hnext
    exact .inr ⟨n, rfl, h.of_moves hle hmoves (Nat.le_succ _), hmoves.content⟩

end At

/-- The payload that `PeekMessage` hands out. -/
def peeked (pb : Protobuf) (k : Client) : Option (List UInt8) :=
  if (k.peekMessage pb).1 = 0 then some (k.peekMessage pb).2.1 else none

/-- It is the payload of the package at the head of the queue. -/
theorem peeked_eq (h : k.Online) : k.peeked pb =
    (pkgDecoder.next k.content).bind fun n =>
      if (parsePkg pb (k.content.take n)).head.bodyid = CSBodyCmdId.dataTransparent.value then
        some ((parsePkg pb (k.content.take n)).body.data.getD [])
      else none := by
  have hok := h.receives.buffers.recv.ok
  have hpeek := peekFromRecvQ_eq h.receives.parser hok
  have hassert : normal ≠ assertFailed := by decide
  rw [peeked, Client.peekMessage, hasNewPkg_eq h.receives.parser hok, Client.content]
  cases hnext : pkgDecoder.next k.tcpSock.recvBuf.content with
  | none => rfl
  | some n =>
    simp only [Option.isSome_some, hpeek, hnext, hassert, Option.map_some, Option.getD_some,
      Option.bind_some, and_false, if_false]
    by_cases hid : (parsePkg pb (k.tcpSock.recvBuf.content.take n)).head.bodyid =
        CSBodyCmdId.dataTransparent.value
    · simp [hid]
    · simp [hid]

end Client

end Rapidapp.Connector
