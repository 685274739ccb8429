import Mathlib.Data.List.TakeWhile
import Rapidapp.Connector.ClientDone

/-!
# The clients of a process, and `OnHandShakeSucceed`

`Update` keeps in a static variable whether `OnHandShakeSucceed` was called
(`client_api/connector_client_api_imp.cpp:430-454`), and nothing sets it back. All objects of the
process share it, and so do the connections of one object.
-/

namespace Rapidapp.Connector

open TSocketUtil

/-! ## Code that makes no call -/

namespace Client

variable {pb : Protobuf} {k k' k'' : Client}

/-- Code that neither calls the listener nor touches the static variable. -/
structure Silent (k k' : Client) : Prop where
  calls : k'.calls = k.calls
  handshakeDone : k'.handshakeDone = k.handshakeDone

theorem Silent.trans (h : Silent k k') (h' : Silent k' k'') : Silent k k'' :=
  ⟨h'.calls.trans h.calls, h'.handshakeDone.trans h.handshakeDone⟩

theorem silent_connect (k : Client) (fd : Int) : Silent k (k.connect fd).2 := by
  unfold connect
  dsimp only
  split_ifs <;> exact ⟨rfl, rfl⟩

theorem silent_checkConnect (k : Client) (check : Int) : Silent k (k.checkConnect check).2 :=
  ⟨rfl, rfl⟩

variable (pb) in
theorem silent_serializeAndSendToPeer (k : Client) (m : CSMsg) (outcome : SendOutcome) :
    Silent k (k.serializeAndSendToPeer pb m outcome).2 := by
  rcases hp : k.tcpSock.pushvToSendQ (iov pb m) with ⟨ret, sock⟩
  rw [serializeAndSendToPeer, hp]
  dsimp only
  split_ifs <;> exact ⟨rfl, rfl⟩

theorem silent_sendHandShake (k : Client) (m : CSMsg) (state : ClientState)
    (outcome : SendOutcome) : Silent k (k.sendHandShake pb m state outcome).2 := by
  have h := silent_serializeAndSendToPeer pb k.countSeqno m outcome
  rcases hs : k.countSeqno.serializeAndSendToPeer pb m outcome with ⟨ret, k'⟩
  rw [hs] at h
  rw [sendHandShake, hs]
  dsimp only
  split_ifs <;> exact ⟨h.calls, h.handshakeDone⟩

variable (pb) in
theorem silent_tryToRecv (k : Client) (outcome : RecvOutcome) :
    Silent k (k.tryToRecvFromPeerAndParse pb outcome).2 := by
  unfold tryToRecvFromPeerAndParse
  rcases k.tcpSock.recv outcome with ⟨ret, sock⟩
  dsimp only
  by_cases hret : ret ≠ normal
  · rw [if_pos hret]
    exact ⟨rfl, rfl⟩
  · rw [if_neg hret]
    rcases sock.hasNewPkg with ⟨_ | _, sock₁⟩
    · exact ⟨rfl, rfl⟩
    · dsimp only
      split_ifs <;> exact ⟨rfl, rfl⟩

variable (pb) in
theorem silent_handShakeTryAck (k : Client) (outcome : RecvOutcome) :
    Silent k (k.handShakeTryAck pb outcome).2 := by
  have h := k.silent_tryToRecv pb outcome
  rcases hr : k.tryToRecvFromPeerAndParse pb outcome with ⟨ret, k'⟩
  rw [hr] at h
  rw [handShakeTryAck, hr]
  dsimp only
  split_ifs <;> exact ⟨h.calls, h.handshakeDone⟩

theorem silent_tryHandShake (bodyid : CSBodyCmdId) {next : Client → Client}
    (hnext : ∀ k, Silent k (next k)) (k : Client) (outcome : RecvOutcome) :
    Silent k (k.tryHandShake pb bodyid next outcome).2 := by
  have h := k.silent_tryToRecv pb outcome
  rcases hr : k.tryToRecvFromPeerAndParse pb outcome with ⟨ret, k'⟩
  rw [hr] at h
  rw [tryHandShake, hr]
  dsimp only
  split_ifs
  · exact h
  · exact h
  · exact h
  · exact h.trans (hnext k')

/-- Before the session is done the `switch` of `Update` makes no call. -/
theorem silent_driveState (hstate : k.sessionState ≠ .sessionStateDone) {net : NetOutcome}
    {ret busy : Int} (hdrive : k.driveState pb net = some (ret, busy, k')) : Silent k k' := by
  have hdriven := driveState_cases hdrive
  generalize k.makes pb (.update net) = made at hdriven
  have htry := k.silent_handShakeTryAck pb net.recv
  cases hdriven with
  | connect => exact k.silent_connect net.connectFd
  | connecting => exact k.silent_checkConnect net.check
  | syn => exact (k.silent_checkConnect net.check).trans (silent_sendHandShake _ _ _ _)
  | noAck => exact htry
  | ackFails => exact htry
  | auth => exact htry.trans (silent_sendHandShake _ _ _ _)
  | tryReady =>
    rw [handShakeTryReady]
    refine silent_tryHandShake _ ?_ k _
    intro k
    exact ⟨rfl, rfl⟩
  | tryDone =>
    rw [handShakeTryDone]
    refine silent_tryHandShake _ ?_ k _
    intro k
    exact ⟨rfl, rfl⟩
  | succeed hdone => exact absurd hdone hstate
  | recvFails hdone => exact absurd hdone hstate
  | noPkg hdone => exact absurd hdone hstate
  | incoming hdone => exact absurd hdone hstate

end Client

/-! ## The callbacks of a call -/

/-- The call is one of the object itself. -/
def ClientCall.own : ClientCall → Bool
  | .elsewhere => false
  | _ => true

namespace ClientObject

variable {pb : Protobuf} {o : ClientObject}

/-- The call is an `Update` that comes to `SESSION_STATE_DONE`. -/
def drives (o : ClientObject) : ClientCall → Bool
  | .update _ => o.listening && decide (o.client.sessionState = .sessionStateDone)
  | _ => false

/-- The call begins a connection. -/
def begins (pb : Protobuf) (o : ClientObject) : ClientCall → Bool
  | .start settings fd => decide ((o.start settings fd).1 = 0)
  | .resume fd => decide ((o.resume fd).1 = 0)
  | .update net => decide (o.client.sessionState = .sessionStateInited ∧
      (o.update pb net).2.client.sessionState = .sessionStateTcpSyning)
  | _ => false

theorem not_drives_of_begins {e : ClientCall} (h : begins pb o e = true) : o.drives e = false := by
  cases e with
  | update net =>
    obtain ⟨hinited, _⟩ := of_decide_eq_true h
    simp [drives, hinited]
  | _ => rfl

/-- What a call adds to the callbacks, and what it does to the static variable. `first` is the call
of `OnHandShakeSucceed`, `later` any other `Update` of a session that is done. -/
inductive Calls (drives handshakeDone : Bool) : Bool → List Callback → Prop where
  | first (hdrives : drives = true) (hflag : handshakeDone = false) :
    Calls drives handshakeDone true [.onHandShakeSucceed]
  | later (hdrives : drives = true) (hflag : handshakeDone = true) {new : List Callback}
      (hnew : .onHandShakeSucceed ∉ new) : Calls drives handshakeDone true new
  | other (hdrives : drives = false) {new : List Callback}
      (hnew : .onHandShakeSucceed ∉ new ∧ .onIncoming ∉ new) :
    Calls drives handshakeDone handshakeDone new

/-- A call without callbacks. -/
theorem Calls.of_silent {o' : ClientObject} {drives : Bool} (hdrives : drives = false)
    (h : o.client.Silent o'.client) :
    ∃ new, o'.client.calls = o.client.calls ++ new ∧
      Calls drives o.client.handshakeDone o'.client.handshakeDone new := by
  refine ⟨[], by rw [h.calls, List.append_nil], ?_⟩
  rw [h.handshakeDone]
  exact .other hdrives ⟨List.not_mem_nil, List.not_mem_nil⟩

/-- `Update` with the session done. -/
theorem calls_update_done (h : o.IsDone) {net : NetOutcome}
    (hdata : net.recv.bytes.length ≤ offered o.client.tcpSock) :
    ∃ new, (o.client.update pb net).2.calls = o.client.calls ++ new ∧
      Calls true o.client.handshakeDone (o.client.update pb net).2.handshakeDone new := by
  cases hflag : o.client.handshakeDone with
  | false =>
    rw [Client.update_first h.done hflag]
    exact ⟨_, rfl, .first rfl rfl⟩
  | true =>
    rw [Client.update_done h.receives h.done hflag hdata]
    split_ifs
    · exact ⟨[], (List.append_nil _).symm, hflag ▸ .later rfl hflag List.not_mem_nil⟩
    · exact ⟨[.onIncoming], rfl, hflag ▸ .later rfl hflag (by decide)⟩
    · exact ⟨[.onServerClose], rfl, hflag ▸ .later rfl hflag (by decide)⟩
    · exact ⟨[], (List.append_nil _).symm, hflag ▸ .later rfl hflag List.not_mem_nil⟩

/-- `Update` before or after that. -/
theorem calls_update_other (hstate : o.client.sessionState ≠ .sessionStateDone) (net : NetOutcome) :
    ∃ new, (o.client.update pb net).2.calls = o.client.calls ++ new ∧
      Calls false o.client.handshakeDone (o.client.update pb net).2.handshakeDone new := by
  rw [Client.update]
  cases hdrive : o.client.driveState pb net with
  | none =>
    exact ⟨[], (List.append_nil _).symm, .other rfl ⟨List.not_mem_nil, List.not_mem_nil⟩⟩
  | some out =>
    obtain ⟨ret, busy, k'⟩ := out
    have hsilent := Client.silent_driveState hstate hdrive
    have hflag := hsilent.handshakeDone
    have hnone : k'.calls = o.client.calls ++ [] := by rw [hsilent.calls, List.append_nil]
    dsimp only
    split_ifs
    · refine ⟨[.onHandShakeFailed], congrArg (· ++ _) hsilent.calls, ?_⟩
      exact hflag.symm ▸ .other rfl (by decide)
    · refine ⟨[.onServerClose], congrArg (· ++ _) hsilent.calls, ?_⟩
      exact hflag.symm ▸ .other rfl (by decide)
    · exact ⟨[], hnone, hflag.symm ▸ .other rfl (by decide)⟩
    · exact ⟨[], hnone, hflag.symm ▸ .other rfl (by decide)⟩

theorem silent_pushMessage (k : Client) (data : List UInt8) (send : SendOutcome) :
    Client.Silent k (k.pushMessage pb data send).2 := by
  by_cases hdata : data.length = 0
  · rw [Client.pushMessage_empty hdata]
    exact ⟨rfl, rfl⟩
  · have h := k.countSeqno.silent_serializeAndSendToPeer pb (k.dataMsg data) send
    rw [Client.pushMessage_snd hdata]
    exact ⟨h.calls, h.handshakeDone⟩

theorem silent_peekMessage (k : Client) : Client.Silent k (k.peekMessage pb).2.2 := by
  unfold Client.peekMessage
  rcases k.tcpSock.hasNewPkg with ⟨_ | _, sock⟩
  · exact ⟨rfl, rfl⟩
  · dsimp only
    split_ifs <;> exact ⟨rfl, rfl⟩

theorem silent_popMessage (k : Client) : Client.Silent k k.popMessage.2 := by
  unfold Client.popMessage
  dsimp only
  split_ifs <;> exact ⟨rfl, rfl⟩

theorem silent_start (o : ClientObject) (settings : ClientSettings) (fd : Int) :
    o.client.Silent (o.start settings fd).2.client := by
  have h := Client.silent_connect { o.client with
    settings := settings
    tcpSock := o.client.tcpSock.initAgain getPkgLen (kMaxPkgSize * 2) } fd
  exact ⟨h.calls, h.handshakeDone⟩

theorem silent_resume (o : ClientObject) (fd : Int) :
    o.client.Silent (o.resume fd).2.client := by
  have h := Client.silent_connect { o.client with
    tcpSock := o.client.tcpSock.close.reset } fd
  rw [resume]
  split_ifs
  · exact ⟨rfl, rfl⟩
  · exact ⟨h.calls, h.handshakeDone⟩

/-- Only an `Update` with the session done calls `OnHandShakeSucceed` or `OnIncoming`, or touches the
static variable. -/
theorem calls_call (h : o.Ok) {e : ClientCall} (hpossible : Possible pb o e)
    (hown : e.own = true) :
    ∃ new, (o.call pb e).2.client.calls = o.client.calls ++ new ∧
      Calls (o.drives e) o.client.handshakeDone (o.call pb e).2.client.handshakeDone new := by
  cases e with
  | update net =>
    rw [call, drives]
    cases hlistening : o.listening with
    | false =>
      rw [update_not_listening hlistening]
      exact Calls.of_silent rfl ⟨rfl, rfl⟩
    | true =>
      rw [update_listening hlistening]
      by_cases hdone : o.client.sessionState = .sessionStateDone
      · rw [decide_eq_true hdone]
        exact calls_update_done ⟨h, hdone⟩ hpossible.1
      · rw [decide_eq_false hdone]
        exact calls_update_other hdone net
  | start settings fd => exact Calls.of_silent rfl (silent_start o settings fd)
  | resume fd => exact Calls.of_silent rfl (silent_resume o fd)
  | terminate => exact Calls.of_silent rfl ⟨rfl, rfl⟩
  | pushMessage data send => exact Calls.of_silent rfl (silent_pushMessage o.client data send)
  | peekMessage => exact Calls.of_silent rfl (silent_peekMessage o.client)
  | popMessage => exact Calls.of_silent rfl (silent_popMessage o.client)
  | elsewhere => cases hown

end ClientObject

/-! ## The objects of a process -/

/-- The objects and the static variable. Ghost: for each object the callbacks since its connection
was begun, and whether an `Update` was made with the session done. -/
structure Clients where
  objects : Nat → ClientObject
  handshakeDone : Bool
  notices : Nat → List Callback
  driven : Nat → Bool

namespace Clients

variable (pb : Protobuf)

/-- The objects are constructed. -/
def start : Clients where
  objects _ := .new false
  handshakeDone := false
  notices _ := []
  driven _ := false

/-- An object as its functions see it. -/
def view (c : Clients) (i : Nat) : ClientObject :=
  { c.objects i with client := { (c.objects i).client with handshakeDone := c.handshakeDone } }

/-- What a call of the object `i` leaves. -/
def after (c : Clients) (i : Nat) (e : ClientCall) (o : ClientObject) : Clients where
  objects := Function.update c.objects i o
  handshakeDone := o.client.handshakeDone
  notices := Function.update c.notices i
    (if (c.view i).begins pb e = true then []
      else c.notices i ++ o.client.calls.drop (c.view i).client.calls.length)
  driven := Function.update c.driven i
    (if (c.view i).begins pb e = true then false else c.driven i || (c.view i).drives e)

/-- A call of an object. -/
def step (c : Clients) (ie : Nat × ClientCall) : Option Clients :=
  if ie.2.own = true then ((c.view ie.1).step pb ie.2).map (c.after pb ie.1 ie.2) else none

/-- No message is announced in front of `OnHandShakeSucceed`. -/
def Ordered (notices : List Callback) : Prop :=
  .onIncoming ∉ notices.takeWhile (· ≠ .onHandShakeSucceed)

/-- For every connection `OnHandShakeSucceed` was called once as soon as an `Update` was made with the
session done, and before any `OnIncoming`. -/
def Notified (c : Clients) : Prop :=
  ∀ i, (c.notices i).count .onHandShakeSucceed = (if c.driven i = true then 1 else 0) ∧
    Ordered (c.notices i)

/-- The first `Update` of a connection with the session done is the first of the process. -/
def FirstOfProcess (c : Clients) (ie : Nat × ClientCall) : Prop :=
  (c.view ie.1).drives ie.2 = true → c.driven ie.1 = false → c.handshakeDone = false

instance (c : Clients) (ie : Nat × ClientCall) : Decidable (FirstOfProcess c ie) :=
  inferInstanceAs (Decidable (_ → _ → _))

variable {pb} {c c' : Clients} {i : Nat} {e : ClientCall}

/-! ## What every call keeps -/

/-- Every object is one that a client comes to, and an `Update` with the session done sets the static
variable. -/
structure Inv (pb : Protobuf) (c : Clients) : Prop where
  reachable : ∀ i, ClientObject.Reachable pb (c.view i)
  driven : ∀ i, c.driven i = true → c.handshakeDone = true

theorem inv_start (pb : Protobuf) : Inv pb start where
  reachable _ := ⟨false, [], rfl⟩
  driven _ h := by cases h

theorem step_some (hstep : step pb c (i, e) = some c') :
    e.own = true ∧ ClientObject.Possible pb (c.view i) e ∧
      c' = c.after pb i e ((c.view i).call pb e).2 := by
  rw [step] at hstep
  split_ifs at hstep with hown
  obtain ⟨o, ho, rfl⟩ := Option.map_eq_some_iff.mp hstep
  obtain ⟨hpossible, rfl⟩ := ClientObject.step_some ho
  exact ⟨hown, hpossible, rfl⟩

theorem view_after_self (c : Clients) (i : Nat) (e : ClientCall) (o : ClientObject) :
    (c.after pb i e o).view i = o := by
  rw [view, after]
  dsimp only
  rw [Function.update_self]

/-- Another object sees only what became of the static variable. -/
theorem view_after_ne (c : Clients) {i j : Nat} (hne : j ≠ i) (e : ClientCall) (o : ClientObject) :
    (c.after pb i e o).view j = { c.view j with
      client := { (c.view j).client with handshakeDone := o.client.handshakeDone } } := by
  rw [view, after]
  dsimp only
  rw [Function.update_of_ne hne]
  rfl

/-- The static variable is never set back, and an `Update` with the session done sets it. -/
theorem flag_of_calls {drives flag flag' : Bool} {new : List Callback}
    (h : ClientObject.Calls drives flag flag' new) :
    (flag' = flag ∨ flag' = true) ∧ (drives = true → flag' = true) := by
  cases h with
  | first => exact ⟨.inr rfl, fun _ => rfl⟩
  | later => exact ⟨.inr rfl, fun _ => rfl⟩
  | other hdrives =>
    refine ⟨.inl rfl, fun htrue => ?_⟩
    rw [hdrives] at htrue
    cases htrue

theorem Inv.step (h : Inv pb c) (hstep : Clients.step pb c (i, e) = some c') : Inv pb c' := by
  obtain ⟨hown, hpossible, rfl⟩ := step_some hstep
  obtain ⟨new, _, hcalls⟩ := ClientObject.calls_call (h.reachable i).ok hpossible hown
  obtain ⟨hkept, hset⟩ := flag_of_calls hcalls
  constructor
  · intro j
    by_cases hj : j = i
    · rw [hj, view_after_self]
      exact (h.reachable i).step (if_pos hpossible)
    · rw [view_after_ne c hj]
      obtain hsame | htrue := hkept
      · rw [hsame]
        exact h.reachable j
      · rw [htrue]
        exact (h.reachable j).step (e := .elsewhere) (if_pos trivial)
  · intro j hdriven
    have hold : c.driven j = true → ((c.view i).call pb e).2.client.handshakeDone = true := by
      intro htrue
      obtain hsame | htrue' := hkept
      · rw [hsame]
        exact h.driven j htrue
      · exact htrue'
    show ((c.view i).call pb e).2.client.handshakeDone = true
    simp only [after] at hdriven
    by_cases hj : j = i
    · rw [hj, Function.update_self] at hdriven
      split_ifs at hdriven
      rw [Bool.or_eq_true] at hdriven
      obtain hdriven | hdrives := hdriven
      · exact hold (hj ▸ hdriven)
      · exact hset hdrives
    · rw [Function.update_of_ne hj] at hdriven
      exact hold hdriven

/-! ## The order of the callbacks -/

theorem ordered_append {notices new : List Callback} (h : Ordered notices)
    (hnew : .onIncoming ∉ new ∨ .onHandShakeSucceed ∈ notices) : Ordered (notices ++ new) := by
  unfold Ordered at h ⊢
  rw [List.takeWhile_append]
  split_ifs with hall
  · have hstart : notices.takeWhile (· ≠ .onHandShakeSucceed) = notices :=
      (List.takeWhile_prefix _).eq_of_length hall
    have hnone : .onHandShakeSucceed ∉ notices := by
      intro hmem
      have hne := List.takeWhile_eq_self_iff.mp hstart _ hmem
      simp at hne
    rw [hstart] at h
    rw [List.mem_append, not_or]
    refine ⟨h, fun hmem => ?_⟩
    exact (hnew.resolve_right hnone) ((List.takeWhile_prefix _).subset hmem)
  · exact h

/-- An object whose callbacks are in order stays so exactly when the first `Update` with the session done
finds the static variable unset. -/
theorem notified_append_iff {notices new : List Callback} {drives driven flag flag' : Bool}
    (h : notices.count .onHandShakeSucceed = (if driven = true then 1 else 0) ∧ Ordered notices)
    (hdriven : driven = true → flag = true) (hcalls : ClientObject.Calls drives flag flag' new) :
    ((notices ++ new).count .onHandShakeSucceed =
          (if (driven || drives) = true then 1 else 0) ∧ Ordered (notices ++ new)) ↔
      (drives = true → driven = false → flag = false) := by
  obtain ⟨hcount, hordered⟩ := h
  rw [List.count_append, hcount]
  cases hcalls with
  | first hdrives hflag =>
    have hnot : driven = false := by
      rw [← Bool.not_eq_true]
      intro htrue
      rw [hdriven htrue] at hflag
      cases hflag
    have hlast : Ordered (notices ++ [.onHandShakeSucceed]) :=
      ordered_append hordered (.inl (by decide))
    simp [hnot, hdrives, hflag, hlast]
  | later hdrives hflag hnew =>
    rw [List.count_eq_zero.mpr hnew, hdrives, hflag]
    cases driven with
    | false => simp
    | true =>
      have hmem : .onHandShakeSucceed ∈ notices := by
        rw [← List.one_le_count_iff, hcount, if_pos rfl]
      have hlast : Ordered (notices ++ new) := ordered_append hordered (.inr hmem)
      simp [hlast]
  | other hdrives hnew =>
    have hlast := ordered_append hordered (.inl hnew.2)
    rw [List.count_eq_zero.mpr hnew.1, hdrives]
    simp [hlast]

theorem Inv.notified_iff (h : Inv pb c) (hnotified : Notified c)
    (hstep : Clients.step pb c (i, e) = some c') : Notified c' ↔ FirstOfProcess c (i, e) := by
  obtain ⟨hown, hpossible, rfl⟩ := step_some hstep
  obtain ⟨new, hnew, hcalls⟩ := ClientObject.calls_call (h.reachable i).ok hpossible hown
  have hother : ∀ j, j ≠ i →
      (c.after pb i e ((c.view i).call pb e).2).notices j = c.notices j ∧
        (c.after pb i e ((c.view i).call pb e).2).driven j = c.driven j := by
    intro j hj
    exact ⟨Function.update_of_ne hj _ _, Function.update_of_ne hj _ _⟩
  have hself : Notified (c.after pb i e ((c.view i).call pb e).2) ↔
      ((c.after pb i e ((c.view i).call pb e).2).notices i).count .onHandShakeSucceed =
          (if (c.after pb i e ((c.view i).call pb e).2).driven i = true then 1 else 0) ∧
        Ordered ((c.after pb i e ((c.view i).call pb e).2).notices i) := by
    constructor
    · intro hall
      exact hall i
    · intro hi j
      by_cases hj : j = i
      · rw [hj]
        exact hi
      · rw [(hother j hj).1, (hother j hj).2]
        exact hnotified j
  rw [hself]
  by_cases hbegins : (c.view i).begins pb e = true
  · have hdrives := ClientObject.not_drives_of_begins hbegins
    simp [after, hbegins, FirstOfProcess, hdrives, Ordered]
  · have happend := notified_append_iff (hnotified i) (h.driven i) hcalls
    have hdrop : ((c.view i).call pb e).2.client.calls.drop (c.view i).client.calls.length =
        new := by rw [hnew, List.drop_left]
    simp only [after, Function.update_self, hbegins, hdrop]
    exact happend

theorem notified_start : Notified start := by
  intro i
  exact ⟨rfl, List.not_mem_nil⟩

/-- In a run of any number of objects every connection gets `OnHandShakeSucceed` as it should exactly
when the first `Update` of each connection with the session done is the first of the process. -/
theorem notified_run_iff (pb : Protobuf) {es : List (Nat × ClientCall)}
    (hrun : Run.run (step pb) start es = some c) :
    Run.Always (step pb) Notified start es ↔ Run.Along (step pb) FirstOfProcess start es :=
  Run.always_iff_along_of_run (I := Inv pb) (fun _ _ _ h hstep => h.step hstep)
    (fun _ _ _ h hnotified hstep => h.notified_iff hnotified hstep) (inv_start pb) notified_start
    hrun

/-- The object connects and the session gets done, then it gets two `Update`s. -/
def connects (i : Nat) : List (Nat × ClientCall) :=
  (ClientObject.established ++ [ClientCall.update {}, ClientCall.update {}]).map (Prod.mk i)

theorem notified_once : ∃ c, Run.run (step Wire.protobuf) start (connects 0) = some c ∧
    Run.Always (step Wire.protobuf) Notified start (connects 0) := by
  have hfacts : (Run.run (step Wire.protobuf) start (connects 0)).isSome = true ∧
      Run.Along (step Wire.protobuf) FirstOfProcess start (connects 0) := by decide +kernel
  obtain ⟨c, hrun⟩ := Option.isSome_iff_exists.mp hfacts.1
  exact ⟨c, hrun, (notified_run_iff _ hrun).mpr hfacts.2⟩

/-- The second object of a process is never told that its handshake has succeeded. -/
theorem second_not_notified : ¬ ∀ (pb : Protobuf) (es : List (Nat × ClientCall)) (c : Clients),
    Run.run (step pb) start es = some c → Run.Always (step pb) Notified start es := by
  intro h
  have hfacts : (Run.run (step Wire.protobuf) start (connects 0 ++ connects 1)).map (fun c =>
      (c.notices 1, c.driven 1)) = some ([], true) := by decide +kernel
  obtain ⟨c, hrun, hc⟩ := Option.map_eq_some_iff.mp hfacts
  obtain ⟨hnone, hdriven⟩ := Prod.mk.inj hc
  have hnotified := (h _ _ c hrun _ [] c (List.append_nil _).symm hrun 1).1
  rw [hnone, hdriven] at hnotified
  simp at hnotified

end Clients

end Rapidapp.Connector
