import Rapidapp.Misc.Run
import Rapidapp.Framework.ApiOk
import Rapidapp.Framework.FrameCuts

/-!
# EasyNet::Send and the output of the connection

`EasyNet::Send` (`framework/rapidapp_easy_net.cpp:136-177`) writes the header and the payload by
two calls of `bufferevent_write`. Where the second one fails the header stays in the output, and
the peer takes what follows it for the payload. Apart from that a call sends the whole frame or
nothing (`send_allOrNothing_iff`), and the output is the frames of the calls that succeeded
(`sends_output`).
-/

namespace Rapidapp

variable {γ : Type}

namespace Heap

/-- The output of a `bufferevent`. -/
def output (h : Heap γ) (b : BevPtr) : List UInt8 :=
  match h.bevs b with
  | none => []
  | some e => e.output

/-- What `Send` has to append for a message; a null or empty one has no frame. -/
def frameOf (msg : List UInt8) : List UInt8 := if msg = [] then [] else encodeMsg msg

theorem frameOf_ne_nil {msg : List UInt8} (h : msg ≠ []) : frameOf msg ≠ [] := by
  rw [frameOf, if_neg h]
  intro hnil
  have hlen := length_encodeMsg msg
  rw [hnil] at hlen
  cases hlen

/-- The `EasyNet` at `p` and the `bufferevent` it owns. -/
structure Owns (h : Heap γ) (p : NetPtr) (n : EasyNet γ) (b : BevPtr) : Prop where
  net : h.nets p = some n
  hevent : n.hevent = some b
  bev : (h.bevs b).isSome

/-- The call succeeds exactly when the frame was appended, and otherwise it appends nothing. -/
structure AllOrNothing (h : Heap γ) (b : BevPtr) (msg : List UInt8) (r : SendError × Heap γ) :
    Prop where
  sent : r.1 = .easyNetOk ↔ r.2.output b = h.output b ++ frameOf msg
  kept : r.1 ≠ .easyNetOk → r.2.output b = h.output b

/-- The connection is established, and of the two writes to come the second one fails. -/
def Torn (h : Heap γ) (n : EasyNet γ) (msg : List UInt8) : Prop :=
  msg ≠ [] ∧ n.state = .netEstablished ∧ h.fate h.writes = true ∧ h.fate (h.writes + 1) = false

/-! ## One call -/

/-- The two writes: nothing is appended, the header, or the header and the payload. -/
theorem writeFrame_output {h : Heap γ} {b : BevPtr} (hb : (h.bevs b).isSome) (msg : List UInt8) :
    let r := h.writeFrame b msg
    (r.1 = .easyNetOk ↔ h.fate h.writes = true ∧ h.fate (h.writes + 1) = true) ∧
      r.2.output b = h.output b ++
        if h.fate h.writes then
          if h.fate (h.writes + 1) then encodeMsg msg else lengthHeader msg.length
        else [] := by
  have hout : ∀ {h' : Heap γ} {out : BevPtr → List UInt8}, Wrote h h' out →
      h'.output b = h.output b ++ out b := by
    intro h' out hw
    obtain ⟨e, he⟩ := Option.isSome_iff_exists.mp hb
    simp only [output, he, hw.bev he]
  obtain ⟨hnot, h₁, heq, hw⟩ | ⟨e, -, hfirst, ⟨hsecond, h₁, heq, hw⟩ | ⟨hsecond, h₁, heq, hw⟩⟩ :=
    h.writeFrame_cases b msg
  · have hfirst : h.fate h.writes = false := by simpa [hb] using hnot
    simp [heq, hfirst, hout hw]
  · simp [heq, hfirst, hsecond, hout hw]
  · simp [heq, hfirst, hsecond, hout hw, encodeMsg]

theorem send_established {h : Heap γ} {p : NetPtr} {n : EasyNet γ} {b : BevPtr}
    (hn : Owns h p n b) {msg : List UInt8} (hmsg : msg ≠ []) (hst : n.state = .netEstablished) :
    h.send p msg = h.writeFrame b msg :=
  send_eq_writeFrame hmsg hn.net hn.hevent hst

theorem send_notEstablished {h : Heap γ} {p : NetPtr} {n : EasyNet γ} {b : BevPtr}
    (hn : Owns h p n b) {msg : List UInt8} (hmsg : msg ≠ []) (hst : n.state ≠ .netEstablished) :
    ∃ r, r ≠ .easyNetOk ∧ h.send p msg = (r, h) := by
  rcases h.send_cases p msg with ⟨hnil, -⟩ | hrefused | ⟨n', _, -, hn', -, hst', -⟩
  · exact absurd hnil hmsg
  · exact hrefused
  · obtain rfl := Option.some.inj (hn.net.symm.trans hn')
    exact absurd hst' hst

/-- `Send` is all or nothing exactly when it is not the write of the payload alone that fails. -/
theorem send_allOrNothing_iff {h : Heap γ} {p : NetPtr} {n : EasyNet γ} {b : BevPtr}
    (hn : Owns h p n b) (msg : List UInt8) :
    AllOrNothing h b msg (h.send p msg) ↔ ¬ Torn h n msg := by
  by_cases hmsg : msg = []
  · subst hmsg
    have hsend : h.send p [] = (.easyNetOk, h) := by simp [send]
    rw [hsend]
    refine iff_of_true ⟨?_, fun hne => absurd rfl hne⟩ fun htorn => htorn.1 rfl
    simp [frameOf]
  have hframe := frameOf_ne_nil hmsg
  by_cases hst : n.state = .netEstablished
  · rw [send_established hn hmsg hst]
    obtain ⟨hok, hout⟩ := writeFrame_output hn.bev msg
    cases hheader : h.fate h.writes with
    | false =>
      simp only [hheader, Bool.false_eq_true, false_and, iff_false, if_false,
        List.append_nil] at hok hout
      refine iff_of_true ⟨?_, fun _ => hout⟩ fun htorn => by
        rw [htorn.2.2.1] at hheader
        cases hheader
      rw [hout]
      exact iff_of_false hok fun heq => hframe (List.self_eq_append_right.mp heq)
    | true =>
      cases hpayload : h.fate (h.writes + 1) with
      | false =>
        simp only [hheader, hpayload, Bool.false_eq_true, and_false, iff_false, if_true,
          if_false] at hok hout
        refine iff_of_false (fun hall => ?_) (not_not.mpr ⟨hmsg, hst, hheader, hpayload⟩)
        have hkept := hall.kept hok
        rw [hout] at hkept
        have hlen := congrArg List.length (List.append_right_eq_self.mp hkept)
        simp [lengthHeader] at hlen
      | true =>
        simp only [hheader, hpayload, and_self, iff_true, if_true] at hok hout
        refine iff_of_true ⟨iff_of_true hok ?_, fun hne => absurd hok hne⟩ fun htorn => by
          rw [htorn.2.2.2] at hpayload
          cases hpayload
        rw [hout, frameOf, if_neg hmsg]
  · obtain ⟨r, hr, hsend⟩ := send_notEstablished hn hmsg hst
    rw [hsend]
    refine iff_of_true ⟨iff_of_false hr fun heq => ?_, fun _ => rfl⟩ fun htorn => hst htorn.2.1
    exact hframe (List.self_eq_append_right.mp heq)

/-- A connection that is established; the first write succeeds and the second one does not. -/
def tearing : Heap Unit :=
  (((Heap.empty fun k => k == 0).newEasyNet).2).attach 0 7 0 .netEstablished

theorem send_torn :
    ¬ AllOrNothing tearing 0 [1, 2, 3] (tearing.send 0 [1, 2, 3]) ∧
      (tearing.send 0 [1, 2, 3]).1 = .easyNetErrSendError ∧
      (tearing.send 0 [1, 2, 3]).2.output 0 = [0, 0, 0, 7] := by
  have hret : (tearing.send 0 [1, 2, 3]).1 = .easyNetErrSendError := by decide
  have hout : (tearing.send 0 [1, 2, 3]).2.output 0 = [0, 0, 0, 7] := by decide
  refine ⟨fun hall => ?_, hret, hout⟩
  have hkept := hall.kept (by rw [hret]; decide)
  rw [hout] at hkept
  cases hkept

/-- The same connection when the first write fails as well. -/
theorem send_refused :
    AllOrNothing ({ tearing with fate := fun _ => false }) 0 [1, 2, 3]
      (({ tearing with fate := fun _ => false } : Heap Unit).send 0 [1, 2, 3]) :=
  (send_allOrNothing_iff (p := 0) ⟨rfl, rfl, rfl⟩ _).mpr fun htorn => by cases htorn.2.2.1

/-! ## Any number of calls -/

/-- One more message is sent on the connection. -/
def sendStep (p : NetPtr) (h : Heap γ) (msg : List UInt8) : Option (Heap γ) :=
  some (h.send p msg).2

/-- The frame of a message whose call succeeds. -/
def acceptedFrame (p : NetPtr) (h : Heap γ) (msg : List UInt8) : List UInt8 :=
  if (h.send p msg).1 = .easyNetOk then frameOf msg else []

section Calls

variable {h h' : Heap γ} {p : NetPtr} {n : EasyNet γ} {b : BevPtr}

theorem Owns.wrote (hn : Owns h p n b) {out : BevPtr → List UInt8} (hw : Wrote h h' out) :
    Owns h' p n b where
  net := by rw [hw.nets, hn.net]
  hevent := hn.hevent
  bev := by
    rw [hw.bevs, Option.isSome_map]
    exact hn.bev

theorem Owns.send (hn : Owns h p n b) (msg : List UInt8) : Owns (h.send p msg).2 p n b := by
  obtain ⟨out, hw, -⟩ := h.wrote_send p msg
  exact hn.wrote hw

theorem AllOrNothing.output {msg : List UInt8} (hall : AllOrNothing h b msg (h.send p msg)) :
    (h.send p msg).2.output b = h.output b ++ acceptedFrame p h msg := by
  unfold acceptedFrame
  split_ifs with hok
  · exact hall.sent.mp hok
  · rw [hall.kept hok, List.append_nil]

/-- Every call of a run is all or nothing exactly when none is torn. -/
theorem sends_allOrNothing_iff (hn : Owns h p n b) (msgs : List (List UInt8)) :
    Run.Along (sendStep p) (fun h msg => AllOrNothing h b msg (h.send p msg)) h msgs ↔
      Run.Along (sendStep p) (fun h msg => ¬ Torn h n msg) h msgs := by
  apply Run.along_iff_of_inv (I := fun h => Owns h p n b) _ _ hn msgs
  · intro s msg s' hs hstep
    exact Option.some.inj hstep ▸ hs.send msg
  · intro s msg hs
    exact send_allOrNothing_iff hs msg

/-- The output is then what it was and the frames of the calls that succeeded, in order. -/
theorem sends_output (hn : Owns h p n b) {msgs : List (List UInt8)}
    (htorn : Run.Along (sendStep p) (fun h msg => ¬ Torn h n msg) h msgs)
    (hrun : Run.run (sendStep p) h msgs = some h') :
    h'.output b = h.output b ++ Run.trace (sendStep p) (acceptedFrame p) h msgs := by
  have hend : Owns h' p n b ∧ h'.output b = h.output b ++
      ([] ++ Run.trace (sendStep p) (acceptedFrame p) h msgs) := by
    refine Run.run_inv_observed
      (I := fun s frames => Owns s p n b ∧ s.output b = h.output b ++ frames)
      (P := fun s msg => AllOrNothing s b msg (s.send p msg)) ?_ ⟨hn, by simp⟩
      ((sends_allOrNothing_iff hn msgs).mpr htorn) hrun
    rintro s frames msg s' ⟨hs, hout⟩ hall hstep
    obtain rfl := Option.some.inj hstep
    refine ⟨hs.send msg, ?_⟩
    rw [hall.output, hout, List.append_assoc]
  simpa using hend.2

/-- A stream of whole frames stays one, so the peer splits it where the sender meant it. -/
theorem sends_frames (hn : Owns h p n b) {msgs : List (List UInt8)}
    (htorn : Run.Along (sendStep p) (fun h msg => ¬ Torn h n msg) h msgs)
    (hsize : ∀ msg ∈ msgs, msg.length + 4 < 2 ^ 31)
    (hrun : Run.run (sendStep p) h msgs = some h')
    (hstream : ∃ ws : List (List UInt8), h.output b = ws.flatten ∧ ∀ w ∈ ws, msgDecoder.IsFrame w) :
    ∃ ws : List (List UInt8), h'.output b = ws.flatten ∧ ∀ w ∈ ws, msgDecoder.IsFrame w := by
  induction msgs generalizing h with
  | nil =>
    cases hrun
    exact hstream
  | cons msg msgs ih =>
    obtain ⟨s, hstep, hrest⟩ := Run.run_cons_some.mp hrun
    refine ih ?_ (htorn.2 s hstep) (fun m hm => hsize m (List.mem_cons_of_mem msg hm)) hrest ?_
    · exact Option.some.inj hstep ▸ hn.send msg
    · obtain rfl := Option.some.inj hstep
      obtain ⟨ws, hws, hframes⟩ := hstream
      have hout := AllOrNothing.output ((send_allOrNothing_iff hn msg).mpr htorn.1)
      by_cases hframe : acceptedFrame p h msg = []
      · exact ⟨ws, by rw [hout, hframe, List.append_nil, hws], hframes⟩
      · have hmsg : msg ≠ [] := by
          rintro rfl
          exact hframe (by simp [acceptedFrame, frameOf])
        have heq : acceptedFrame p h msg = encodeMsg msg := by
          unfold acceptedFrame at hframe ⊢
          split_ifs at hframe ⊢ with hok
          · rw [frameOf, if_neg hmsg]
          · exact absurd rfl hframe
        refine ⟨ws ++ [encodeMsg msg], by simp [hout, heq, hws], fun w hw => ?_⟩
        rcases List.mem_append.mp hw with hw | hw
        · exact hframes w hw
        · rw [List.mem_singleton.mp hw]
          exact isFrame_encodeMsg ⟨hmsg, hsize msg List.mem_cons_self⟩

end Calls

end Heap

end Rapidapp
