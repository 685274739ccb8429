import Mathlib.Data.List.Chain
import Rapidapp.Connector.Addressing
import Rapidapp.Connector.ClientSequence

/-!
# The numbers a session accepts

`CheckUpSideMessage` (`server/connector/connector_session.cpp:138-155`) takes the messages of a
client in the order of their numbers: after the first, each number must be the one after
`last_seq_`. `last_seq_` is also 0 as long as nothing was accepted, and 0 is a number a client may
send. A session that has accepted the number 0 takes any number next.
-/

namespace Rapidapp.Connector

open World

/-! ## Consecutive numbers -/

/-- Each number is the one before it plus 1, and none comes twice before all of them were there. -/
structure Consecutive (numbers : List UInt64) : Prop where
  next : numbers.IsChain fun a b => b = a + 1
  once : numbers.length ≤ 2 ^ 64 → numbers.Nodup

/-- The number at a place is the first one and the place. -/
theorem getElem_of_isChain {numbers : List UInt64} (h : numbers.IsChain fun a b => b = a + 1)
    (i : Nat) (hi : i < numbers.length) :
    numbers[i] = numbers[0] + UInt64.ofNat i := by
  induction i with
  | zero => simp
  | succ i ih =>
    have hnext := List.isChain_iff_getElem.mp h i hi
    have hadd := UInt64.ofNat_add i 1
    rw [hnext, ih (Nat.lt_of_succ_lt hi), hadd, UInt64.add_assoc]
    rfl

theorem consecutive_iff {numbers : List UInt64} :
    Consecutive numbers ↔ numbers.IsChain fun a b => b = a + 1 := by
  refine ⟨Consecutive.next, fun h => ⟨h, fun hlen => ?_⟩⟩
  apply List.pairwise_iff_getElem.mpr
  intro i j hi hj hij heq
  have hwraps : UInt64.ofNat i = UInt64.ofNat j := by
    apply (UInt64.add_right_inj numbers[0]).mp
    rw [← getElem_of_isChain h i hi, ← getElem_of_isChain h j hj, heq]
  have hplace := congrArg UInt64.toNat hwraps
  rw [UInt64.toNat_ofNat', UInt64.toNat_ofNat', Nat.mod_eq_of_lt (by omega),
    Nat.mod_eq_of_lt (by omega)] at hplace
  omega

/-- One more number. -/
theorem consecutive_concat {numbers : List UInt64} {a : UInt64} :
    Consecutive (numbers ++ [a]) ↔ Consecutive numbers ∧ ∀ b ∈ numbers.getLast?, a = b + 1 := by
  rw [consecutive_iff, consecutive_iff, List.isChain_append]
  simp

/-! ## The connector and what its sessions accepted -/

/-- The connector, and for every connection the numbers its session accepted so far, the oldest
first. Nothing reads these. -/
structure CountedConnector where
  world : ConnectorWorld
  accepted : NetPtr → List UInt64

variable {c : ConnectorApp} {w w' : ConnectorWorld} {p : NetPtr} {s s' : ConnectorSession}
  {n n' : CountedConnector} {e : Event}

namespace ConnectorApp

/-- The number of the message that the session of `p` accepts in this event. -/
def acceptedNumber (c : ConnectorApp) (p : NetPtr) (w : ConnectorWorld) (e : Event) :
    Option UInt64 :=
  match w.getUserContext p, c.heard p w e with
  | some s, some (.client msg) =>
    if (s.checkUpSideMessage msg).1 = 0 then some msg.head.sequence.toUInt64 else none
  | _, _ => none

/-- One step of the connector. -/
def count (c : ConnectorApp) (n : CountedConnector) (e : Event) : Option CountedConnector :=
  (c.step n.world e).map fun w' =>
    ⟨w', fun p => n.accepted p ++ (c.acceptedNumber p n.world e).toList⟩

end ConnectorApp

namespace CountedConnector

/-- The start of the process. -/
def start (fate : Nat → Bool) (frontRecv backRecv : RapBuffer) (now : Int) : CountedConnector :=
  ⟨ConnectorWorld.start fate frontRecv backRecv now, fun _ => []⟩

/-- Every session accepted its messages one number after the other. -/
def InSequence (n : CountedConnector) : Prop := ∀ p, Consecutive (n.accepted p)

/-- If this event is a message that the session it is for rejects, it changes nothing. -/
def RejectsQuietly (c : ConnectorApp) (n : CountedConnector) (e : Event) : Prop :=
  ∀ p s msg, n.world.getUserContext p = some s → c.heard p n.world e = some (.client msg) →
    (s.checkUpSideMessage msg).1 ≠ 0 → c.count n e = some n

/-- If this event is a message for a session that accepted the number 0 last, it has another magic
or the number 1. -/
def OneAfterZero (c : ConnectorApp) (n : CountedConnector) (e : Event) : Prop :=
  ∀ p s msg, n.world.getUserContext p = some s → c.heard p n.world e = some (.client msg) →
    s.lastSeq = 0 → n.accepted p ≠ [] → msg.head.magic = magicCsV1 → msg.head.sequence = 1

/-- What holds of the connector and the numbers between two steps: `last_seq_` is the last number,
and a connection that is not there yet has none. -/
structure Ok (n : CountedConnector) : Prop where
  inv : Inv n.world
  last : ∀ {p s}, n.world.getUserContext p = some s →
    s.lastSeq = (n.accepted p).getLast?.getD 0
  fresh : ∀ {p}, n.world.heap.nextNet ≤ p → n.accepted p = []

theorem ok_start (fate : Nat → Bool) (frontRecv backRecv : RapBuffer) (now : Int) :
    (start fate frontRecv backRecv now).Ok where
  inv := Inv.start fate frontRecv backRecv now
  last hs := nomatch hs
  fresh _ := rfl

theorem count_some (h : c.count n e = some n') :
    c.step n.world e = some n'.world ∧
      ∀ p, n'.accepted p = n.accepted p ++ (c.acceptedNumber p n.world e).toList := by
  obtain ⟨w', hw', rfl⟩ := Option.map_eq_some_iff.mp h
  exact ⟨hw', fun p => rfl⟩

/-! ## What a session accepts in one step -/

theorem acceptedNumber_of_heard {msg : CSMsg} (hs : w.getUserContext p = some s)
    (hheard : c.heard p w e = some (.client msg)) :
    c.acceptedNumber p w e =
      if (s.checkUpSideMessage msg).1 = 0 then some msg.head.sequence.toUInt64 else none := by
  rw [ConnectorApp.acceptedNumber, hs, hheard]

theorem acceptedNumber_of_unheard (h : ∀ msg, c.heard p w e ≠ some (.client msg)) :
    c.acceptedNumber p w e = none := by
  unfold ConnectorApp.acceptedNumber
  split
  · next hheard => exact absurd hheard (h _)
  · rfl

/-- A number is accepted only by a session, from a message with that number. -/
theorem acceptedNumber_eq_some {a : UInt64} (h : c.acceptedNumber p w e = some a) :
    ∃ s msg, w.getUserContext p = some s ∧ c.heard p w e = some (.client msg) ∧
      (s.checkUpSideMessage msg).1 = 0 ∧ msg.head.sequence.toUInt64 = a := by
  unfold ConnectorApp.acceptedNumber at h
  split at h
  · next s msg hs hheard =>
    split_ifs at h with hcheck
    exact ⟨s, msg, hs, hheard, hcheck, Option.some.inj h⟩
  · cases h

theorem accepted_of_unheard (h : c.count n e = some n')
    (hnone : ∀ msg, c.heard p n.world e ≠ some (.client msg)) : n'.accepted p = n.accepted p := by
  rw [(count_some h).2 p, acceptedNumber_of_unheard hnone]
  exact List.append_nil _

/-- Every step keeps `Ok`. -/
theorem Ok.step (hok : n.Ok) (h : c.count n e = some n') : n'.Ok := by
  obtain ⟨hstep, haccepted⟩ := count_some h
  obtain ⟨hinv, hsession⟩ := step_session hok.inv hstep
  refine ⟨hinv, ?_, ?_⟩
  · intro p s' hs'
    cases hsession hs' with
    | kept hs hrejected =>
      have hnone : c.acceptedNumber p n.world e = none := by
        cases hnumber : c.acceptedNumber p n.world e with
        | none => rfl
        | some a =>
          obtain ⟨s, msg, hs₀, hheard, hcheck, _⟩ := acceptedNumber_eq_some hnumber
          cases hs.symm.trans hs₀
          exact absurd hcheck (hrejected msg hheard)
      rw [haccepted p, hnone]
      simpa using hok.last hs
    | made hp hnew hheard =>
      rw [accepted_of_unheard h (by simp [hheard]), hok.fresh hp.ge, hnew]
      rfl
    | closed hs hclean hheard =>
      rw [accepted_of_unheard h (by simp [hheard]), hclean, ← hok.last hs]
      rfl
    | accepted hs hheard hcheck hafter =>
      rw [haccepted p, acceptedNumber_of_heard hs hheard, if_pos hcheck, hafter]
      simp [ConnectorSession.accept]
    | driven hs hheard _ _ hafter =>
      rw [accepted_of_unheard h (by simp [hheard]), hafter, ← hok.last hs]
  · intro p hp
    have hold : n.world.heap.nextNet ≤ p := (nextNet_le_step hok.inv hstep).trans hp
    have hnone : c.acceptedNumber p n.world e = none := by
      cases hnumber : c.acceptedNumber p n.world e with
      | none => rfl
      | some a =>
        -- there is no session where there is no connection yet
        obtain ⟨s, _, hs, _⟩ := acceptedNumber_eq_some hnumber
        obtain ⟨_, hn, _⟩ := exists_of_getUserContext hs
        exact absurd (hok.inv.ok.heap.netLt hn) (not_lt.mpr hold)
    rw [haccepted p, hnone, hok.fresh hold]
    rfl

/-! ## Runs -/

theorem toUInt64_eq_one {sequence : Int64} (h : sequence.toUInt64 = 1) : sequence = 1 := by
  rw [← Int64.toInt64_toUInt64 sequence, h]
  rfl

/-- A message of a client comes in no other event. -/
theorem heard_client {msg : CSMsg} (h : c.heard p w e = some (.client msg)) :
    ∃ bytes size, e = .frontEndMsg p bytes size ∧ msg = c.pb.parseCSMsg bytes size := by
  cases e with
  | frontEndMsg net bytes size =>
    rw [ConnectorApp.heard] at h
    split_ifs at h with hnet
    obtain ⟨rfl, _⟩ := hnet
    cases h
    exact ⟨bytes, size, rfl, rfl⟩
  | backEndMsg bytes size => exact absurd h (heard_backEndMsg_ne p w bytes size msg)
  | _ => cases h

/-- A message that is rejected changes nothing. -/
theorem rejectsQuietly (c : ConnectorApp) (n : CountedConnector) (e : Event) :
    RejectsQuietly c n e := by
  intro p s msg hs hheard hcheck
  obtain ⟨bytes, size, rfl, rfl⟩ := heard_client hheard
  have hstep : c.step n.world (.frontEndMsg p bytes size) = some n.world := by
    rw [ConnectorApp.step, onRecvFrontEnd_rejected c hs hcheck]
  have hnone : ∀ q, c.acceptedNumber q n.world (.frontEndMsg p bytes size) = none := by
    intro q
    cases hnumber : c.acceptedNumber q n.world (.frontEndMsg p bytes size) with
    | none => rfl
    | some a =>
      obtain ⟨s', msg, hs', hheard', hcheck', _⟩ := acceptedNumber_eq_some hnumber
      obtain ⟨_, _, he, rfl⟩ := heard_client hheard'
      cases he
      cases hs.symm.trans hs'
      exact absurd hcheck' hcheck
  rw [ConnectorApp.count, hstep, Option.map_some]
  simp [hnone]

/-- The next number continues the sequence unless it comes after a 0 and is not 1. -/
theorem inSequence_step (hok : n.Ok) (hgood : n.InSequence) (h : c.count n e = some n') :
    n'.InSequence ↔ OneAfterZero c n e := by
  obtain ⟨_, haccepted⟩ := count_some h
  constructor
  · intro hnext p s msg hs hheard hzero hne hmagic
    have hcheck : (s.checkUpSideMessage msg).1 = 0 := by
      rw [ConnectorSession.checkUpSideMessage_next hmagic (.inl hzero)]
    have hseq := hnext p
    rw [haccepted p, acceptedNumber_of_heard hs hheard, if_pos hcheck] at hseq
    obtain ⟨b, hb⟩ := List.getLast?_isSome.mpr hne |> Option.isSome_iff_exists.mp
    have hlast := hok.last hs
    rw [hb, hzero, Option.getD_some] at hlast
    apply toUInt64_eq_one
    rw [(consecutive_concat.mp hseq).2 b hb, ← hlast]
    rfl
  · intro hone p
    rw [haccepted p]
    cases hnumber : c.acceptedNumber p n.world e with
    | none => simpa using hgood p
    | some a =>
      obtain ⟨s, msg, hs, hheard, hcheck, rfl⟩ := acceptedNumber_eq_some hnumber
      refine consecutive_concat.mpr ⟨hgood p, fun b hb => ?_⟩
      have hlast := hok.last hs
      rw [Option.mem_def.mp hb, Option.getD_some] at hlast
      obtain ⟨_, hzero | hnext⟩ := ConnectorSession.checkUpSideMessage_ok hcheck
      · have hne : n.accepted p ≠ [] := by
          rintro hnil
          rw [hnil] at hb
          cases hb
        have hmagic : msg.head.magic = magicCsV1 := by
          by_contra hwrong
          rw [ConnectorSession.checkUpSideMessage, if_pos hwrong] at hcheck
          cases hcheck
        rw [hone p s msg hs hheard hzero hne hmagic, ← hlast, hzero]
        rfl
      · rw [hnext, hlast]

/-- In every run, the sessions accept the messages of their clients one number after the other, and
messages that are rejected change nothing, exactly when no session that accepted the number 0 is
sent another number than 1 next. -/
theorem inSequence_run_iff (c : ConnectorApp) (fate : Nat → Bool) (frontRecv backRecv : RapBuffer)
    (now : Int) (es : List Event) :
    (Run.Always c.count InSequence (start fate frontRecv backRecv now) es ∧
        Run.Along c.count (RejectsQuietly c) (start fate frontRecv backRecv now) es) ↔
      Run.Along c.count (OneAfterZero c) (start fate frontRecv backRecv now) es := by
  have hquiet : Run.Along c.count (RejectsQuietly c) (start fate frontRecv backRecv now) es :=
    Run.along_of_forall (fun e _ n => rejectsQuietly c n e) _
  rw [and_iff_left hquiet]
  refine Run.always_iff_along (I := Ok) (fun n e n' hok h => hok.step h)
    (fun n e n' hok hgood h => inSequence_step hok hgood h) ?_ (ok_start _ _ _ _) ?_ es
  · -- only a message of a client can break the sequence, and it can come at any time
    intro n e _ _ hbroken
    by_contra hdisabled
    apply hbroken
    intro p s msg _ hheard
    obtain ⟨_, _, rfl, _⟩ := heard_client hheard
    exact absurd rfl hdisabled
  · exact fun p => consecutive_iff.mpr .nil

end CountedConnector

/-! ## A client that starts with 0 -/

/-- The client of the first connection sends a `SYN` with this number. -/
def numberedSyn (sequence : Int64) : Event :=
  let msg : CSMsg :=
    { synMsg with head := { sequence := sequence, bodyid := CSBodyCmdId.syn.value } }
  .frontEndMsg 1 (Wire.encodeCSMsg msg) (Wire.encodeCSMsg msg).length

/-- The client sends its first message twice, and then one with another number. -/
def repeated : List Event := connected ++ [numberedSyn 0, numberedSyn 0, numberedSyn 7]

/-- The session accepts all three. -/
theorem CountedConnector.zero_accepted_twice :
    ¬ Run.Always ConnectorApp.greeting.count CountedConnector.InSequence
      (CountedConnector.start (fun _ => true) .small .small 0) repeated := by
  intro h
  have haccepted : (Run.run ConnectorApp.greeting.count
      (CountedConnector.start (fun _ => true) .small .small 0) repeated).map
        (fun n => n.accepted 1) = some [0, 0, 7] := by decide +kernel
  obtain ⟨n, hn, hnumbers⟩ := Option.map_eq_some_iff.mp haccepted
  have hseq : Consecutive (n.accepted 1) := h repeated [] n (List.append_nil _).symm hn 1
  rw [hnumbers] at hseq
  exact absurd (hseq.once (by decide)) (by decide)

end Rapidapp.Connector
