import Rapidapp.Connector.GeneratedLaws
import Rapidapp.Connector.MessageObjects

/-!
# The generated code, on objects

A message that was put into a new object is read back from it. So the wire format gives a
`GeneratedCode` that is, for new objects, the `Protobuf` it gives.
-/

namespace Rapidapp.Connector

open MessageObject

/-! ## A message in parts -/

section Groups

variable {ν α : Type}

/-- Neither path leads to the other. -/
def Apart (p q : Path) : Prop := ¬ p <+: q ∧ ¬ q <+: p

instance (p q : Path) : Decidable (Apart p q) := inferInstanceAs (Decidable (_ ∧ _))

/-- Calls that each fill a part of their own. -/
structure Parts (gs : List (Path × List (Op ν))) : Prop where
  apart : gs.Pairwise fun g g' => Apart g.1 g'.1
  under : ∀ g ∈ gs, ∀ op ∈ g.2, g.1 <+: op.path

theorem not_touches_of_under {b p q : Path} {ops : List (Op ν)} (hapart : Apart b p)
    (hunder : ∀ op ∈ ops, p <+: op.path) (hq : b <+: q) : ¬ Touches ops q := by
  refine not_touches_of_apart hq fun op hop => ⟨fun hb => ?_, fun hb => ?_⟩
  · exact (List.prefix_or_prefix_of_prefix hb (hunder op hop)).elim hapart.1 hapart.2
  · exact hapart.2 ((hunder op hop).trans hb)

/-- In a part stands what the calls for it have written. -/
theorem Parts.run_part {gs : List (Path × List (Op ν))} (h : Parts gs) {g : Path × List (Op ν)}
    (hg : g ∈ gs) {q : Path} (hq : g.1 <+: q) {o : Object ν} (ho : o q = none) :
    run (gs.flatMap Prod.snd) o q = run g.2 empty q := by
  induction gs generalizing o with
  | nil => cases hg
  | cons g' gs ih =>
    obtain ⟨hhead, htail⟩ := List.pairwise_cons.mp h.apart
    have hrest : Parts gs := ⟨htail, fun g hg => h.under g (List.mem_cons_of_mem _ hg)⟩
    rw [List.flatMap_cons, run_append]
    obtain rfl | hmem := List.mem_cons.mp hg
    · -- nothing behind it writes there
      have hnot : ¬ Touches (gs.flatMap Prod.snd) q := by
        rintro ⟨op, hop, hwrites⟩
        obtain ⟨g', hg', hop⟩ := List.mem_flatMap.mp hop
        exact not_touches_of_under (hhead g' hg') (hrest.under g' hg') hq ⟨op, hop, hwrites⟩
      rw [run_of_not_touches hnot]
      by_cases htouches : Touches g.2 q
      · exact run_of_touches htouches _ _
      · rw [run_of_not_touches htouches, run_of_not_touches htouches, ho]
        rfl
    · refine ih hrest hmem ?_
      have hswap : Apart g.1 g'.1 := ⟨(hhead g hmem).2, (hhead g hmem).1⟩
      rw [run_of_not_touches (not_touches_of_under hswap (h.under g' List.mem_cons_self) hq), ho]

theorem forall_mem_elim {x : Option α} {f : α → List (Op ν)} {P : Op ν → Prop} :
    (∀ op ∈ x.elim [] f, P op) ↔ ∀ a, x = some a → ∀ op ∈ f a, P op := by
  cases x with
  | none => simp
  | some a => simp

end Groups

/-! ## What is read of a part -/

section Reading

variable {o : MsgObject} {p q : Path}

/-- A part that may not be there, and what the accessors make of it. -/
theorem whenSet_part {α : Type} {x : Option α} {f : α → List (Op Scalar)} {value : α}
    (h : ∀ r, p <+: r → o r = run (x.elim [] f) empty r)
    (hset : ∀ a, (run (f a) empty p).isSome = true) (hread : ∀ a, x = some a → value = a) :
    o.whenSet p value = x := by
  rw [MsgObject.whenSet, h p List.prefix_rfl]
  cases hx : x with
  | none => rfl
  | some a => simp only [Option.elim_some, hset, hread a hx, if_true]

theorem whenSet_bytes {x : Option (List UInt8)} {f : List UInt8 → List (Op Scalar)}
    (h : ∀ r, p <+: r → o r = run (x.elim [] f) empty r) (hpq : p <+: q)
    (hset : ∀ a, (run (f a) empty p).isSome = true)
    (hread : ∀ a, run (f a) empty q = some (.scalar (.bytes a))) :
    o.whenSet p (o.bytes q) = x := by
  refine whenSet_part h hset fun a ha => ?_
  rw [MsgObject.bytes, h q hpq, ha, Option.elim_some, hread]

theorem whenSet_int {α : Type} {x : Option α} {f : α → List (Op Scalar)}
    {toInt : α → Int} {ofInt : Int → α} (hof : ∀ a, ofInt (toInt a) = a)
    (h : ∀ r, p <+: r → o r = run (x.elim [] f) empty r) (hpq : p <+: q)
    (hset : ∀ a, (run (f a) empty p).isSome = true)
    (hread : ∀ a, run (f a) empty q = some (.scalar (.int (toInt a)))) :
    o.whenSet p (ofInt (o.int q 0)) = x := by
  refine whenSet_part h hset fun a ha => ?_
  rw [MsgObject.int, h q hpq, ha, Option.elim_some, hread]
  exact hof a

end Reading

/-- The parts of a message to or from a server. -/
def SSMsg.parts (m : SSMsg) : List (Path × List (Op Scalar)) :=
  [([1], ssHeadOps m.head),
    ([2, 1], m.body.data.elim [] fun data => [.set [2, 1, 1] (.bytes data)]),
    ([2, 2], m.body.syn.elim [] fun result => [.set [2, 2, 1] (.int result.toInt)]),
    ([2, 3], m.body.ack.elim [] fun result => [.set [2, 3, 1] (.int result.toInt)]),
    ([2, 4], m.body.rsm.elim [] fun result => [.set [2, 4, 1] (.int result.toInt)]),
    ([2, 5], m.body.fin.elim [] fun result => [.set [2, 5, 1] (.int result.toInt)])]

theorem SSMsg.object_eq (m : SSMsg) : m.object = run (m.parts.flatMap Prod.snd) empty := by
  simp [SSMsg.object, SSMsg.parts, ssBodyOps]

theorem SSMsg.parts_ok (m : SSMsg) : Parts m.parts where
  apart := by simp [SSMsg.parts, Apart]
  under := by simp [SSMsg.parts, forall_mem_elim, ssHeadOps, Op.path]

theorem SSMsg.object_at (m : SSMsg) {g : Path × List (Op Scalar)} (hg : g ∈ m.parts) {q : Path}
    (hq : g.1 <+: q) : m.object q = run g.2 empty q := by
  rw [m.object_eq]
  exact m.parts_ok.run_part hg hq rfl

/-- A field of the head. -/
theorem int_of_part {o : MsgObject} {b q : Path} {ops : List (Op Scalar)} {n : Int}
    (h : ∀ q, b <+: q → o q = run ops empty q) (hq : b <+: q)
    (hread : run ops empty q = some (.scalar (.int n))) (default : Int) : o.int q default = n := by
  rw [MsgObject.int, h q hq, hread]

theorem SSMsg.read_object (m : SSMsg) : SSMsg.read m.object = m := by
  have hpart : ∀ g ∈ m.parts, ∀ q, g.1 <+: q → m.object q = run g.2 empty q :=
    fun g hg q hq => m.object_at hg hq
  simp only [SSMsg.parts, List.forall_mem_cons] at hpart
  obtain ⟨hhead, hdata, hsyn, hack, hrsm, hfin, _⟩ := hpart
  rw [SSMsg.read, int_of_part hhead (by decide) rfl, int_of_part hhead (by decide) rfl,
    int_of_part hhead (by decide) rfl, int_of_part hhead (by decide) rfl,
    int_of_part hhead (by decide) rfl, int_of_part hhead (by decide) rfl,
    whenSet_bytes hdata (by decide) (fun _ => rfl) fun _ => rfl,
    whenSet_int Int32.ofInt_toInt hsyn (by decide) (fun _ => rfl) fun _ => rfl,
    whenSet_int Int32.ofInt_toInt hack (by decide) (fun _ => rfl) fun _ => rfl,
    whenSet_int Int32.ofInt_toInt hrsm (by decide) (fun _ => rfl) fun _ => rfl,
    whenSet_int Int32.ofInt_toInt hfin (by decide) (fun _ => rfl) fun _ => rfl]
  simp

/-- The parts of a message to or from a client. -/
def CSMsg.parts (m : CSMsg) : List (Path × List (Op Scalar)) :=
  [([1], csHeadOps m.head),
    ([2, 1], m.body.syn.elim [] fun syn =>
      [.set [2, 1, 2] (.bytes syn.openid), .set [2, 1, 1] (.bytes syn.appid)]),
    ([2, 2], m.body.ack.elim [] fun secretkey => [.set [2, 2, 1] (.bytes secretkey)]),
    ([2, 3], m.body.auth.elim [] fun token => [.set [2, 3, 1] (.bytes token)]),
    ([2, 4], m.body.passport.elim [] fun passport => [.set [2, 4, 1] (.int passport.toInt)]),
    ([2, 5], m.body.start.elim [] fun code => [.set [2, 5, 1] (.int code.toInt)]),
    ([2, 16], m.body.data.elim [] fun data => [.set [2, 16] (.bytes data)]),
    ([2, 100], m.body.error.elim [] fun error =>
      [.set [2, 100, 1] (.int error.code.toInt), .set [2, 100, 2] (.bytes error.desc)])]

theorem CSMsg.object_eq (m : CSMsg) : m.object = run (m.parts.flatMap Prod.snd) empty := by
  simp [CSMsg.object, CSMsg.parts, csBodyOps]

theorem CSMsg.parts_ok (m : CSMsg) : Parts m.parts where
  apart := by simp [CSMsg.parts, Apart]
  under := by simp [CSMsg.parts, forall_mem_elim, csHeadOps, Op.path]

theorem CSMsg.object_at (m : CSMsg) {g : Path × List (Op Scalar)} (hg : g ∈ m.parts) {q : Path}
    (hq : g.1 <+: q) : m.object q = run g.2 empty q := by
  rw [m.object_eq]
  exact m.parts_ok.run_part hg hq rfl

theorem CSMsg.read_object (m : CSMsg) : CSMsg.read m.object = m := by
  have hpart : ∀ g ∈ m.parts, ∀ q, g.1 <+: q → m.object q = run g.2 empty q :=
    fun g hg q hq => m.object_at hg hq
  simp only [CSMsg.parts, List.forall_mem_cons] at hpart
  obtain ⟨hhead, hsyn, hack, hauth, hpassport, hstart, hdata, herror, _⟩ := hpart
  have hsynRead : ∀ a, m.body.syn = some a →
      (⟨m.object.bytes [2, 1, 1], m.object.bytes [2, 1, 2]⟩ : CSSyn) = a := by
    intro a ha
    rw [MsgObject.bytes, MsgObject.bytes, hsyn _ (by decide), hsyn _ (by decide), ha]
    rfl
  have herrorRead : ∀ a, m.body.error = some a →
      (⟨Int32.ofInt (m.object.int [2, 100, 1] 0), m.object.bytes [2, 100, 2]⟩ : CSError) = a := by
    intro a ha
    rw [MsgObject.int, MsgObject.bytes, herror _ (by decide), herror _ (by decide), ha]
    exact congrArg (fun code => CSError.mk code a.desc) (Int32.ofInt_toInt a.code)
  rw [CSMsg.read, int_of_part hhead (by decide) rfl, int_of_part hhead (by decide) rfl,
    int_of_part hhead (by decide) rfl, whenSet_part hsyn (fun _ => rfl) hsynRead,
    whenSet_bytes hack (by decide) (fun _ => rfl) fun _ => rfl,
    whenSet_bytes hauth (by decide) (fun _ => rfl) fun _ => rfl,
    whenSet_int Int64.ofInt_toInt hpassport (by decide) (fun _ => rfl) fun _ => rfl,
    whenSet_int Int32.ofInt_toInt hstart (by decide) (fun _ => rfl) fun _ => rfl,
    whenSet_bytes hdata (by decide) (fun _ => rfl) fun _ => rfl,
    whenSet_part herror (fun _ => rfl) herrorRead]
  simp

/-- A new object need not be emptied. -/
theorem run_clear_empty {ν : Type} {ops : List (Op ν)} (h : Touches ops []) :
    run (.clear [] :: ops) empty = run ops empty := by
  funext q
  rw [run_cons]
  by_cases hq : Touches ops q
  · exact run_of_touches hq _ _
  · have hne : q ≠ [] := fun hnil => hq (hnil ▸ h)
    rw [run_of_not_touches hq, run_of_not_touches hq]
    simp [Op.apply, Op.effect, empty, hne]

/-! ## The code of the wire format -/

/-- What protobuf generates: an object is emptied, and the fields of the message that was read are
set in it. -/
def Wire.code : GeneratedCode where
  fieldsCSMsg data _ := (decodeCSMsg data).parts.flatMap Prod.snd
  serializeCSMsg o := encodeCSMsg (.read o)
  fieldsSSMsg data _ := (decodeSSMsg data).parts.flatMap Prod.snd
  parsesSSMsg data _ := decide (encodeSSMsg (decodeSSMsg data) = data)
  serializeSSMsg o := encodeSSMsg (.read o)

theorem Wire.protobuf_code : Wire.code.protobuf = Wire.protobuf := by
  have hcs : ∀ m : CSMsg, run (.clear [] :: m.parts.flatMap Prod.snd) empty = m.object := by
    intro m
    rw [m.object_eq]
    refine run_clear_empty ⟨.set [1, 1] (.int m.head.magic.toInt), ?_, rfl⟩
    simp [CSMsg.parts, csHeadOps]
  have hss : ∀ m : SSMsg, run (.clear [] :: m.parts.flatMap Prod.snd) empty = m.object := by
    intro m
    rw [m.object_eq]
    refine run_clear_empty ⟨.set [1, 1] (.int m.head.magic.toInt), ?_, rfl⟩
    simp [SSMsg.parts, ssHeadOps]
  simp only [GeneratedCode.protobuf, GeneratedCode.parseCSMsgOps, GeneratedCode.parseSSMsgOps,
    Wire.code, hcs, hss, CSMsg.read_object, SSMsg.read_object]
  rfl

end Rapidapp.Connector
