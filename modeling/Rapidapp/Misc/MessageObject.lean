import Mathlib.Data.List.Basic

/-!
# Message objects that are used again

An object of a message class of protobuf holds a tree of fields. A field is named by the numbers
on the way to it and a program changes the object one field at a time: `mutable_a()->set_x(v)`
makes the field `a` present and overwrites `a.x`, `Clear` empties a message. A program that builds
one message after another in the same object does not see the earlier ones exactly because it
overwrites whatever they wrote.
-/

namespace MessageObject

/-- The numbers of the fields on the way from the object to a field of it. -/
abbrev Path := List Nat

variable {ν ι : Type*}

/-- What a field that is set holds. -/
inductive Field (ν : Type*) where
  | message
  | scalar (v : ν)
  deriving DecidableEq, Repr

/-- An object: what is set in it. -/
abbrev Object (ν : Type*) := Path → Option (Field ν)

/-- An object that was just made. -/
def empty : Object ν := fun _ => none

/-- One call on an object or on a message in it. -/
inductive Op (ν : Type*) where
  /-- `set_x(v)`, with the `mutable_` calls that lead to the message of `x`. -/
  | set (p : Path) (v : ν)
  /-- `mutable_x()` alone. -/
  | mutable (p : Path)
  /-- `Clear()` of a message that is there. -/
  | clear (p : Path)
  deriving DecidableEq, Repr

namespace Op

/-- The field or message the call is about. -/
def path : Op ν → Path
  | set p _ => p
  | mutable p => p
  | clear p => p

/-- What the call writes at a path: `none` where it writes nothing, `some none` where it unsets the
field. -/
def effect : Op ν → Path → Option (Option (Field ν))
  | set p v, q =>
    if q = p then some (some (.scalar v)) else if q <+: p then some (some .message) else none
  | mutable p, q => if q <+: p then some (some .message) else none
  | clear p, q =>
    if q = p then some (some .message) else if p <+: q then some none else none

def apply (op : Op ν) (o : Object ν) : Object ν := fun q => (op.effect q).getD (o q)

/-- The call without its value. -/
def place : Op ν → Op Unit
  | set p _ => .set p ()
  | mutable p => .mutable p
  | clear p => .clear p

theorem isSome_effect_place (op : Op ν) (q : Path) :
    (op.place.effect q).isSome = (op.effect q).isSome := by
  cases op <;> simp only [place, effect] <;> split_ifs <;> rfl

end Op

/-- The calls one after another. -/
def run (ops : List (Op ν)) (o : Object ν) : Object ν := ops.foldl (fun o op => op.apply o) o

theorem run_cons (op : Op ν) (ops : List (Op ν)) (o : Object ν) :
    run (op :: ops) o = run ops (op.apply o) := rfl

theorem run_append (ops ops' : List (Op ν)) (o : Object ν) :
    run (ops ++ ops') o = run ops' (run ops o) := List.foldl_append

/-- One of the calls writes at this path. -/
def Touches (ops : List (Op ν)) (q : Path) : Prop := ∃ op ∈ ops, (op.effect q).isSome = true

theorem touches_cons {op : Op ν} {ops : List (Op ν)} {q : Path} :
    Touches (op :: ops) q ↔ (op.effect q).isSome = true ∨ Touches ops q := by
  simp [Touches]

theorem touches_append {ops ops' : List (Op ν)} {q : Path} :
    Touches (ops ++ ops') q ↔ Touches ops q ∨ Touches ops' q := by
  simp only [Touches, List.mem_append, or_and_right, exists_or]

/-- What was at a path before does not matter when something is written there. -/
theorem run_of_touches {ops : List (Op ν)} {q : Path} (h : Touches ops q) (o o' : Object ν) :
    run ops o q = run ops o' q := by
  -- either a later call writes there, or the first one does and both objects agree from then on
  have hagree : ∀ (ops : List (Op ν)) (o o' : Object ν),
      o q = o' q → run ops o q = run ops o' q := by
    intro ops
    induction ops with
    | nil => exact fun _ _ h => h
    | cons op ops ih =>
      intro o o' hq
      rw [run_cons, run_cons]
      exact ih _ _ (by rw [Op.apply, Op.apply, hq])
  induction ops generalizing o o' with
  | nil => exact absurd h (by simp [Touches])
  | cons op ops ih =>
    rw [run_cons, run_cons]
    rcases touches_cons.mp h with hop | hrest
    · obtain ⟨f, hf⟩ := Option.isSome_iff_exists.mp hop
      apply hagree
      rw [Op.apply, Op.apply, hf]
      rfl
    · exact ih hrest _ _

theorem run_of_not_touches {ops : List (Op ν)} {q : Path} (h : ¬ Touches ops q) (o : Object ν) :
    run ops o q = o q := by
  induction ops generalizing o with
  | nil => rfl
  | cons op ops ih =>
    rw [touches_cons, not_or] at h
    obtain ⟨hop, hrest⟩ := h
    rw [run_cons, ih hrest, Op.apply, Option.not_isSome_iff_eq_none.mp hop]
    rfl

/-! ## One object, many messages -/

/-- `ops` writes wherever `ops'` does. -/
def Overwrites (ops ops' : List (Op ν)) : Prop := ∀ q, Touches ops' q → Touches ops q

/-- What `ops'` did before is not seen. -/
theorem run_run {ops ops' : List (Op ν)} (h : Overwrites ops ops') (o : Object ν) :
    run ops (run ops' o) = run ops o := by
  funext q
  by_cases hq : Touches ops q
  · exact run_of_touches hq _ _
  · rw [run_of_not_touches hq, run_of_not_touches hq, run_of_not_touches (fun hq' => hq (h q hq'))]

/-- The messages of a family can be built in one object in any order. -/
def Overwriting (build : ι → List (Op ν)) : Prop := ∀ i j, Overwrites (build i) (build j)

/-- Every message of the family comes out of the object as it comes out of a new one. -/
def Clean (build : ι → List (Op ν)) (o : Object ν) : Prop :=
  ∀ i, run (build i) o = run (build i) empty

theorem clean_empty (build : ι → List (Op ν)) : Clean build empty := fun _ => rfl

/-- An object stays clean when another message of the family is built in it. -/
theorem Clean.run {build : ι → List (Op ν)} {o : Object ν} (ho : Clean build o)
    (h : Overwriting build) (i : ι) : Clean build (run (build i) o) := by
  intro j
  rw [run_run (h j i)]
  exact ho j

/-! ## When a family overwrites -/

theorem touches_iff_place {ops : List (Op ν)} {q : Path} :
    Touches (ops.map Op.place) q ↔ Touches ops q := by
  simp [Touches, Op.isSome_effect_place]

/-- Messages that differ in their values only. -/
theorem overwriting_of_place {build : ι → List (Op ν)}
    (h : ∀ i j, (build i).map Op.place = (build j).map Op.place) : Overwriting build := by
  intro i j q hq
  rw [← touches_iff_place, h i j, touches_iff_place]
  exact hq

/-- A message that is emptied first. -/
theorem overwriting_of_clear (build : ι → List (Op ν)) :
    Overwriting fun i => .clear [] :: build i := by
  intro i j q _
  refine touches_cons.mpr (.inl ?_)
  simp only [Op.effect, List.nil_prefix, if_true]
  split_ifs <;> rfl

/-- A call writes above its path or below it. -/
theorem near_of_effect {op : Op ν} {q : Path} (hq : (op.effect q).isSome = true) :
    q <+: op.path ∨ op.path <+: q := by
  cases op <;> simp only [Op.effect, Op.path] at hq ⊢ <;> split_ifs at hq <;> grind

/-- What is written below a message is written where emptying the message writes. -/
theorem touches_of_below {op : Op ν} {b q : Path} (hb : b <+: op.path)
    (hq : (op.effect q).isSome = true) : Touches ([.mutable b, .clear b] : List (Op ν)) q := by
  -- the path is above the message or in it
  have hcases : q <+: b ∨ b <+: q := by
    rcases near_of_effect hq with hup | hdown
    · exact List.prefix_or_prefix_of_prefix hup hb
    · exact .inr (hb.trans hdown)
  rcases hcases with hup | hdown
  · exact ⟨.mutable b, List.mem_cons_self, by rw [Op.effect, if_pos hup]; rfl⟩
  · refine ⟨.clear b, List.mem_cons_of_mem _ List.mem_cons_self, ?_⟩
    rw [Op.effect]
    split_ifs <;> rfl

/-- Messages that fill the same head and then a part that they empty first. -/
theorem overwriting_of_below {head below : ι → List (Op ν)} (b : Path)
    (hhead : ∀ i j, (head i).map Op.place = (head j).map Op.place)
    (hbelow : ∀ i, ∀ op ∈ below i, b <+: op.path) :
    Overwriting fun i => head i ++ [.mutable b, .clear b] ++ below i := by
  intro i j q hq
  simp only [touches_append] at hq ⊢
  rcases hq with (hq | hq) | ⟨op, hop, hq⟩
  · exact .inl (.inl (overwriting_of_place hhead i j q hq))
  · exact .inl (.inr hq)
  · exact .inl (.inr (touches_of_below (hbelow j op hop) hq))

/-- Calls on other parts of the object write nothing into a message. -/
theorem not_touches_of_apart {ops : List (Op ν)} {b q : Path} (hq : b <+: q)
    (h : ∀ op ∈ ops, ¬ b <+: op.path ∧ ¬ op.path <+: b) : ¬ Touches ops q := by
  rintro ⟨op, hop, hwrites⟩
  obtain ⟨hdown, hup⟩ := h op hop
  rcases near_of_effect hwrites with hq' | hq'
  · exact hdown (hq.trans hq')
  · exact (List.prefix_or_prefix_of_prefix hq hq').elim hdown hup

/-- A message that nothing was put into before need not have been emptied. -/
theorem run_cleared {head rest : List (Op ν)} {b p : Path} (v : ν)
    (hhead : ∀ op ∈ head, ¬ b <+: op.path ∧ ¬ op.path <+: b) (hp : b <+: p) :
    run (head ++ [.mutable b, .clear b] ++ .set p v :: rest) empty =
      run (head ++ .set p v :: rest) empty := by
  funext q
  rw [run_append, run_append, run_append]
  by_cases hq : Touches (.set p v :: rest) q
  · exact run_of_touches hq _ _
  rw [run_of_not_touches hq, run_of_not_touches hq]
  -- what the field is in was made present with it
  have hup : ¬ q <+: b := by
    intro hqb
    refine hq (touches_cons.mpr (.inl ?_))
    rw [Op.effect, if_pos (hqb.trans hp)]
    split_ifs <;> rfl
  have hne : q ≠ b := fun h => hup (h ▸ List.prefix_rfl)
  show (Op.effect (.clear b) q).getD ((Op.effect (.mutable b) q).getD (run head empty q)) = _
  simp only [Op.effect, hne, if_false, hup]
  by_cases hdown : b <+: q
  · rw [if_pos hdown, run_of_not_touches (not_touches_of_apart hdown hhead)]
    rfl
  · rw [if_neg hdown]
    rfl

end MessageObject
