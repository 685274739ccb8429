import Rapidapp.Misc.CInt
import Rapidapp.Misc.Json
import Rapidapp.Misc.Run

/-!
# JsonReader

`utils/rapidjson_util.cpp:22-149`: a cursor on a document of rapidjson and accessors for the
members of the value it stands on. The functions of `rapidjson::Value` that it uses are given with
their assertions; a failed one is `none`. `prev_value_` is never read and is left out. An output
is the object that the pointer or reference points to, before and after the call.
-/

namespace Rapidapp

/-! ## rapidjson::Value -/

namespace RapidJson

/-- `IsObject`. -/
def isObject : Json → Bool
  | .obj _ => true
  | _ => false

/-- `IsArray`. -/
def isArray : Json → Bool
  | .arr _ => true
  | _ => false

/-- `IsString`. -/
def isString : Json → Bool
  | .str _ => true
  | _ => false

/-- `IsInt`: an integer literal in the range of an `int`. -/
def isInt : Json → Bool
  | .int n => -2 ^ 31 ≤ n ∧ n < 2 ^ 31
  | _ => false

/-- `FindMember` (`document.h:822-850`), the first member of this name; for objects only. -/
def findMember (v : Json) (key : List UInt8) : Option (Option Json) :=
  match v with
  | .obj ms => some ((ms.find? (·.1 = key)).map (·.2))
  | _ => none

/-- `HasMember` (`document.h:797`). -/
def hasMember (v : Json) (key : List UInt8) : Option Bool := (findMember v key).map (·.isSome)

/-- `operator[]` for a name (`document.h:756-774`); for members that are there only. -/
def member (v : Json) (key : List UInt8) : Option Json := (findMember v key).join

/-- `operator[]` for an index (`document.h:1061-1065`), a `SizeType`; for arrays and an index below
`Size()` only. -/
def element (v : Json) (index : Nat) : Option Json :=
  match v with
  | .arr vs => vs[CInt.uint32 index]?
  | _ => none

/-- `Size`; for arrays only. -/
def size : Json → Option Nat
  | .arr vs => some vs.length
  | _ => none

/-- `GetInt`; for ints only. -/
def getInt (v : Json) : Option Int :=
  match v with
  | .int n => if isInt (.int n) then some n else none
  | _ => none

/-- `GetString`, as the `const char*` is read; for strings only. -/
def getString : Json → Option (List UInt8)
  | .str s => some (s.takeWhile (· ≠ 0))
  | _ => none

/-- `Size()` is a `SizeType`, a `uint32_t`: no array of the value has more elements. -/
inductive Sized : Json → Prop
  | null : Sized .null
  | bool (b : Bool) : Sized (.bool b)
  | int (n : Int) : Sized (.int n)
  | real (text : List UInt8) : Sized (.real text)
  | str (s : List UInt8) : Sized (.str s)
  | arr {vs : List Json} : vs.length < 2 ^ 32 → (∀ v ∈ vs, Sized v) → Sized (.arr vs)
  | obj {ms : List (List UInt8 × Json)} : (∀ m ∈ ms, Sized m.2) → Sized (.obj ms)

end RapidJson

open RapidJson

/-! ## The reader -/

/-- `class JsonReader` (`rapidjson_util.h:24-51`): `docu_` and what `curr_value_` points to. -/
structure JsonReader where
  docu : Json
  currValue : Json

namespace JsonReader

/-- `JsonReader::Parse` (`rapidjson_util.cpp:22-34`) with the document that rapidjson makes of the
text; `none` is the result -1. -/
def parse (rapidjson : List UInt8 → Option Json) (text : List UInt8) : Option JsonReader :=
  (rapidjson text).map fun docu => ⟨docu, docu⟩

variable (r : JsonReader)

/-- `JsonReader::GetValueString` (`rapidjson_util.cpp:36-52`). -/
def getValueString (key : Option (List UInt8)) (value : List UInt8) :
    Option (Int × List UInt8) :=
  match key with
  | none => some (-1, value)
  | some key =>
    (hasMember r.currValue key).bind fun found =>
      if found then
        (member r.currValue key).bind fun m =>
          if isString m then (getString m).map fun s => (0, s) else some (-1, value)
      else some (-1, value)

/-- `JsonReader::GetValueInt` (`rapidjson_util.cpp:54-70`). -/
def getValueInt (key : Option (List UInt8)) (value : Int) : Option (Int × Int) :=
  match key with
  | none => some (-1, value)
  | some key =>
    (hasMember r.currValue key).bind fun found =>
      if found then
        (member r.currValue key).bind fun m =>
          if isInt m then (getInt m).map fun n => (0, n) else some (-1, value)
      else some (-1, value)

/-- `JsonReader::GetValueIntAt` (`rapidjson_util.cpp:72-86`). -/
def getValueIntAt (key : Option (List UInt8)) (value : Int) (pos : Nat) : Option (Int × Int) :=
  match key with
  | none => some (-1, value)
  | some key =>
    if pos = 0 then some (-1, value)
    else
      (hasMember r.currValue key).bind fun found =>
        if found then
          (member r.currValue key).bind fun m =>
            if isArray m then ((element m pos).bind getInt).map fun n => (0, n)
            else some (-1, value)
        else some (-1, value)

/-- `JsonReader::GetCount` (`rapidjson_util.cpp:88-108`). -/
def getCount (key : Option (List UInt8)) (count : Int) : Option (Int × Int) :=
  match key with
  | none => some (-1, count)
  | some key =>
    (hasMember r.currValue key).bind fun found =>
      if found then
        (member r.currValue key).bind fun m =>
          if isArray m then (size m).map fun n => (0, CInt.int32 n) else some (0, 1)
      else some (0, count)

/-- `JsonReader::Enter` (`rapidjson_util.cpp:110-125`). -/
def enter (key : Option (List UInt8)) : Option (Int × JsonReader) :=
  match key with
  | none => some (-1, r)
  | some key =>
    (hasMember r.currValue key).bind fun found =>
      if found then
        (member r.currValue key).bind fun m =>
          if isObject m then some (0, { r with currValue := m }) else some (-1, r)
      else some (-1, r)

/-- `JsonReader::EnterAt` (`rapidjson_util.cpp:127-143`). -/
def enterAt (key : Option (List UInt8)) (pos : Nat) : Option (Int × JsonReader) :=
  match key with
  | none => some (-1, r)
  | some key =>
    (hasMember r.currValue key).bind fun found =>
      if found then
        (member r.currValue key).bind fun m =>
          if isArray m then
            (size m).bind fun n =>
              if pos < n then
                (element m pos).bind fun v =>
                  if isObject v then some (0, { r with currValue := v }) else some (-1, r)
              else some (-1, r)
          else some (-1, r)
      else some (-1, r)

/-- `JsonReader::EnterRoot` (`rapidjson_util.cpp:145-149`). -/
def enterRoot : JsonReader := { r with currValue := r.docu }

/-! ## What the accessors are for -/

/-- The member that a key addresses. -/
def addressed (key : Option (List UInt8)) : Option Json :=
  key.bind fun key => (findMember r.currValue key).join

/-- The text of a string. -/
def stringOf : Json → Option (List UInt8)
  | .str s => some s
  | _ => none

/-- The elements of an array. -/
def elementsOf : Json → Option (List Json)
  | .arr vs => some vs
  | _ => none

/-- The int that a key and a position address. -/
def addressedAt (key : Option (List UInt8)) (pos : Nat) : Option Int :=
  (((r.addressed key).bind elementsOf).bind (·[pos]?)).bind getInt

/-- The number of elements of an array; any other value is one. -/
def countOf : Json → Nat
  | .arr vs => vs.length
  | _ => 1

/-- 0 and what was found, or -1 and the output as it was. -/
def answer {α : Type} (found : Option α) (output : α) : Int × α :=
  match found with
  | some x => (0, x)
  | none => (-1, output)

end JsonReader

/-- A call on a reader. -/
inductive ReaderCall where
  | getValueString (key : Option (List UInt8)) (value : List UInt8)
  | getValueInt (key : Option (List UInt8)) (value : Int)
  | getValueIntAt (key : Option (List UInt8)) (value : Int) (pos : Nat)
  | getCount (key : Option (List UInt8)) (count : Int)
  | enter (key : Option (List UInt8))
  | enterAt (key : Option (List UInt8)) (pos : Nat)
  | enterRoot

namespace ReaderCall

/-- The reader after the call, `none` when an assertion fails. -/
def step (r : JsonReader) : ReaderCall → Option JsonReader
  | .getValueString key value => (r.getValueString key value).map fun _ => r
  | .getValueInt key value => (r.getValueInt key value).map fun _ => r
  | .getValueIntAt key value pos => (r.getValueIntAt key value pos).map fun _ => r
  | .getCount key count => (r.getCount key count).map fun _ => r
  | .enter key => (r.enter key).map (·.2)
  | .enterAt key pos => (r.enterAt key pos).map (·.2)
  | .enterRoot => some r.enterRoot

/-- No assertion fails, and an accessor answers with what is addressed. -/
def Right (r : JsonReader) : ReaderCall → Prop
  | .getValueString key value => r.getValueString key value =
      some (JsonReader.answer ((r.addressed key).bind JsonReader.stringOf) value)
  | .getValueInt key value => r.getValueInt key value =
      some (JsonReader.answer ((r.addressed key).bind getInt) value)
  | .getValueIntAt key value pos => r.getValueIntAt key value pos =
      some (JsonReader.answer (r.addressedAt key pos) value)
  | .getCount key count => r.getCount key count =
      some (JsonReader.answer ((r.addressed key).map fun m => (JsonReader.countOf m : Int)) count)
  | .enter key => (r.enter key).isSome
  | .enterAt key pos => (r.enterAt key pos).isSome
  | .enterRoot => True

/-- There is no key, or the root of the document is an object. -/
def OnObject (r : JsonReader) (key : Option (List UInt8)) : Prop :=
  key = none ∨ isObject r.docu = true

/-- What each accessor leaves unchecked is the case. -/
def Unchecked (r : JsonReader) : ReaderCall → Prop
  | .getValueString key _ => OnObject r key ∧
      ∀ s, (r.addressed key).bind JsonReader.stringOf = some s → 0 ∉ s
  | .getValueInt key _ => OnObject r key
  | .getValueIntAt key _ pos =>
      if pos = 0 then r.addressedAt key pos = none
      else OnObject r key ∧ (((r.addressed key).bind JsonReader.elementsOf).isSome →
        (r.addressedAt key pos).isSome)
  | .getCount key _ => key = none ∨ isObject r.docu = true ∧
      ∃ m, r.addressed key = some m ∧ JsonReader.countOf m < 2 ^ 31
  | .enter key => OnObject r key
  | .enterAt key _ => OnObject r key
  | .enterRoot => True

end ReaderCall

/-! ## The cursor -/

/-- The cursor stands on an object exactly if the root is one, and on a value of the document. -/
structure JsonReader.Ok (r : JsonReader) : Prop where
  onObject : isObject r.currValue = isObject r.docu
  docu : Sized r.docu
  currValue : Sized r.currValue

section Lookup

variable {v m : Json} {key : List UInt8}

theorem findMember_of_isObject (h : isObject v = true) (key : List UInt8) :
    ∃ found, findMember v key = some found := by
  cases v <;> first | exact ⟨_, rfl⟩ | cases h

theorem findMember_of_not_isObject (h : isObject v = false) (key : List UInt8) :
    findMember v key = none := by
  cases v <;> first | rfl | cases h

/-- The common form of the functions: `HasMember`, then `operator[]`. -/
theorem lookup_of_find {α : Type} {found : Option Json} (h : findMember v key = some found)
    (f : Json → Option α) (absent : Option α) :
    ((hasMember v key).bind fun b => if b then (member v key).bind f else absent) =
      found.elim absent f := by
  rw [hasMember, member, h]
  cases found with
  | none => rfl
  | some m => rfl

theorem lookup_of_none {α : Type} (h : findMember v key = none) (f : Json → Option α)
    (absent : Option α) :
    ((hasMember v key).bind fun b => if b then (member v key).bind f else absent) = none := by
  rw [hasMember, h]
  rfl

/-- What a look-up that passes the assertion comes from. -/
theorem lookup_eq_some {α : Type} {f : Json → Option α} {absent : Option α} {x : α}
    (h : ((hasMember v key).bind fun b => if b then (member v key).bind f else absent) = some x) :
    absent = some x ∨ ∃ m, findMember v key = some (some m) ∧ f m = some x := by
  cases hfind : findMember v key with
  | none =>
    rw [lookup_of_none hfind] at h
    cases h
  | some found =>
    rw [lookup_of_find hfind] at h
    cases found with
    | none => exact .inl h
    | some m => exact .inr ⟨m, rfl, h⟩

theorem RapidJson.Sized.member (h : Sized v) (hm : findMember v key = some (some m)) : Sized m := by
  cases h with
  | obj hms =>
    obtain ⟨x, hx, rfl⟩ := Option.map_eq_some_iff.mp (Option.some.inj hm)
    exact hms x (List.mem_of_find?_eq_some hx)
  | _ => cases hm

theorem RapidJson.Sized.element (h : Sized v) {index : Nat} (hm : element v index = some m) :
    Sized m := by
  cases h with
  | arr _ hvs => exact hvs m (List.mem_of_getElem? hm)
  | _ => cases hm

theorem element_of_lt {vs : List Json} {index : Nat} (h : Sized (.arr vs))
    (hindex : index < vs.length) : element (.arr vs) index = vs[index]? := by
  cases h with
  | arr hlen _ =>
    have hnarrow : CInt.uint32 index = index := by
      unfold CInt.uint32
      omega
    rw [element, hnarrow]

/-- The value an `int` accessor finds at a position of an array. -/
theorem element_bind_getInt {vs : List Json} {index : Nat} {n : Int} (h : Sized (.arr vs))
    (hn : (vs[index]?).bind getInt = some n) : (element (.arr vs) index).bind getInt = some n := by
  have hindex : index < vs.length := by
    by_contra hle
    rw [List.getElem?_eq_none (not_lt.mp hle)] at hn
    cases hn
  rw [element_of_lt h hindex, hn]

end Lookup

/-! ## Calls -/

namespace JsonReader

variable {r : JsonReader} {key : List UInt8} {found : Option Json}

theorem addressed_of_find (h : findMember r.currValue key = some found) :
    r.addressed (some key) = found := by
  show (findMember r.currValue key).join = found
  rw [h]
  rfl

theorem getValueString_right_iff (h : findMember r.currValue key = some found)
    (value : List UInt8) :
    r.getValueString (some key) value =
        some (answer ((r.addressed (some key)).bind stringOf) value) ↔
      ∀ s, (r.addressed (some key)).bind stringOf = some s → 0 ∉ s := by
  rw [addressed_of_find h, getValueString, lookup_of_find h]
  cases found with
  | none => simp [answer]
  | some m =>
    cases m with
    | str s =>
      have htake : s.takeWhile (fun c => decide (c ≠ 0)) = s ↔ 0 ∉ s := by
        rw [List.takeWhile_eq_self_iff]
        constructor
        · intro hall hmem
          simpa using hall 0 hmem
        · intro hmem c hc
          exact decide_eq_true fun heq => hmem (heq ▸ hc)
      simp only [Option.elim_some, isString, if_true, getString, Option.map_some, Option.bind_some,
        stringOf, answer, Option.some.injEq, Prod.mk.injEq, true_and, forall_eq', htake]
    | _ => simp [isString, stringOf, answer]

theorem getValueInt_right (h : findMember r.currValue key = some found) (value : Int) :
    r.getValueInt (some key) value =
      some (answer ((r.addressed (some key)).bind getInt) value) := by
  rw [addressed_of_find h, getValueInt, lookup_of_find h]
  cases found with
  | none => rfl
  | some m =>
    cases m with
    | int n =>
      cases hint : isInt (.int n) with
      | true => simp [getInt, hint, answer]
      | false => simp [getInt, hint, answer]
    | _ => rfl

theorem getValueIntAt_right_iff (h : findMember r.currValue key = some found)
    (hsized : Sized r.currValue) (value : Int) {pos : Nat} (hpos : pos ≠ 0) :
    r.getValueIntAt (some key) value pos = some (answer (r.addressedAt (some key) pos) value) ↔
      (((r.addressed (some key)).bind elementsOf).isSome →
        (r.addressedAt (some key) pos).isSome) := by
  rw [addressedAt, addressed_of_find h, getValueIntAt, if_neg hpos, lookup_of_find h]
  cases found with
  | none => simp [answer]
  | some m =>
    cases m with
    | arr vs =>
      have hvs : Sized (.arr vs) := hsized.member h
      simp only [Option.elim_some, isArray, if_true, Option.bind_some, elementsOf,
        Option.isSome_some, true_implies]
      cases hn : (vs[pos]?).bind getInt with
      | some n => simp [element_bind_getInt hvs hn, answer]
      | none =>
        simp only [answer, Option.isSome_none, Bool.false_eq_true, iff_false]
        intro heq
        obtain ⟨n, _, hanswer⟩ := Option.map_eq_some_iff.mp heq
        cases hanswer
    | _ => simp [isArray, elementsOf, answer]

theorem getCount_right_iff (h : findMember r.currValue key = some found)
    (hsized : Sized r.currValue) (count : Int) :
    r.getCount (some key) count =
        some (answer ((r.addressed (some key)).map fun m => (countOf m : Int)) count) ↔
      ∃ m, r.addressed (some key) = some m ∧ countOf m < 2 ^ 31 := by
  rw [addressed_of_find h, getCount, lookup_of_find h]
  cases found with
  | none => simp [answer]
  | some m =>
    cases m with
    | arr vs =>
      have hlen : vs.length < 2 ^ 32 := by
        cases hsized.member h with
        | arr hlen _ => exact hlen
      have hint : CInt.int32 vs.length = vs.length ↔ vs.length < 2 ^ 31 := by
        constructor
        · intro heq
          have := CInt.int32_lt vs.length
          omega
        · intro hlt
          exact CInt.int32_of_range (by omega) (by omega)
      simp [isArray, size, countOf, answer, hint]
    | _ => simp [isArray, countOf, answer]

theorem getValueIntAt_zero_iff (key : Option (List UInt8)) (value : Int) :
    r.getValueIntAt key value 0 = some (answer (r.addressedAt key 0) value) ↔
      r.addressedAt key 0 = none := by
  have hrefused : r.getValueIntAt key value 0 = some (-1, value) := by
    cases key <;> rfl
  rw [hrefused]
  cases r.addressedAt key 0 with
  | none => simp [answer]
  | some n => simp [answer]

theorem enter_isSome (h : findMember r.currValue key = some found) :
    (r.enter (some key)).isSome := by
  rw [enter, lookup_of_find h]
  cases found with
  | none => rfl
  | some m =>
    show (if isObject m then _ else _ : Option (Int × JsonReader)).isSome
    split <;> rfl

theorem enterAt_isSome (h : findMember r.currValue key = some found) (hsized : Sized r.currValue)
    (pos : Nat) : (r.enterAt (some key) pos).isSome := by
  rw [enterAt, lookup_of_find h]
  cases found with
  | none => rfl
  | some m =>
    cases m with
    | arr vs =>
      simp only [Option.elim_some, isArray, if_true, size, Option.bind_some]
      by_cases hpos : pos < vs.length
      · rw [if_pos hpos, element_of_lt (hsized.member h) hpos, List.getElem?_eq_getElem hpos,
          Option.bind_some]
        split <;> rfl
      · rw [if_neg hpos]
        rfl
    | _ => rfl

/-! ### The cursor moves from object to object -/

theorem isObject_of_find (h : findMember r.currValue key = some found) :
    isObject r.currValue = true := by
  cases hobj : isObject r.currValue with
  | true => rfl
  | false =>
    rw [findMember_of_not_isObject hobj] at h
    cases h

/-- Any object below an object. -/
theorem Ok.move (hok : r.Ok) (h : findMember r.currValue key = some found) {v : Json}
    (hv : isObject v = true) (hsized : Sized v) : Ok { r with currValue := v } where
  onObject := by
    show isObject v = isObject r.docu
    rw [hv, ← hok.onObject, isObject_of_find h]
  docu := hok.docu
  currValue := hsized

theorem Ok.enter (hok : r.Ok) {key : Option (List UInt8)} {after : Int × JsonReader}
    (henter : r.enter key = some after) : after.2.Ok := by
  cases key with
  | none =>
    obtain rfl := Option.some.inj henter
    exact hok
  | some key =>
    obtain h | ⟨m, hfind, h⟩ := lookup_eq_some henter
    · obtain rfl := Option.some.inj h
      exact hok
    · split at h
      next hm =>
        obtain rfl := Option.some.inj h
        exact hok.move hfind hm (hok.currValue.member hfind)
      next =>
        obtain rfl := Option.some.inj h
        exact hok

theorem Ok.enterAt (hok : r.Ok) {key : Option (List UInt8)} {pos : Nat}
    {after : Int × JsonReader} (henter : r.enterAt key pos = some after) : after.2.Ok := by
  cases key with
  | none =>
    obtain rfl := Option.some.inj henter
    exact hok
  | some key =>
    obtain h | ⟨m, hfind, h⟩ := lookup_eq_some henter
    · obtain rfl := Option.some.inj h
      exact hok
    · split at h
      · obtain ⟨n, _, h⟩ := Option.bind_eq_some_iff.mp h
        split at h
        · obtain ⟨v, hv, h⟩ := Option.bind_eq_some_iff.mp h
          split at h
          next hobj =>
            obtain rfl := Option.some.inj h
            exact hok.move hfind hobj ((hok.currValue.member hfind).element hv)
          next =>
            obtain rfl := Option.some.inj h
            exact hok
        · obtain rfl := Option.some.inj h
          exact hok
      · obtain rfl := Option.some.inj h
        exact hok

end JsonReader

namespace ReaderCall

variable {r r' : JsonReader}

theorem step_ok (call : ReaderCall) (hok : r.Ok) (hstep : step r call = some r') : r'.Ok := by
  cases call with
  | enter key =>
    obtain ⟨after, henter, rfl⟩ := Option.map_eq_some_iff.mp hstep
    exact hok.enter henter
  | enterAt key pos =>
    obtain ⟨after, henter, rfl⟩ := Option.map_eq_some_iff.mp hstep
    exact hok.enterAt henter
  | enterRoot =>
    obtain rfl := Option.some.inj hstep
    exact ⟨rfl, hok.docu, hok.docu⟩
  | _ =>
    obtain ⟨_, _, rfl⟩ := Option.map_eq_some_iff.mp hstep
    exact hok

/-- The root is an object where a look-up passes the assertion of `HasMember`, and only there. -/
theorem onObject_iff (hok : r.Ok) (key : List UInt8) :
    OnObject r (some key) ↔ ∃ found, findMember r.currValue key = some found := by
  constructor
  · intro h
    cases h with
    | inl h => cases h
    | inr h => exact findMember_of_isObject (hok.onObject.trans h) key
  · intro ⟨found, hfound⟩
    exact Or.inr (hok.onObject ▸ JsonReader.isObject_of_find hfound)

/-- One call: it is right exactly if what it leaves unchecked is the case. -/
theorem right_iff (hok : r.Ok) (call : ReaderCall) : Right r call ↔ Unchecked r call := by
  cases call with
  | getValueString key value =>
    cases key with
    | none => exact iff_of_true rfl ⟨Or.inl rfl, fun s h => by cases h⟩
    | some key =>
      show _ ↔ OnObject r (some key) ∧ _
      rw [onObject_iff hok]
      cases hfind : findMember r.currValue key with
      | none => simp [Right, JsonReader.getValueString, lookup_of_none hfind]
      | some found =>
        rw [Right, JsonReader.getValueString_right_iff hfind]
        simp
  | getValueInt key value =>
    cases key with
    | none => exact iff_of_true rfl (Or.inl rfl)
    | some key =>
      show _ ↔ OnObject r (some key)
      rw [onObject_iff hok]
      cases hfind : findMember r.currValue key with
      | none => simp [Right, JsonReader.getValueInt, lookup_of_none hfind]
      | some found => exact iff_of_true (JsonReader.getValueInt_right hfind value) ⟨found, rfl⟩
  | getValueIntAt key value pos =>
    rw [Unchecked]
    by_cases hpos : pos = 0
    · rw [if_pos hpos, hpos]
      exact JsonReader.getValueIntAt_zero_iff key value
    · rw [if_neg hpos]
      cases key with
      | none => exact iff_of_true rfl ⟨Or.inl rfl, fun h => by cases h⟩
      | some key =>
        rw [onObject_iff hok]
        cases hfind : findMember r.currValue key with
        | none => simp [Right, JsonReader.getValueIntAt, hpos, lookup_of_none hfind]
        | some found =>
          rw [Right, JsonReader.getValueIntAt_right_iff hfind hok.currValue value hpos]
          simp
  | getCount key count =>
    cases key with
    | none => exact iff_of_true rfl (Or.inl rfl)
    | some key =>
      have hobj : (some key = none ∨ isObject r.docu = true ∧
          ∃ m, r.addressed (some key) = some m ∧ JsonReader.countOf m < 2 ^ 31) ↔
          OnObject r (some key) ∧
          ∃ m, r.addressed (some key) = some m ∧ JsonReader.countOf m < 2 ^ 31 := by
        simp [OnObject]
      rw [Unchecked, hobj, onObject_iff hok]
      cases hfind : findMember r.currValue key with
      | none => simp [Right, JsonReader.getCount, lookup_of_none hfind]
      | some found =>
        rw [Right, JsonReader.getCount_right_iff hfind hok.currValue]
        simp
  | enter key =>
    cases key with
    | none => exact iff_of_true rfl (Or.inl rfl)
    | some key =>
      show _ ↔ OnObject r (some key)
      rw [onObject_iff hok]
      cases hfind : findMember r.currValue key with
      | none => simp [Right, JsonReader.enter, lookup_of_none hfind]
      | some found => exact iff_of_true (JsonReader.enter_isSome hfind) ⟨found, rfl⟩
  | enterAt key pos =>
    cases key with
    | none => exact iff_of_true rfl (Or.inl rfl)
    | some key =>
      show _ ↔ OnObject r (some key)
      rw [onObject_iff hok]
      cases hfind : findMember r.currValue key with
      | none => simp [Right, JsonReader.enterAt, lookup_of_none hfind]
      | some found =>
        exact iff_of_true (JsonReader.enterAt_isSome hfind hok.currValue pos) ⟨found, rfl⟩
  | enterRoot => exact Iff.rfl

end ReaderCall

section Document

variable {rapidjson : List UInt8 → Option Json} {text : List UInt8} {r : JsonReader}

/-- `Parse` puts the cursor on the root. -/
theorem JsonReader.parse_ok (hsized : ∀ docu, rapidjson text = some docu → Sized docu)
    (hparse : JsonReader.parse rapidjson text = some r) : r.Ok := by
  obtain ⟨docu, hdocu, rfl⟩ := Option.map_eq_some_iff.mp hparse
  exact ⟨rfl, hsized docu hdocu, hsized docu hdocu⟩

/-- On every document that `Parse` accepts and after any calls, the accessors answer with what is
addressed and no assertion of rapidjson fails, exactly if what they leave unchecked is the case. -/
theorem ReaderCall.right_iff_unchecked
    (hsized : ∀ docu, rapidjson text = some docu → Sized docu)
    (hparse : JsonReader.parse rapidjson text = some r) (calls : List ReaderCall) :
    Run.Along ReaderCall.step ReaderCall.Right r calls ↔
      Run.Along ReaderCall.step ReaderCall.Unchecked r calls :=
  Run.along_iff_of_inv (fun _ call _ hok hstep => ReaderCall.step_ok call hok hstep)
    (fun _ call hok => ReaderCall.right_iff hok call) (JsonReader.parse_ok hsized hparse) calls

end Document

/-- `{"a":[7,8],"b":{"c":"x"}}`. -/
theorem ReaderCall.right_iff_unchecked_nested :
    Run.Along ReaderCall.step ReaderCall.Right
      ⟨.obj [([97], .arr [.int 7, .int 8]), ([98], .obj [([99], .str [120])])],
        .obj [([97], .arr [.int 7, .int 8]), ([98], .obj [([99], .str [120])])]⟩
      [.getValueIntAt (some [97]) 0 1, .enter (some [98]), .getValueString (some [99]) [],
        .enterRoot, .getCount (some [97]) 0] := by
  have hparse : Json.parse [123, 34, 97, 34, 58, 91, 55, 44, 56, 93, 44, 34, 98, 34, 58, 123, 34,
      99, 34, 58, 34, 120, 34, 125, 125] =
      some (.obj [([97], .arr [.int 7, .int 8]), ([98], .obj [([99], .str [120])])]) := by rfl
  have hsized : ∀ docu, Json.parse [123, 34, 97, 34, 58, 91, 55, 44, 56, 93, 44, 34, 98, 34, 58,
      123, 34, 99, 34, 58, 34, 120, 34, 125, 125] = some docu → Sized docu := by
    intro docu hdocu
    obtain rfl := Option.some.inj (hparse.symm.trans hdocu)
    have harr : Sized (.arr [.int 7, .int 8]) :=
      .arr (by decide) (by simp [Sized.int])
    have hobj : Sized (.obj [([99], .str [120])]) := .obj (by simp [Sized.str])
    exact .obj (by simp [harr, hobj])
  apply (ReaderCall.right_iff_unchecked hsized (congrArg (Option.map _) hparse) _).mpr
  refine Run.along_cons ?_ rfl (Run.along_cons ?_ rfl (Run.along_cons ?_ rfl
    (Run.along_cons trivial rfl (Run.along_cons ?_ rfl trivial))))
  · exact ⟨Or.inr rfl, fun _ => rfl⟩
  · exact Or.inr rfl
  · exact ⟨Or.inr rfl, by simp [JsonReader.addressed, findMember, JsonReader.stringOf]⟩
  · exact Or.inr ⟨rfl, _, rfl, by decide⟩

/-- `{"a":[7]}`: position 0 is refused. -/
theorem ReaderCall.first_element_refused :
    ∃ r, JsonReader.parse Json.parse [123, 34, 97, 34, 58, 91, 55, 93, 125] = some r ∧
      r.addressedAt (some [97]) 0 = some 7 ∧
      ¬ Run.Along ReaderCall.step ReaderCall.Right r [.getValueIntAt (some [97]) 5 0] := by
  refine ⟨⟨.obj [([97], .arr [.int 7])], .obj [([97], .arr [.int 7])]⟩, by rfl, by rfl, ?_⟩
  intro halong
  have hright : some ((-1 : Int), (5 : Int)) = some (0, 7) := halong.1
  cases hright

end Rapidapp
