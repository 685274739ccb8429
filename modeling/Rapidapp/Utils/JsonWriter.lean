import Rapidapp.Misc.CInt
import Rapidapp.Misc.JsonText

/-!
# JsonWriter

`utils/rapidjson_util.cpp:151-329`: a writer that appends to a string. It keeps no stack: one flag,
`first_element_`, says whether the next element needs no comma. `JsonTree.calls` are the calls that
write a tree, and `JsonTree.parse_written_iff` says which trees a parser gets back from the text.
-/

namespace Rapidapp

/-! ## The writer -/

/-- `class JsonWriter` (`rapidjson_util.h:50-73`), with the string that `ptext_` points to. -/
structure JsonWriter where
  ptext : Option (List UInt8)
  firstElement : Bool

namespace JsonWriter

/-- A quote gets the escape character in front of it. -/
def escapeByte (c : UInt8) : List UInt8 := if c = 34 then [92, c] else [c]

/-- `JsonWriter::EscapeString` (`rapidjson_util.cpp:160-178`). The length is kept in an `int`. -/
def escapeString (name : Option (List UInt8)) : List UInt8 :=
  match name with
  | none => []
  | some name =>
    let len := CInt.int32 name.length
    (name.take len.toNat).flatMap escapeByte

/-- The comma in front of an element. -/
def separator (firstElement : Bool) : List UInt8 := if !firstElement then [44] else []

/-- A name between quotes and a colon, when there is one. -/
def tag : Option (List UInt8) → List UInt8
  | none => []
  | some name => 34 :: (name ++ [34, 58])

variable (w : JsonWriter)

/-- `StructBegin` and `ArrayBegin`, with their bracket; the name is appended as it is. -/
def begin_ (bracket : UInt8) (name : Option (List UInt8)) : Int × JsonWriter :=
  match w.ptext with
  | none => (-1, w)
  | some text => (0, ⟨some (text ++ separator w.firstElement ++ tag name ++ [bracket]), true⟩)

/-- `StructEnd` and `ArrayEnd`, with their bracket. -/
def end_ (bracket : UInt8) : Int × JsonWriter :=
  match w.ptext with
  | none => (-1, w)
  | some text => (0, { w with ptext := some (text ++ [bracket]) })

/-- Both `PushBack`, with the text of the value. -/
def push (key : Option (List UInt8)) (value : List UInt8) : Int × JsonWriter :=
  match w.ptext with
  | none => (-1, w)
  | some text =>
    (0, ⟨some (text ++ separator w.firstElement ++
      tag (key.map fun key => escapeString (some key)) ++ value), false⟩)

/-- `JsonWriter::StructBegin` (`rapidjson_util.cpp:180-208`). -/
def structBegin (name : Option (List UInt8)) : Int × JsonWriter := w.begin_ 123 name

/-- `JsonWriter::StructEnd` (`rapidjson_util.cpp:210-221`). -/
def structEnd : Int × JsonWriter := w.end_ 125

/-- `JsonWriter::ArrayBegin` (`rapidjson_util.cpp:223-251`). -/
def arrayBegin (name : Option (List UInt8)) : Int × JsonWriter := w.begin_ 91 name

/-- `JsonWriter::ArrayEnd` (`rapidjson_util.cpp:253-264`). -/
def arrayEnd : Int × JsonWriter := w.end_ 93

/-- `JsonWriter::PushBack` of a string (`rapidjson_util.cpp:266-296`). -/
def pushBackString (key value : Option (List UInt8)) : Int × JsonWriter :=
  match value with
  | none => (-1, w)
  | some value => w.push key (34 :: (escapeString (some value) ++ [34]))

/-- `JsonWriter::PushBack` of an `int` (`rapidjson_util.cpp:298-329`); `snprintf` leaves at most 14
bytes. -/
def pushBackInt (key : Option (List UInt8)) (value : Int32) : Int × JsonWriter :=
  w.push key ((Decimal.signed value.toInt).take 14)

end JsonWriter

/-- A call on a writer. -/
inductive WriterCall where
  | structBegin (name : Option (List UInt8))
  | structEnd
  | arrayBegin (name : Option (List UInt8))
  | arrayEnd
  | pushBackString (key value : Option (List UInt8))
  | pushBackInt (key : Option (List UInt8)) (value : Int32)

namespace WriterCall

def step (w : JsonWriter) : WriterCall → Int × JsonWriter
  | .structBegin name => w.structBegin name
  | .structEnd => w.structEnd
  | .arrayBegin name => w.arrayBegin name
  | .arrayEnd => w.arrayEnd
  | .pushBackString key value => w.pushBackString key value
  | .pushBackInt key value => w.pushBackInt key value

/-- The writer after the calls. -/
def perform (w : JsonWriter) (calls : List WriterCall) : JsonWriter :=
  calls.foldl (fun w call => (step w call).2) w

/-- What a writer that was built over an empty string has written. -/
def written (calls : List WriterCall) : List UInt8 :=
  ((perform ⟨some [], true⟩ calls).ptext).getD []

end WriterCall

/-! ## Trees -/

/-- A tree of strings, ints, and named or unnamed items: objects and arrays. The name of an item of
an array is not used. -/
inductive JsonTree where
  | str (s : List UInt8)
  | int (n : Int32)
  | node (named : Bool) (items : List (List UInt8 × JsonTree))

namespace JsonTree

open WriterCall

mutual

/-- The value that the tree is. -/
def toJson : JsonTree → Json
  | str s => .str s
  | int n => .int n.toInt
  | node named items => Json.ofItems named (itemsToJson named items)

def itemsToJson (named : Bool) : List (List UInt8 × JsonTree) → Json.Items
  | [] => []
  | (name, t) :: items => (if named then name else [], toJson t) :: itemsToJson named items

end

/-- The key of an item. -/
def key? (named : Bool) (name : List UInt8) : Option (List UInt8) :=
  if named then some name else none

mutual

/-- The calls that write the tree under a key. -/
def calls (key : Option (List UInt8)) : JsonTree → List WriterCall
  | str s => [.pushBackString key (some s)]
  | int n => [.pushBackInt key n]
  | node named items =>
    (if named then .structBegin key else .arrayBegin key) ::
      (itemsCalls named items ++ [if named then .structEnd else .arrayEnd])

def itemsCalls (named : Bool) : List (List UInt8 × JsonTree) → List WriterCall
  | [] => []
  | (name, t) :: items => calls (key? named name) t ++ itemsCalls named items

end

/-- The text that the calls for the tree write. -/
def written (t : JsonTree) : List UInt8 := WriterCall.written (t.calls none)

mutual

/-- Nothing was pushed since the last bracket that the calls for the tree open: it is an empty node
or its last item ends empty. -/
def endsEmpty : JsonTree → Bool
  | str _ => false
  | int _ => false
  | node _ items => itemsEndEmpty true items

def itemsEndEmpty (first : Bool) : List (List UInt8 × JsonTree) → Bool
  | [] => first
  | (_, t) :: items => itemsEndEmpty (endsEmpty t) items

end

mutual

/-- Nothing that ends empty has a sibling behind it. -/
def Spaced : JsonTree → Prop
  | str _ => True
  | int _ => True
  | node _ items => ItemsSpaced items

def ItemsSpaced : List (List UInt8 × JsonTree) → Prop
  | [] => True
  | (_, t) :: items => Spaced t ∧ (items ≠ [] → endsEmpty t = false) ∧ ItemsSpaced items

end

end JsonTree

/-! ## Strings between quotes -/

/-- A string that a call puts between quotes: through `EscapeString`, or as it is. -/
inductive Quoted where
  | escaped (s : List UInt8)
  | raw (s : List UInt8)

namespace Quoted

def original : Quoted → List UInt8
  | escaped s => s
  | raw s => s

/-- What is put between the quotes. -/
def literal : Quoted → List UInt8
  | escaped s => JsonWriter.escapeString (some s)
  | raw s => s

/-- `EscapeString` passes on backslashes and control characters and cuts what has no `int` length;
without it quotes are passed on too. -/
def Clean : Quoted → Prop
  | escaped s => s.length < 2 ^ 31 ∧ ∀ c ∈ s, c ≠ 92 ∧ ¬ c < 32
  | raw s => ∀ c ∈ s, c ≠ 34 ∧ c ≠ 92 ∧ ¬ c < 32

end Quoted

/-- The strings that a call puts between quotes. -/
def WriterCall.quoted : WriterCall → List Quoted
  | .structBegin name => (name.map Quoted.raw).toList
  | .arrayBegin name => (name.map Quoted.raw).toList
  | .pushBackString key (some value) => (key.map Quoted.escaped).toList ++ [.escaped value]
  | .pushBackInt key _ => (key.map Quoted.escaped).toList
  | _ => []

namespace JsonTree

/-- The strings that the calls for the tree put between quotes. -/
def quoted (t : JsonTree) : List Quoted := (t.calls none).flatMap WriterCall.quoted

/-- Every string of the tree comes out of a parser as it went in. -/
def Clean (t : JsonTree) : Prop := ∀ q ∈ t.quoted, q.Clean

end JsonTree

/-! ## Strings between quotes: what is appended -/

namespace Quoted

open Json (byteCost stringCost)
open JsonWriter (escapeByte)

theorem length_escapeByte (c : UInt8) : (escapeByte c).length ≤ byteCost c ∧
    (byteCost c ≤ (escapeByte c).length → c ≠ 92 ∧ ¬ c < 32) := by
  unfold escapeByte
  by_cases hquote : c = 34
  · rw [hquote]
    exact ⟨le_refl 2, fun _ => ⟨by decide, by decide⟩⟩
  · rw [if_neg hquote]
    constructor
    · exact Json.one_le_byteCost c
    · intro hle
      exact (Json.byteCost_eq_one.mp (le_antisymm hle (Json.one_le_byteCost c))).2

theorem length_escaped (s : List UInt8) : (s.flatMap escapeByte).length ≤ stringCost s ∧
    (stringCost s ≤ (s.flatMap escapeByte).length → ∀ c ∈ s, c ≠ 92 ∧ ¬ c < 32) := by
  induction s with
  | nil => simp
  | cons c s ih =>
    have hbyte := length_escapeByte c
    rw [List.flatMap_cons, List.length_append, Json.stringCost_cons]
    constructor
    · omega
    · intro hle x hx
      obtain rfl | hx := List.mem_cons.mp hx
      · exact hbyte.2 (by omega)
      · exact ih.2 (by omega) x hx

theorem length_raw (s : List UInt8) (hle : stringCost s ≤ s.length) : ∀ c ∈ s, byteCost c = 1 := by
  induction s with
  | nil => simp
  | cons c s ih =>
    have hc := Json.one_le_byteCost c
    have hs := Json.length_le_stringCost s
    rw [Json.stringCost_cons, List.length_cons] at hle
    intro x hx
    obtain rfl | hx := List.mem_cons.mp hx
    · omega
    · exact ih (by omega) x hx

theorem escapeString_some (s : List UInt8) :
    JsonWriter.escapeString (some s) =
      (s.take (CInt.int32 s.length).toNat).flatMap escapeByte := rfl

theorem stringCost_take_add_drop (s : List UInt8) (k : Nat) :
    stringCost (s.take k) + stringCost (s.drop k) = stringCost s := by
  rw [← Json.stringCost_append, List.take_append_drop]

/-- What is put between the quotes is not too long. -/
theorem length_literal_le (q : Quoted) : q.literal.length ≤ stringCost q.original := by
  cases q with
  | raw s => exact Json.length_le_stringCost s
  | escaped s =>
    have htake := (length_escaped (s.take (CInt.int32 s.length).toNat)).1
    have hsplit := stringCost_take_add_drop s (CInt.int32 s.length).toNat
    rw [literal, original, escapeString_some]
    omega

/-- It is too short unless the string is clean. -/
theorem clean_of_le {q : Quoted} (hle : stringCost q.original ≤ q.literal.length) : q.Clean := by
  cases q with
  | raw s =>
    intro c hc
    exact Json.byteCost_eq_one.mp (length_raw s hle c hc)
  | escaped s =>
    have hescaped := length_escaped (s.take (CInt.int32 s.length).toNat)
    have hsplit := stringCost_take_add_drop s (CInt.int32 s.length).toNat
    have hdrop := Json.length_le_stringCost (s.drop (CInt.int32 s.length).toNat)
    have hint := CInt.int32_lt s.length
    rw [literal, original, escapeString_some] at hle
    rw [List.length_drop] at hdrop
    have hlen : s.length ≤ (CInt.int32 s.length).toNat := by omega
    rw [List.take_of_length_le hlen] at hescaped hle
    exact ⟨by omega, hescaped.2 hle⟩

theorem scanString_escaped {s : List UInt8} (hs : ∀ c ∈ s, c ≠ 92 ∧ ¬ c < 32) (r : List UInt8) :
    Json.scanString (s.flatMap escapeByte ++ 34 :: r) = some (s, r) := by
  induction s with
  | nil => exact Json.scanString_quote r
  | cons c s ih =>
    have hrest := ih fun c hc => hs c (List.mem_cons_of_mem _ hc)
    rw [List.flatMap_cons, List.append_assoc]
    by_cases hquote : c = 34
    · rw [hquote, escapeByte, if_pos rfl, List.cons_append, List.cons_append, List.nil_append,
        Json.scanString_escapedQuote, hrest]
      rfl
    · have hc := Json.byteCost_eq_one.mpr ⟨hquote, hs c List.mem_cons_self⟩
      rw [escapeByte, if_neg hquote, List.cons_append, List.nil_append, Json.scanString_plain hc,
        hrest]
      rfl

/-- A clean string is what a parser makes of its literal. -/
theorem scanString_literal {q : Quoted} (hq : q.Clean) (r : List UInt8) :
    Json.scanString (q.literal ++ 34 :: r) = some (q.original, r) := by
  cases q with
  | raw s => exact Json.scanString_of_plain (fun c hc => Json.byteCost_eq_one.mpr (hq c hc)) r
  | escaped s =>
    obtain ⟨hlen, hs⟩ := hq
    have hint : (CInt.int32 s.length).toNat = s.length := by
      rw [CInt.int32_of_range (by omega) (by omega), Int.toNat_natCast]
    rw [literal, original, escapeString_some, hint, List.take_length]
    exact scanString_escaped hs r

end Quoted

/-! ## The text of a tree -/

namespace JsonTree

open JsonWriter (separator tag)
open WriterCall (perform)

/-- How the name of an item is written: only `PushBack` escapes it. -/
def nameQuoted (name : List UInt8) : JsonTree → Quoted
  | node _ _ => .raw name
  | _ => .escaped name

mutual

def text : JsonTree → List UInt8
  | str s => 34 :: ((Quoted.escaped s).literal ++ [34])
  | int n => Decimal.signed n.toInt
  | node named items =>
    Json.opening named :: (itemsText named true items ++ [Json.closing named])

/-- The items, behind something that was pushed or not. -/
def itemsText (named first : Bool) : List (List UInt8 × JsonTree) → List UInt8
  | [] => []
  | (name, t) :: items =>
    separator first ++ tag ((key? named name).map fun name => (nameQuoted name t).literal) ++
      text t ++ itemsText named (endsEmpty t) items

end

/-- `int_str` is long enough for every `int`. -/
theorem take_signed (n : Int32) : (Decimal.signed n.toInt).take 14 = Decimal.signed n.toInt := by
  apply List.take_of_length_le
  have hlo := n.le_toInt
  have hhi := n.toInt_lt
  have htext : (Decimal.text n.toInt.natAbs).length ≤ 10 := Decimal.length_text_le (by omega)
  unfold Decimal.signed
  split_ifs
  · rw [List.length_cons]
    omega
  · omega

theorem perform_append (w : JsonWriter) (l l' : List WriterCall) :
    perform w (l ++ l') = perform (perform w l) l' :=
  List.foldl_append

mutual

/-- What the calls for a tree do to the string and to the flag. -/
theorem perform_calls (t : JsonTree) (key : Option (List UInt8)) (s : List UInt8) (first : Bool) :
    perform ⟨some s, first⟩ (t.calls key) =
      ⟨some (s ++ separator first ++ tag (key.map fun name => (nameQuoted name t).literal) ++
        t.text), t.endsEmpty⟩ := by
  match t with
  | str value => rfl
  | int n =>
    rw [text, ← take_signed n]
    rfl
  | node named items =>
    have hitems := perform_itemsCalls items named
      (s ++ separator first ++ tag key ++ [Json.opening named]) true
    have htag : (key.map fun name => (nameQuoted name (node named items)).literal) = key := by
      cases key <;> rfl
    have hbegin : perform ⟨some s, first⟩
        [if named then WriterCall.structBegin key else WriterCall.arrayBegin key] =
        ⟨some (s ++ separator first ++ tag key ++ [Json.opening named]), true⟩ := by
      cases named <;> rfl
    have hend : ∀ s first, perform ⟨some s, first⟩
        [if named then WriterCall.structEnd else WriterCall.arrayEnd] =
        ⟨some (s ++ [Json.closing named]), first⟩ := by
      intro s first
      cases named <;> rfl
    rw [calls, ← List.singleton_append, perform_append, perform_append, hbegin, hitems, hend, text,
      endsEmpty, htag]
    simp only [List.append_assoc, List.cons_append, List.nil_append]

theorem perform_itemsCalls (items : List (List UInt8 × JsonTree)) (named : Bool) (s : List UInt8)
    (first : Bool) :
    perform ⟨some s, first⟩ (itemsCalls named items) =
      ⟨some (s ++ itemsText named first items), itemsEndEmpty first items⟩ := by
  match items with
  | [] => simp [itemsCalls, itemsText, itemsEndEmpty, perform]
  | (name, t) :: items =>
    rw [itemsCalls, perform_append, perform_calls t, perform_itemsCalls items, itemsText,
      itemsEndEmpty]
    simp only [List.append_assoc]

end

theorem written_eq_text (t : JsonTree) : t.written = t.text := by
  rw [written, WriterCall.written, perform_calls]
  rfl

/-! ### The strings of the parts -/

/-- The strings of the items. -/
def itemsQuoted (named : Bool) (items : List (List UInt8 × JsonTree)) : List Quoted :=
  (itemsCalls named items).flatMap WriterCall.quoted

/-- A key is one more string. -/
theorem quoted_calls (t : JsonTree) (key : Option (List UInt8)) :
    (t.calls key).flatMap WriterCall.quoted =
      (key.map fun name => nameQuoted name t).toList ++ t.quoted := by
  cases t with
  | str s => cases key <;> rfl
  | int n => cases key <;> rfl
  | node named items =>
    cases named <;> cases key <;> rfl

theorem quoted_node (named : Bool) (items : List (List UInt8 × JsonTree)) :
    (node named items).quoted = itemsQuoted named items := by
  cases named <;> simp [quoted, calls, itemsQuoted, WriterCall.quoted]

theorem itemsQuoted_cons (named : Bool) (name : List UInt8) (t : JsonTree)
    (items : List (List UInt8 × JsonTree)) :
    itemsQuoted named ((name, t) :: items) =
      ((key? named name).map fun name => nameQuoted name t).toList ++ t.quoted ++
        itemsQuoted named items := by
  rw [itemsQuoted, itemsCalls, List.flatMap_append, quoted_calls]
  rfl

theorem original_nameQuoted (name : List UInt8) (t : JsonTree) :
    (nameQuoted name t).original = name := by
  cases t <;> rfl

/-! ### What the parser makes of it -/

/-- No value starts with white space or with a bracket that closes. -/
theorem head_text (t : JsonTree) :
    ∃ c s, t.text = c :: s ∧ Json.isWs c = false ∧ c ≠ 93 ∧ c ≠ 125 := by
  cases t with
  | str s => exact ⟨34, _, rfl, rfl, by decide, by decide⟩
  | int n =>
    obtain ⟨c, l, hsigned, hc⟩ := Json.head_signed n.toInt
    obtain ⟨_, _, _, _, _, _, h93, h125, hws⟩ := Json.ne_of_starts_number hc
    exact ⟨c, l, hsigned, hws, h93, h125⟩
  | node named items =>
    refine ⟨Json.opening named, _, rfl, ?_⟩
    cases named <;> decide

/-- No item does either. -/
theorem head_itemsText {items : List (List UInt8 × JsonTree)} (hne : items ≠ []) (named : Bool) :
    ∃ c s, itemsText named true items = c :: s ∧ Json.isWs c = false ∧
      c ≠ Json.closing named := by
  cases items with
  | nil => exact absurd rfl hne
  | cons item items =>
    obtain ⟨name, t⟩ := item
    cases named with
    | true => exact ⟨34, _, rfl, rfl, by decide⟩
    | false =>
      obtain ⟨c, s, htext, hws, h93, _⟩ := head_text t
      refine ⟨c, s ++ itemsText false t.endsEmpty items, ?_, hws, h93⟩
      rw [itemsText, htext]
      rfl

theorem itemsText_false {items : List (List UInt8 × JsonTree)} (hne : items ≠ []) (named : Bool) :
    itemsText named false items = 44 :: itemsText named true items := by
  cases items with
  | nil => exact absurd rfl hne
  | cons item items => rfl

/-- The name of an item and its colon, or nothing. -/
theorem scanTag_item {named : Bool} {name : List UInt8} {t : JsonTree}
    (hclean : ∀ name' ∈ key? named name, (nameQuoted name' t).Clean) (r : List UInt8) :
    Json.scanTag named
        (tag ((key? named name).map fun name => (nameQuoted name t).literal) ++ (t.text ++ r)) =
      some (if named then name else [], t.text ++ r) := by
  cases named with
  | false => rfl
  | true =>
    obtain ⟨c, s, htext, hws, _⟩ := head_text t
    have hscan := Quoted.scanString_literal (hclean name rfl) (58 :: c :: (s ++ r))
    rw [original_nameQuoted] at hscan
    rw [htext, List.cons_append]
    show Json.scanName (34 :: (((nameQuoted name t).literal ++ [34, 58]) ++ c :: (s ++ r))) = _
    rw [List.append_assoc]
    exact Json.scanName_written hscan hws

mutual

/-- A tree that is spaced and clean is what its text stands for. -/
theorem parse_text (t : JsonTree) {fuel : Nat} {r : List UInt8} (hspaced : t.Spaced)
    (hclean : t.Clean) (hr : Json.EndsNumber r) (hfuel : 2 * t.text.length < fuel) :
    Json.parseValue fuel (t.text ++ r) = some (t.toJson, r) := by
  obtain ⟨fuel, rfl⟩ := Nat.exists_eq_add_one.mpr (Nat.zero_lt_of_lt hfuel)
  match t with
  | str s =>
    have hscan := Quoted.scanString_literal (hclean (.escaped s) List.mem_cons_self) r
    rw [text, List.cons_append, List.append_assoc]
    exact Json.parseValue_str hscan fuel
  | int n => exact Json.parseValue_int n.toInt hr fuel
  | node named [] => exact Json.parseValue_empty named fuel r
  | node named (item :: items) =>
    obtain ⟨c, s, hhead, hws, hclosing⟩ := head_itemsText (List.cons_ne_nil item items) named
    have hquoted : ∀ q ∈ itemsQuoted named (item :: items), q.Clean := by
      rw [← quoted_node]
      exact hclean
    have hlen : 2 * (itemsText named true (item :: items)).length + 1 < fuel := by
      rw [text, List.length_cons, List.length_append] at hfuel
      omega
    have hitems := parse_itemsText (item :: items) named r (List.cons_ne_nil item items) hspaced
      hquoted hlen
    rw [hhead, List.cons_append] at hitems
    rw [text, hhead, List.cons_append, List.cons_append, List.cons_append, List.append_assoc]
    exact Json.parseValue_items hws hclosing hitems

theorem parse_itemsText (items : List (List UInt8 × JsonTree)) {fuel : Nat} (named : Bool)
    (r : List UInt8) (hne : items ≠ []) (hspaced : ItemsSpaced items)
    (hclean : ∀ q ∈ itemsQuoted named items, q.Clean)
    (hfuel : 2 * (itemsText named true items).length + 1 < fuel) :
    Json.parseItems fuel named (itemsText named true items ++ Json.closing named :: r) =
      some (itemsToJson named items, r) := by
  obtain ⟨fuel, rfl⟩ := Nat.exists_eq_add_one.mpr (Nat.zero_lt_of_lt hfuel)
  match items with
  | [] => exact absurd rfl hne
  | (name, t) :: items =>
    obtain ⟨ht, hends, hitems⟩ := hspaced
    rw [itemsQuoted_cons] at hclean
    have hname : ∀ name' ∈ key? named name, (nameQuoted name' t).Clean := fun name' hname' =>
      hclean _ (by simp [Option.mem_def.mp hname'])
    have htag := scanTag_item hname
    have hlen : 2 * t.text.length + 2 * (itemsText named t.endsEmpty items).length < fuel := by
      rw [itemsText, List.length_append, List.length_append] at hfuel
      omega
    have htree : ∀ r, Json.EndsNumber r →
        Json.parseValue fuel (t.text ++ r) = some (t.toJson, r) := fun r hr =>
      parse_text t ht (fun q hq => hclean q (by simp [hq])) hr (by omega)
    rw [itemsText, itemsToJson]
    simp only [List.append_assoc]
    show Json.parseItems (fuel + 1) named (tag _ ++ _) = _
    match items with
    | [] => exact Json.parseItems_last (htag _) (htree _ (Json.endsNumber_closing named r))
    | item :: items =>
      have hne := List.cons_ne_nil item items
      obtain ⟨c, s, hhead, hws, _⟩ := head_itemsText hne named
      have hfuel' : 2 * (itemsText named true (item :: items)).length + 1 < fuel := by
        rw [hends hne, itemsText_false hne, List.length_cons] at hlen
        omega
      have hrest := parse_itemsText (item :: items) named r hne hitems
        (fun q hq => hclean q (by simp [hq])) hfuel'
      rw [hends hne, itemsText_false hne, hhead, List.cons_append, List.cons_append]
      rw [hhead, List.cons_append] at hrest
      rw [Json.parseItems_comma hws (htag _) (htree _ (Json.endsNumber_comma _)), hrest]
      rfl

end

/-! ### How long it is -/

theorem length_tag_item (named : Bool) (name : List UInt8) (t : JsonTree) :
    (tag ((key? named name).map fun name => (nameQuoted name t).literal)).length ≤
        Json.tagCost named (if named then name else []) ∧
      (Json.tagCost named (if named then name else []) ≤
          (tag ((key? named name).map fun name => (nameQuoted name t).literal)).length →
        ∀ q ∈ ((key? named name).map fun name => nameQuoted name t).toList, q.Clean) := by
  cases named with
  | false => simp [key?, tag]
  | true =>
    have hle := Quoted.length_literal_le (nameQuoted name t)
    have hlen : (tag ((key? true name).map fun name => (nameQuoted name t).literal)).length =
        (nameQuoted name t).literal.length + 3 := by
      simp [key?, tag]
    rw [original_nameQuoted] at hle
    rw [hlen, Json.tagCost, if_pos rfl, if_pos rfl]
    constructor
    · omega
    · intro hcost q hq
      obtain rfl : q = nameQuoted name t := List.mem_singleton.mp hq
      apply Quoted.clean_of_le
      rw [original_nameQuoted]
      omega

theorem length_separator (first : Bool) :
    (separator first).length + (if first then 1 else 0) = 1 := by
  cases first <;> rfl

mutual

/-- The text is not too long for the tree, and too short unless the tree is spaced and clean: each
missing comma and each missing escape is a byte. -/
theorem length_text (t : JsonTree) : t.text.length ≤ Json.cost t.toJson ∧
    (Json.cost t.toJson ≤ t.text.length → t.Spaced ∧ t.Clean) := by
  match t with
  | str s =>
    have hle := Quoted.length_literal_le (.escaped s)
    rw [text, toJson, Json.cost, List.length_cons, List.length_append]
    refine ⟨Nat.add_le_add_right hle 2, fun hcost => ⟨trivial, fun q hq => ?_⟩⟩
    obtain rfl : q = .escaped s := List.mem_singleton.mp hq
    exact Quoted.clean_of_le (Nat.le_of_add_le_add_right hcost)
  | int n => exact ⟨le_refl _, fun _ => ⟨trivial, fun q hq => by cases hq⟩⟩
  | node named [] =>
    rw [toJson, Json.cost_ofItems]
    refine ⟨le_refl 2, fun _ => ⟨trivial, fun q hq => ?_⟩⟩
    rw [quoted_node] at hq
    cases hq
  | node named (item :: items) =>
    obtain ⟨hle, hclean⟩ := length_itemsText (item :: items) named true (List.cons_ne_nil item items)
    rw [if_pos rfl] at hle hclean
    rw [text, toJson, Json.cost_ofItems, List.length_cons, List.length_append, List.length_singleton]
    constructor
    · omega
    · intro hcost
      obtain ⟨hspaced, hquoted⟩ := hclean (by omega)
      refine ⟨hspaced, fun q hq => hquoted q ?_⟩
      rw [← quoted_node]
      exact hq

theorem length_itemsText (items : List (List UInt8 × JsonTree)) (named first : Bool)
    (hne : items ≠ []) :
    (itemsText named first items).length + (if first then 1 else 0) ≤
        Json.itemsCost named (itemsToJson named items) ∧
      (Json.itemsCost named (itemsToJson named items) ≤
          (itemsText named first items).length + (if first then 1 else 0) →
        ItemsSpaced items ∧ ∀ q ∈ itemsQuoted named items, q.Clean) := by
  match items with
  | [] => exact absurd rfl hne
  | (name, t) :: items =>
    obtain ⟨htext, htree⟩ := length_text t
    obtain ⟨htag, hname⟩ := length_tag_item named name t
    have hseparator := length_separator first
    rw [itemsText, itemsToJson, Json.itemsCost, itemsQuoted_cons]
    simp only [List.length_append]
    match items with
    | [] =>
      rw [itemsText, itemsToJson, Json.itemsCost, List.length_nil]
      constructor
      · omega
      · intro hcost
        obtain ⟨hspaced, hclean⟩ := htree (by omega)
        refine ⟨⟨hspaced, fun h => absurd rfl h, trivial⟩, fun q hq => ?_⟩
        obtain hq | hq := List.mem_append.mp hq
        · obtain hq | hq := List.mem_append.mp hq
          · exact hname (by omega) q hq
          · exact hclean q hq
        · cases hq
    | item :: items =>
      obtain ⟨hle, hrest⟩ := length_itemsText (item :: items) named t.endsEmpty
        (List.cons_ne_nil item items)
      constructor
      · omega
      · intro hcost
        obtain ⟨hspaced, hclean⟩ := htree (by omega)
        obtain ⟨hspacedItems, hcleanItems⟩ := hrest (by omega)
        have hends : t.endsEmpty = false := by
          by_contra hempty
          rw [if_pos (Bool.eq_true_of_not_eq_false hempty)] at hle
          omega
        refine ⟨⟨hspaced, fun _ => hends, hspacedItems⟩, fun q hq => ?_⟩
        obtain hq | hq := List.mem_append.mp hq
        · obtain hq | hq := List.mem_append.mp hq
          · exact hname (by omega) q hq
          · exact hclean q hq
        · exact hcleanItems q hq

end

/-! ### Reading it back -/

theorem parse_text_alone (t : JsonTree) (hspaced : t.Spaced) (hclean : t.Clean) :
    Json.parse t.text = some t.toJson := by
  have hvalue := parse_text t (r := []) hspaced hclean (fun c hc => by cases hc)
    (Nat.lt_succ_self (2 * t.text.length))
  obtain ⟨c, s, hhead, hws, _⟩ := head_text t
  have hskip : Json.skipWs t.text = t.text := by
    rw [hhead, Json.skipWs_cons hws]
  rw [List.append_nil] at hvalue
  rw [Json.parse, hskip, hvalue]
  rfl

/-- Exactly the trees that are spaced and clean come back from what was written for them. -/
theorem parse_written_iff (t : JsonTree) :
    Json.parse t.written = some t.toJson ↔ t.Spaced ∧ t.Clean := by
  rw [written_eq_text]
  constructor
  · intro hparse
    exact (length_text t).2 (Json.cost_le_of_parse hparse)
  · intro ⟨hspaced, hclean⟩
    exact parse_text_alone t hspaced hclean

/-! ## Names and strings of letters and digits -/

/-- The names and strings of the tree consist of letters and digits. -/
def Alphanumeric (t : JsonTree) : Prop :=
  ∀ q ∈ t.quoted, ∀ c ∈ q.original, 48 ≤ c ∧ c ≤ 57 ∨ 65 ≤ c ∧ c ≤ 90 ∨ 97 ≤ c ∧ c ≤ 122

/-- What goes through `EscapeString` has a length that is an `int`. -/
def Short (t : JsonTree) : Prop := ∀ s, .escaped s ∈ t.quoted → s.length < 2 ^ 31

theorem plain_of_alphanumeric {c : UInt8}
    (hc : 48 ≤ c ∧ c ≤ 57 ∨ 65 ≤ c ∧ c ≤ 90 ∨ 97 ≤ c ∧ c ≤ 122) :
    c ≠ 34 ∧ c ≠ 92 ∧ ¬ c < 32 := by
  simp only [UInt8.le_iff_toNat_le, UInt8.lt_iff_toNat_lt, ne_eq, ← UInt8.toNat_inj,
    UInt8.reduceToNat] at *
  omega

theorem clean_iff_short {t : JsonTree} (h : t.Alphanumeric) : t.Clean ↔ t.Short := by
  constructor
  · intro hclean s hs
    exact (hclean _ hs).1
  · intro hshort q hq
    cases q with
    | escaped s =>
      exact ⟨hshort s hq, fun c hc => (plain_of_alphanumeric (h _ hq c hc)).2⟩
    | raw s => exact fun c hc => plain_of_alphanumeric (h _ hq c hc)

/-- The calls for a tree write JSON that denotes it, exactly if nothing that ends empty has a sibling
behind it. -/
theorem written_denotes_iff {t : JsonTree} (h : t.Alphanumeric) :
    Json.parse t.written = some t.toJson ↔ t.Spaced ∧ t.Short := by
  rw [parse_written_iff, clean_iff_short h]

/-- `{"a":[7,{"b":"x"}],"c":[]}`. -/
theorem written_denotes_iff_nested :
    Json.parse (written (node true
      [([97], node false [([], int 7), ([], node true [([98], str [120])])]),
        ([99], node false [])])) =
      some (.obj [([97], .arr [.int 7, .obj [([98], .str [120])]]), ([99], .arr [])]) := by
  apply (written_denotes_iff ?_).mpr
  · constructor
    · simp [Spaced, ItemsSpaced, endsEmpty, itemsEndEmpty]
    · intro s hs
      simp [quoted, calls, itemsCalls, key?, WriterCall.quoted] at hs
      obtain rfl | rfl := hs <;> simp
  · intro q hq
    simp [quoted, calls, itemsCalls, key?, WriterCall.quoted] at hq
    obtain rfl | rfl | rfl | rfl := hq <;> simp [Quoted.original]

/-- `{"a":{}"b":1}`. -/
theorem comma_missing_behind_empty :
    ∃ t : JsonTree, t.Alphanumeric ∧
      t.written = [123, 34, 97, 34, 58, 123, 125, 34, 98, 34, 58, 49, 125] ∧
      Json.parse t.written ≠ some t.toJson := by
  refine ⟨node true [([97], node true []), ([98], int 1)], ?_, by rfl, ?_⟩
  · intro q hq
    simp [quoted, calls, itemsCalls, key?, WriterCall.quoted] at hq
    obtain rfl | rfl := hq <;> simp [Quoted.original]
  · intro hparse
    have hnone : Json.parse [123, 34, 97, 34, 58, 123, 125, 34, 98, 34, 58, 49, 125] = none := by
      rfl
    cases hnone.symm.trans hparse

end JsonTree

end Rapidapp
