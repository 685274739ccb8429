import Rapidapp.Utils.JsonReader
import Rapidapp.Utils.JsonWriter

/-!
# Strings through the writer and the reader

Which strings `JsonWriter` puts between quotes such that a parser, and with it `JsonReader`, gives
them back.
-/

namespace Rapidapp

open JsonWriter (escapeString)
open WriterCall (written)

/-- Between quotes the bytes are a literal of the string, and it ends at the closing quote, whatever
follows. -/
def Decodes (literal s : List UInt8) : Prop :=
  ∀ rest, Json.scanString (literal ++ 34 :: rest) = some (s, rest)

/-- The calls for the tree put no other strings between quotes than these. -/
def JsonTree.Uses (key value structName arrayName : List UInt8) (t : JsonTree) : Prop :=
  ∀ q ∈ t.quoted,
    q = .escaped key ∨ q = .escaped value ∨ q = .raw structName ∨ q = .raw arrayName

/-- `{structName:{key:value},arrayName:[value]}`. -/
def stringCalls (key value structName arrayName : List UInt8) : List WriterCall :=
  [.structBegin none,
    .structBegin (some structName), .pushBackString (some key) (some value), .structEnd,
    .arrayBegin (some arrayName), .pushBackString none (some value), .arrayEnd,
    .structEnd]

/-- What `PushBack`, `StructBegin` and `ArrayBegin` put between quotes decodes to the strings, in no
document they change the structure, and `JsonReader` finds the key and the value again. -/
structure RoundTrip (key value structName arrayName : List UInt8) : Prop where
  decodesKey : Decodes (escapeString (some key)) key
  decodesValue : Decodes (escapeString (some value)) value
  decodesStructName : Decodes structName structName
  decodesArrayName : Decodes arrayName arrayName
  tree : ∀ t : JsonTree, t.Spaced → t.Uses key value structName arrayName →
    Json.parse t.written = some t.toJson
  reader : ∃ r r', JsonReader.parse Json.parse
      (written (stringCalls key value structName arrayName)) = some r ∧
    r.enter (some structName) = some (0, r') ∧
    ∀ output, r'.getValueString (some key) output = some (0, value)

/-! ## Literals -/

theorem decodes_iff (q : Quoted) : Decodes q.literal q.original ↔ q.Clean := by
  constructor
  · intro h
    have hcost := Json.stringCost_scanString (h [])
    apply Quoted.clean_of_le
    rw [List.length_append, List.length_singleton, List.length_nil] at hcost
    omega
  · intro hq rest
    exact Quoted.scanString_literal hq rest

/-! ## The document -/

section Document

variable {key value structName arrayName : List UInt8}

/-- The tree that `stringCalls` writes. -/
def stringTree (key value structName arrayName : List UInt8) : JsonTree :=
  .node true [(structName, .node true [(key, .str value)]),
    (arrayName, .node false [([], .str value)])]

theorem calls_stringTree :
    (stringTree key value structName arrayName).calls none =
      stringCalls key value structName arrayName := rfl

theorem uses_stringTree :
    (stringTree key value structName arrayName).Uses key value structName arrayName := by
  intro q hq
  rw [JsonTree.quoted, calls_stringTree] at hq
  simp [stringCalls, WriterCall.quoted] at hq
  tauto

theorem spaced_stringTree : (stringTree key value structName arrayName).Spaced := by
  simp [stringTree, JsonTree.Spaced, JsonTree.ItemsSpaced, JsonTree.endsEmpty,
    JsonTree.itemsEndEmpty]

/-- The `const char*` of a clean string is the whole string. -/
theorem ne_zero_of_clean (hvalue : (Quoted.escaped value).Clean) : ∀ c ∈ value, ¬ c = 0 := by
  intro c hc hzero
  exact (hvalue.2 c hc).2 (hzero ▸ by decide)

/-- The reader on the document. -/
theorem reader_stringTree (hvalue : (Quoted.escaped value).Clean)
    (hparse : Json.parse (stringTree key value structName arrayName).written =
      some (stringTree key value structName arrayName).toJson) :
    ∃ r r', JsonReader.parse Json.parse
        (written (stringCalls key value structName arrayName)) = some r ∧
      r.enter (some structName) = some (0, r') ∧
      ∀ output, r'.getValueString (some key) output = some (0, value) := by
  have hobj : (stringTree key value structName arrayName).toJson =
      .obj [(structName, .obj [(key, .str value)]), (arrayName, .arr [.str value])] := rfl
  rw [hobj] at hparse
  refine ⟨_, ⟨.obj [(structName, .obj [(key, .str value)]), (arrayName, .arr [.str value])],
    .obj [(key, .str value)]⟩, congrArg (Option.map _) hparse, ?_, ?_⟩
  · simp [JsonReader.enter, RapidJson.hasMember, RapidJson.member, RapidJson.findMember,
      RapidJson.isObject]
  · intro output
    simp [JsonReader.getValueString, RapidJson.hasMember, RapidJson.member, RapidJson.findMember,
      RapidJson.isString, RapidJson.getString]
    exact ne_zero_of_clean hvalue

end Document

/-- Exactly the clean strings come back: `PushBack` takes no backslash, no control character and no
more bytes than an `int` counts, the names of structs and arrays moreover no quote. -/
theorem roundTrip_iff (key value structName arrayName : List UInt8) :
    RoundTrip key value structName arrayName ↔
      (Quoted.escaped key).Clean ∧ (Quoted.escaped value).Clean ∧
        (Quoted.raw structName).Clean ∧ (Quoted.raw arrayName).Clean := by
  constructor
  · intro h
    exact ⟨(decodes_iff (.escaped key)).mp h.decodesKey, (decodes_iff (.escaped value)).mp h.decodesValue,
      (decodes_iff (.raw structName)).mp h.decodesStructName,
      (decodes_iff (.raw arrayName)).mp h.decodesArrayName⟩
  · intro ⟨hkey, hvalue, hstruct, harray⟩
    have htree : ∀ t : JsonTree, t.Spaced → t.Uses key value structName arrayName →
        Json.parse t.written = some t.toJson := by
      intro t hspaced huses
      apply t.parse_written_iff.mpr
      refine ⟨hspaced, fun q hq => ?_⟩
      obtain rfl | rfl | rfl | rfl := huses q hq
      · exact hkey
      · exact hvalue
      · exact hstruct
      · exact harray
    exact ⟨(decodes_iff (.escaped key)).mpr hkey, (decodes_iff (.escaped value)).mpr hvalue,
      (decodes_iff (.raw structName)).mpr hstruct, (decodes_iff (.raw arrayName)).mpr harray,
      htree, reader_stringTree hvalue (htree _ spaced_stringTree uses_stringTree)⟩

/-- The value `a\`, and the struct name `a"b`: the literal does not end at its quote, or ends before
it. -/
theorem backslash_and_quote_break_out :
    ¬ RoundTrip [107] [97, 92] [115] [116] ∧ ¬ RoundTrip [107] [118] [97, 34, 98] [116] := by
  constructor
  · intro h
    cases h.decodesValue []
  · intro h
    cases h.decodesStructName []

end Rapidapp
