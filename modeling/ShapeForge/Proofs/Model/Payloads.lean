import ShapeForge.Proofs.Json.RoundTrip
import ShapeForge.Proofs.Model.Obtained

/-!
# The payloads of traits

A trait keeps its payload as JSON, and some traits are read as texts.  A text is read where the
payload is a string, or a number that JSON cannot spell.  Two payloads are read although they spell
no text: `null`, as the empty text, and a number whose own text is JSON for `null` or a string.
-/

namespace ShapeForge

open Document (Value)

namespace Trait

/-- What a value is can be told from its first character. -/
theorem text?_of_start {c : Char} (rest : List Char) (visible : Json.isSpace c = false)
    (noQuote : c ≠ '"') (noNull : c ≠ 'n') :
    text? (String.ofList (c :: rest)) = none := by
  have kept {value : Json} {after : List Char}
      (read : Json.readValue (2 * (c :: rest).length + 2) (c :: rest) = some (value, after)) :
      (∀ text, value ≠ .string text) ∧ value ≠ .null := by
    rw [Json.readValue, Json.skipSpace_cons rest visible] at read
    split at read
    case h_1 | h_4 | h_7 => simp_all
    case h_2 | h_3 =>
      split at read
      · cases read
        simp
      · rcases Option.bind_eq_some_iff.mp read with ⟨parts, -, made⟩
        cases made
        simp
    case h_5 | h_6 =>
      rcases Option.map_eq_some_iff.mp read with ⟨behind, -, made⟩
      cases made
      simp
    case h_8 =>
      rcases Option.bind_eq_some_iff.mp read with ⟨literal, -, made⟩
      cases made
      simp
  rw [text?, Json.read?, String.toList_ofList, Json.readChars?]
  cases read : Json.readValue (2 * (c :: rest).length + 2) (c :: rest) with
  | none => rfl
  | some found =>
    have others := kept read
    simp only [Option.bind_eq_bind, Option.bind_some]
    split
    case h_1 isString =>
      rw [Option.ite_none_right_eq_some, Option.some_inj] at isString
      exact absurd isString.2 (others.1 _)
    case h_2 isNull =>
      rw [Option.ite_none_right_eq_some, Option.some_inj] at isNull
      exact absurd isNull.2 others.2
    case h_3 => rfl

theorem text?_string (text : String) : text? (Json.write (.string text)) = some text := by
  have wellFormed : (Json.string text).WellFormed := by simp [Json.WellFormed, Json.literals]
  rw [text?, Json.read?_write .markup wellFormed]

end Trait

namespace Document.Value

/-- The text that a value spells: that of a string, or of a number that JSON cannot spell. -/
def spelled? : Value → Option String
  | .string _ text => some text
  | .number _ text => if Json.isJson text then none else some text
  | _ => none

/-- A value that is read as a text without spelling one. -/
def Misread : Value → Prop
  | .null _ _ => True
  | .number _ text =>
    Json.read? text = some .null ∨ ∃ content, Json.read? text = some (.string content)
  | _ => False

theorem text?_json_iff (value : Value) :
    Trait.text? value.json = value.spelled? ↔ ¬value.Misread := by
  cases value with
  | null => exact iff_of_false (show Trait.text? "null" ≠ none by decide) fun read => read trivial
  | bool position truth =>
    refine iff_of_true ?_ id
    cases truth <;> exact Trait.text?_of_start _ (by decide) (by decide) (by decide)
  | string position text => exact iff_of_true (Trait.text?_string text) id
  | array => exact iff_of_true (Trait.text?_of_start _ (by decide) (by decide) (by decide)) id
  | object => exact iff_of_true (Trait.text?_of_start _ (by decide) (by decide) (by decide)) id
  | number position text =>
    cases isRead : Json.read? text with
    | none =>
      simp [json, toJson, numberJson, isRead, spelled?, Json.isJson, Misread, Trait.text?_string]
    | some tree =>
      have written : (Value.number position text).json = text := by
        simp [json, toJson, numberJson, isRead, Json.write, Json.writeChars]
      cases tree <;> simp [written, Trait.text?, spelled?, Json.isJson, isRead, Misread]

end Document.Value

namespace Traits

variable {traits : Traits} {id : ShapeId} {payload : String}

/-- The payload of a trait, if it is given. -/
def payload? (traits : Traits) (id : ShapeId) : Option String :=
  (traits.get? id).map (·.payload)

/-- The accessors that read texts, with their traits. -/
def accessors : List (ShapeId × (Traits → Option String)) :=
  [(Trait.jsonName, jsonName?), (Trait.httpQuery, query?), (Trait.pattern, pattern?),
    (Trait.error, fault?)]

theorem text?_of_payload (stored : traits.payload? id = some payload) :
    traits.text? id = Trait.text? payload := by
  rcases Option.map_eq_some_iff.mp stored with ⟨trait, found, rfl⟩
  rw [text?, found, Option.bind_some]

theorem accessor_eq {entry : ShapeId × (Traits → Option String)} (isEntry : entry ∈ accessors) :
    entry.2 traits = traits.text? entry.1 := by
  simp only [accessors, List.mem_cons, List.not_mem_nil, or_false] at isEntry
  rcases isEntry with rfl | rfl | rfl | rfl <;> rfl

theorem value_of_enumMember {source : String} {container : ShapeId} {index : Nat} {key : String}
    {declared : Value} {member : EnumMember}
    (read : Load.enumMember source container false index key declared = .ok member)
    (stored : member.traits.payload? Trait.enumValue = some payload) :
    member.value = (Trait.text? payload).getD key := by
  rcases bind_eq_ok.mp read with ⟨attached, -, made⟩
  cases found : attached.get? Trait.enumValue with
  | none =>
    simp only [found] at made
    cases made
    simp [payload?, found] at stored
  | some trait =>
    simp only [found] at made
    cases made
    simp only [payload?, found, Option.map_some, Option.some_inj] at stored
    rw [← stored]

/-- The traits that are texts, and the values of enumerations, are read from a payload as what it
spells exactly if it is not misread. -/
theorem string_traits_read (value : Value) (traits : Traits) :
    (∀ id, traits.payload? id = some value.json →
        (traits.text? id = value.spelled? ↔ ¬value.Misread)) ∧
      (∀ entry ∈ accessors, traits.payload? entry.1 = some value.json →
        (entry.2 traits = value.spelled? ↔ ¬value.Misread)) ∧
      ∀ (source : String) (container : ShapeId) (index : Nat) (key : String) (declared : Value)
        (member : EnumMember),
        Load.enumMember source container false index key declared = .ok member →
          member.traits.payload? Trait.enumValue = some value.json →
          ¬value.Misread → member.value = value.spelled?.getD key := by
  have ofPayload {id : ShapeId} (stored : traits.payload? id = some value.json) :
      traits.text? id = value.spelled? ↔ ¬value.Misread := by
    rw [text?_of_payload stored]
    exact value.text?_json_iff
  refine ⟨fun _ => ofPayload, fun entry isEntry stored => ?_, ?_⟩
  · rw [accessor_eq isEntry]
    exact ofPayload stored
  · intro source container index key declared member read stored clear
    rw [value_of_enumMember read stored, value.text?_json_iff.mpr clear]

end Traits

/-- A price that is given a value as its serialized name. -/
def priced (value : Value) : Member where
  name := "price"
  container := ⟨"shop#Item"⟩
  target := .prelude "Integer"
  traits := [⟨Trait.jsonName, value.json⟩]

theorem string_traits_read_hex :
    (priced (.number {} "0x1F")).traits.payload? Trait.jsonName = some "\"0x1F\"" ∧
      ¬(Value.number {} "0x1F").Misread ∧
      (priced (.number {} "0x1F")).traits.jsonName? = some "0x1F" := by
  have stored : (priced (.number {} "0x1F")).traits.payload? Trait.jsonName =
      some (Value.number {} "0x1F").json := by decide
  have unread : Json.read? "0x1F" = none := by decide
  have clear : ¬(Value.number {} "0x1F").Misread := by simp [Value.Misread, unread]
  refine ⟨stored.trans (by decide), clear, ?_⟩
  have read := (Traits.string_traits_read (.number {} "0x1F") (priced _).traits).1 _ stored
  exact (read.mpr clear).trans (by decide)

/-- A name that is `null` is present, and empties the serialized name. -/
theorem null_read_priced :
    (Value.null {} "null").spelled? = none ∧
      (priced (.null {} "null")).traits.jsonName? = some "" ∧
      (priced (.null {} "null")).jsonName = "" ∧
      ¬(priced (.null {} "null")).traits.jsonName? = (Value.null {} "null").spelled? := by
  decide

end ShapeForge
