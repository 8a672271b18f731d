import ShapeForge.Proofs.Json.RoundTrip
import ShapeForge.Proofs.Mock.Synthesized

/-!
# The JSON of an instance

`MockValue.toJson` is the JSON value that an instance stands for.  The text of an instance is the
text of that value, and is read back as it, for every instance in which all numbers are finite and
all kinds are known.  Synthesis gives no other ones.
-/

namespace ShapeForge

/-! ## Texts of arrays and objects -/

namespace Json

/-- The items of an array are separated by commas. -/
theorem writeItems_eq (style : Style) (items : List Json) :
    writeItems style items = [','].intercalate (items.map (writeChars style)) ++ [']'] := by
  have others (rest : List Json) (first : List Char) :
      first ++ writeMoreItems style rest =
        [','].intercalate (first :: rest.map (writeChars style)) ++ [']'] := by
    induction rest generalizing first with
    | nil => simp [writeMoreItems, List.intercalate]
    | cons next rest ih =>
      rw [writeMoreItems, ih]
      simp [List.intercalate]
  cases items with
  | nil => rfl
  | cons item rest => exact others rest (writeChars style item)

def writeField (style : Style) (field : String × Json) : List Char :=
  quoteChars style field.1 ++ ':' :: writeChars style field.2

/-- The members of an object are separated by commas. -/
theorem writeFields_eq (style : Style) (fields : List (String × Json)) :
    writeFields style fields = [','].intercalate (fields.map (writeField style)) ++ ['\x7d'] := by
  have others (rest : List (String × Json)) (first : List Char) :
      first ++ writeMoreFields style rest =
        [','].intercalate (first :: rest.map (writeField style)) ++ ['\x7d'] := by
    induction rest generalizing first with
    | nil => simp [writeMoreFields, List.intercalate]
    | cons next rest ih =>
      have field : quoteChars style next.1 ++
          ':' :: (writeChars style next.2 ++ writeMoreFields style rest) =
          writeField style next ++ writeMoreFields style rest := by
        simp [writeField]
      rw [writeMoreFields, field, ih]
      simp [List.intercalate]
  cases fields with
  | nil => rfl
  | cons field rest =>
    have first := others rest (writeField style field)
    rw [writeField, List.append_assoc, List.cons_append] at first
    exact first

theorem write_array (items : List Json) :
    (Json.array items).write = "[" ++ ",".intercalate (items.map (·.write)) ++ "]" := by
  rw [← String.toList_inj]
  simp [write, writeChars, writeItems_eq, String.toList_intercalate, List.map_map,
    Function.comp_def]

theorem write_object (fields : List (String × Json)) :
    (Json.object fields).write =
      "\x7b" ++ ",".intercalate (fields.map fun field => quote field.1 ++ ":" ++ field.2.write) ++
        "\x7d" := by
  have field : writeField .markup =
      fun field => (quote field.1 ++ ":" ++ field.2.write).toList := by
    funext field
    simp [writeField, quote, write]
  rw [← String.toList_inj]
  simp [write, writeChars, writeFields_eq, field, String.toList_intercalate, List.map_map,
    Function.comp_def]

theorem mem_literalsOfItems {items : List Json} {literal : String} :
    literal ∈ literalsOfItems items ↔ ∃ item ∈ items, literal ∈ item.literals := by
  induction items with
  | nil => simp [literalsOfItems]
  | cons item rest ih => simp [literalsOfItems, ih]

theorem mem_literalsOfFields {fields : List (String × Json)} {literal : String} :
    literal ∈ literalsOfFields fields ↔ ∃ field ∈ fields, literal ∈ field.2.literals := by
  induction fields with
  | nil => simp [literalsOfFields]
  | cons field rest ih => simp [literalsOfFields, ih]

theorem wellFormed_array {items : List Json} (parts : ∀ item ∈ items, item.WellFormed) :
    (Json.array items).WellFormed := by
  intro literal isLiteral
  obtain ⟨item, isItem, inItem⟩ := mem_literalsOfItems.mp isLiteral
  exact parts item isItem literal inItem

theorem wellFormed_object {fields : List (String × Json)}
    (parts : ∀ field ∈ fields, field.2.WellFormed) :
    (Json.object fields).WellFormed := by
  intro literal isLiteral
  obtain ⟨field, isField, inField⟩ := mem_literalsOfFields.mp isLiteral
  exact parts field isField literal inField

theorem wellFormed_number {literal : String} (isNumber : IsNumber literal) :
    (Json.number literal).WellFormed := by
  intro found isLiteral
  rwa [List.mem_singleton.mp isLiteral]

end Json

/-! ## The value of an instance -/

namespace MockValue

mutual

/-- The JSON value that an instance stands for, with times rendered as a given one. -/
def toJson (now : String) : MockValue → Json
  | .string _ _ text => .string text
  | .int _ _ number => .number (toString number)
  | .float _ _ number => .number number.plain
  | .bool _ _ value => .bool value
  | .timestamp _ _ => .string now
  | .blob _ _ text => .string (Text.base64 text)
  | .enumeration _ _ text number =>
    if text.isEmpty then .number (toString number) else .string text
  | .structure _ fields => .object (toJsonFields now fields)
  | .list _ items => .array (toJsonItems now items)
  | .map _ entries => .object (toJsonEntries now entries)
  | .unknown _ _ => .null

def toJsonFields (now : String) : List (Member × MockValue) → List (String × Json)
  | [] => []
  | (member, value) :: rest => (member.jsonName, toJson now value) :: toJsonFields now rest

def toJsonItems (now : String) : List MockValue → List Json
  | [] => []
  | item :: rest => toJson now item :: toJsonItems now rest

def toJsonEntries (now : String) : List (MockValue × MockValue) → List (String × Json)
  | [] => []
  | (key, value) :: rest => (key.keyText, toJson now value) :: toJsonEntries now rest

end

theorem toJsonFields_eq (now : String) (fields : List (Member × MockValue)) :
    toJsonFields now fields =
      fields.map fun field => (field.1.jsonName, field.2.toJson now) := by
  induction fields with
  | nil => rfl
  | cons field rest ih => rw [toJsonFields, ih, List.map_cons]

theorem toJsonItems_eq (now : String) (items : List MockValue) :
    toJsonItems now items = items.map (toJson now) := by
  induction items with
  | nil => rfl
  | cons item rest ih => rw [toJsonItems, ih, List.map_cons]

theorem toJsonEntries_eq (now : String) (entries : List (MockValue × MockValue)) :
    toJsonEntries now entries =
      entries.map fun entry => (entry.1.keyText, entry.2.toJson now) := by
  induction entries with
  | nil => rfl
  | cons entry rest ih => rw [toJsonEntries, ih, List.map_cons]

theorem jsonFields_eq (now : String) (fields : List (Member × MockValue)) :
    jsonFields now fields =
      fields.map fun field => Json.quote field.1.jsonName ++ ":" ++ field.2.json now := by
  induction fields with
  | nil => rfl
  | cons field rest ih =>
    rw [jsonFields, ih, List.map_cons]
    rfl

theorem jsonItems_eq (now : String) (items : List MockValue) :
    jsonItems now items = items.map (json now) := by
  induction items with
  | nil => rfl
  | cons item rest ih => rw [jsonItems, ih, List.map_cons]

theorem jsonEntries_eq (now : String) (entries : List (MockValue × MockValue)) :
    jsonEntries now entries =
      entries.map fun entry => Json.quote entry.1.keyText ++ ":" ++ entry.2.json now := by
  induction entries with
  | nil => rfl
  | cons entry rest ih =>
    rw [jsonEntries, ih, List.map_cons]
    rfl

/-! ## Instances that are rendered -/

/-- An instance in which all numbers are finite and all kinds are known. -/
inductive Renderable : MockValue → Prop where
  | string {shape kind text} : Renderable (.string shape kind text)
  | int {shape kind number} : Renderable (.int shape kind number)
  | float {shape kind negative coefficient exponent} :
      Renderable (.float shape kind (.finite negative coefficient exponent))
  | bool {shape kind value} : Renderable (.bool shape kind value)
  | timestamp {shape kind} : Renderable (.timestamp shape kind)
  | blob {shape kind text} : Renderable (.blob shape kind text)
  | enumeration {shape member text number} : Renderable (.enumeration shape member text number)
  | structure {shape fields} (parts : ∀ field ∈ fields, Renderable field.2) :
      Renderable (.structure shape fields)
  | list {shape items} (parts : ∀ item ∈ items, Renderable item) :
      Renderable (.list shape items)
  | map {shape entries} (parts : ∀ entry ∈ entries, Renderable entry.2) :
      Renderable (.map shape entries)

variable {value : MockValue}

theorem Renderable.json_eq (renderable : Renderable value) (now : String) :
    value.json now = (value.toJson now).write := by
  induction renderable with
  | string | timestamp | blob => rfl
  | int | float => exact (String.ofList_toList).symm
  | @bool shape kind value => cases value <;> rfl
  | @enumeration shape member text number =>
    rw [json, toJson]
    split
    · exact (String.ofList_toList).symm
    · rfl
  | @«structure» shape fields parts ih =>
    have each : ∀ field ∈ fields,
        Json.quote field.1.jsonName ++ ":" ++ field.2.json now =
          Json.quote field.1.jsonName ++ ":" ++ (field.2.toJson now).write := by
      intro field isField
      rw [ih field isField]
    rw [json, toJson, Json.write_object, jsonFields_eq, toJsonFields_eq, List.map_map,
      List.map_congr_left each]
    rfl
  | @list shape items parts ih =>
    rw [json, toJson, Json.write_array, jsonItems_eq, toJsonItems_eq, List.map_map,
      List.map_congr_left ih]
    rfl
  | @map shape entries parts ih =>
    have each : ∀ entry ∈ entries,
        Json.quote entry.1.keyText ++ ":" ++ entry.2.json now =
          Json.quote entry.1.keyText ++ ":" ++ (entry.2.toJson now).write := by
      intro entry isEntry
      rw [ih entry isEntry]
    rw [json, toJson, Json.write_object, jsonEntries_eq, toJsonEntries_eq, List.map_map,
      List.map_congr_left each]
    rfl

theorem Renderable.wellFormed (renderable : Renderable value) (now : String) :
    (value.toJson now).WellFormed := by
  induction renderable with
  | string | bool | timestamp | blob => rintro literal ⟨⟩
  | @int shape kind number => exact Json.wellFormed_number (Json.isNumber_toString number)
  | @float shape kind negative coefficient exponent =>
    exact Json.wellFormed_number (Json.isNumber_plain negative coefficient exponent)
  | @enumeration shape member text number =>
    rw [toJson]
    split
    · exact Json.wellFormed_number (Json.isNumber_toString number)
    · rintro literal ⟨⟩
  | @«structure» shape fields parts ih =>
    rw [toJson, toJsonFields_eq]
    refine Json.wellFormed_object fun field isField => ?_
    obtain ⟨source, isSource, rfl⟩ := List.mem_map.mp isField
    exact ih source isSource
  | @list shape items parts ih =>
    rw [toJson, toJsonItems_eq]
    refine Json.wellFormed_array fun item isItem => ?_
    obtain ⟨source, isSource, rfl⟩ := List.mem_map.mp isItem
    exact ih source isSource
  | @map shape entries parts ih =>
    rw [toJson, toJsonEntries_eq]
    refine Json.wellFormed_object fun field isField => ?_
    obtain ⟨source, isSource, rfl⟩ := List.mem_map.mp isField
    exact ih source isSource

theorem Renderable.read?_json (renderable : Renderable value) (now : String) :
    Json.read? (value.json now) = some (value.toJson now) := by
  rw [renderable.json_eq now]
  exact Json.read?_write .markup (renderable.wellFormed now)

end MockValue

namespace Mocks

open MockValue (Renderable)

theorem hundredths_finite (count : Nat) :
    ∃ negative coefficient exponent,
      Decimal.hundredths count = .finite negative coefficient exponent := by
  unfold Decimal.hundredths Decimal.normalize
  split
  · split
    · exact ⟨_, _, _, rfl⟩
    · exact ⟨_, _, _, rfl⟩
  · rename_i notFinite
    exact (notFinite _ _ _ rfl).elim

theorem Scalar.renderable {target : ShapeId} {kind : SimpleKind} {value : MockValue}
    (scalar : Scalar target kind value) :
    Renderable value := by
  cases scalar with
  | float count =>
    obtain ⟨negative, coefficient, exponent, finite⟩ := hundredths_finite count
    rw [finite]
    exact .float
  | int => exact .int
  | bool => exact .bool
  | timestamp => exact .timestamp
  | blob => exact .blob
  | string => exact .string

theorem Synthesized.renderable
    {mocks : Mocks} {active : List ShapeId} {target : ShapeId} {result : Option MockValue}
    (synthesized : Synthesized mocks active target result) :
    ∀ value ∈ result, Renderable value := by
  induction synthesized with
  | primitive classified scalar | simple classified scalar =>
    rintro value ⟨⟩
    exact scalar.renderable
  | emptyEnumeration | activeStructure | activeElement | withoutValue | withoutKey =>
    rintro value ⟨⟩
  | enumeration classified isMember =>
    rintro value ⟨⟩
    exact .enumeration
  | «structure» results classified inactive aligned parts ih =>
    rintro value ⟨⟩
    exact .structure fun field isField => ih _ (mem_present.mp isField) _ rfl
  | list results classified element inactive size parts ih =>
    rintro value ⟨⟩
    refine .list fun item isItem => ?_
    rcases List.mem_filterMap.mp isItem with ⟨result, isResult, rfl⟩
    exact ih _ isResult _ rfl
  | map classified valuePart keyPart valueIH keyIH =>
    rintro value ⟨⟩
    refine .map fun entry isEntry => ?_
    cases List.mem_singleton.mp isEntry
    exact valueIH _ rfl

end Mocks

end ShapeForge
