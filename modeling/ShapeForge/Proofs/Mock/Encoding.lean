import ShapeForge.Proofs.Mock.Rendering

/-!
# The encoding of an instance

`Mocks.Encodes` says by the shapes of a model which JSON value an instance is encoded as.  The text
of a synthesized instance is always the text of a JSON value.  It is the encoding of the instance
exactly where no shape has to be told from an empty text: where no member of a textual enumeration
has the empty value, and all keys of maps are texts.
-/

namespace ShapeForge.Mocks

/-! ## Encodings -/

/-- Keys by their shapes: texts and the values of members stand for themselves, and numbers are
written as decimals. -/
inductive KeyText (model : Model) : MockValue → String → Prop where
  | string {shape kind text} : KeyText model (.string shape kind text) text
  | int {shape kind number} : KeyText model (.int shape kind number) (toString number)
  | member {id shape members member}
      (classified : model.classify id = .ok (.enumeration shape false members))
      (isMember : member ∈ members) :
      KeyText model (chosen id false member) member.value
  | number {id shape members member}
      (classified : model.classify id = .ok (.enumeration shape true members))
      (isMember : member ∈ members) :
      KeyText model (chosen id true member) (toString member.number)

/-- The JSON value that an instance is encoded as by its shape, with times as a given one. -/
inductive Encodes (model : Model) (now : String) : MockValue → Json → Prop where
  | string {shape kind text} : Encodes model now (.string shape kind text) (.string text)
  | int {shape kind number} :
      Encodes model now (.int shape kind number) (.number (toString number))
  | float {shape kind number} :
      Encodes model now (.float shape kind number) (.number number.plain)
  | bool {shape kind value} : Encodes model now (.bool shape kind value) (.bool value)
  | timestamp {shape kind} : Encodes model now (.timestamp shape kind) (.string now)
  | blob {shape kind text} :
      Encodes model now (.blob shape kind text) (.string (Text.base64 text))
  | member {id shape members member}
      (classified : model.classify id = .ok (.enumeration shape false members))
      (isMember : member ∈ members) :
      Encodes model now (chosen id false member) (.string member.value)
  | number {id shape members member}
      (classified : model.classify id = .ok (.enumeration shape true members))
      (isMember : member ∈ members) :
      Encodes model now (chosen id true member) (.number (toString member.number))
  | structure {shape fields json}
      (names : fields.map (·.1.jsonName) = json.map Prod.fst)
      (parts : List.Forall₂ (Encodes model now) (fields.map Prod.snd) (json.map Prod.snd)) :
      Encodes model now (.structure shape fields) (.object json)
  | list {shape items json} (parts : List.Forall₂ (Encodes model now) items json) :
      Encodes model now (.list shape items) (.array json)
  | map {shape entries json}
      (keys : List.Forall₂ (KeyText model) (entries.map Prod.fst) (json.map Prod.fst))
      (parts : List.Forall₂ (Encodes model now) (entries.map Prod.snd) (json.map Prod.snd)) :
      Encodes model now (.map shape entries) (.object json)

/-! ## Instances that their texts tell -/

/-- The shape is an enumeration of numbers. -/
def IsNumeric (model : Model) (id : ShapeId) : Prop :=
  ∃ shape members, model.classify id = .ok (.enumeration shape true members)

/-- The key is a text or a member with a text. -/
def IsTextKey (model : Model) : MockValue → Prop
  | .string _ _ _ => True
  | .enumeration id _ _ _ => ¬IsNumeric model id
  | _ => False

/-- Only members of numeric enumerations have empty texts, and all keys are texts. -/
inductive Legible (model : Model) : MockValue → Prop where
  | string {shape kind text} : Legible model (.string shape kind text)
  | int {shape kind number} : Legible model (.int shape kind number)
  | float {shape kind number} : Legible model (.float shape kind number)
  | bool {shape kind value} : Legible model (.bool shape kind value)
  | timestamp {shape kind} : Legible model (.timestamp shape kind)
  | blob {shape kind text} : Legible model (.blob shape kind text)
  | enumeration {id member text number} (told : text = "" → IsNumeric model id) :
      Legible model (.enumeration id member text number)
  | structure {shape fields} (parts : ∀ field ∈ fields, Legible model field.2) :
      Legible model (.structure shape fields)
  | list {shape items} (parts : ∀ item ∈ items, Legible model item) :
      Legible model (.list shape items)
  | map {shape entries}
      (keys : ∀ entry ∈ entries, IsTextKey model entry.1)
      (parts : ∀ entry ∈ entries, Legible model entry.2) :
      Legible model (.map shape entries)

variable {model : Model} {now : String}

/-! ## Structures, lists and maps -/

theorem forall₂_map_iff
    {α β γ : Type} {relation : β → γ → Prop} {first : α → β} {second : α → γ} {items : List α} :
    List.Forall₂ relation (items.map first) (items.map second) ↔
      ∀ item ∈ items, relation (first item) (second item) := by
  rw [List.forall₂_map_left_iff, List.forall₂_map_right_iff, List.forall₂_same]

variable {shape id : ShapeId}

theorem encodes_structure_iff {fields : List (Member × MockValue)} :
    Encodes model now (.structure shape fields) ((MockValue.structure shape fields).toJson now) ↔
      ∀ field ∈ fields, Encodes model now field.2 (field.2.toJson now) := by
  rw [MockValue.toJson, MockValue.toJsonFields_eq, ← forall₂_map_iff]
  constructor
  · intro encodes
    cases encodes with
    | «structure» names parts => rwa [List.map_map] at parts
  · intro parts
    refine .structure (by simp) ?_
    rwa [List.map_map]

theorem encodes_list_iff {items : List MockValue} :
    Encodes model now (.list shape items) ((MockValue.list shape items).toJson now) ↔
      ∀ item ∈ items, Encodes model now item (item.toJson now) := by
  rw [MockValue.toJson, MockValue.toJsonItems_eq, ← forall₂_map_iff, List.map_id']
  constructor
  · intro encodes
    cases encodes with
    | list parts => exact parts
  · exact .list

theorem encodes_map_iff {entries : List (MockValue × MockValue)} :
    Encodes model now (.map shape entries) ((MockValue.map shape entries).toJson now) ↔
      (∀ entry ∈ entries, KeyText model entry.1 entry.1.keyText) ∧
        ∀ entry ∈ entries, Encodes model now entry.2 (entry.2.toJson now) := by
  rw [MockValue.toJson, MockValue.toJsonEntries_eq, ← forall₂_map_iff, ← forall₂_map_iff]
  constructor
  · intro encodes
    cases encodes with
    | map keys parts =>
      rw [List.map_map] at keys parts
      exact ⟨keys, parts⟩
  · rintro ⟨keys, parts⟩
    refine .map ?_ ?_ <;> rwa [List.map_map]

/-! ## Scalars and enumerations -/

theorem not_isNumeric {shape : Shape} {members : List EnumMember}
    (classified : model.classify id = .ok (.enumeration shape false members)) :
    ¬IsNumeric model id := by
  rintro ⟨other, others, numeric⟩
  cases classified.symm.trans numeric

theorem Scalar.encodes {target : ShapeId} {kind : SimpleKind} {value : MockValue}
    (scalar : Scalar target kind value) (model : Model) (now : String) :
    Encodes model now value (value.toJson now) ∧ Legible model value := by
  cases scalar with
  | int => exact ⟨.int, .int⟩
  | float => exact ⟨.float, .float⟩
  | bool => exact ⟨.bool, .bool⟩
  | timestamp => exact ⟨.timestamp, .timestamp⟩
  | blob => exact ⟨.blob, .blob⟩
  | string => exact ⟨.string, .string⟩

theorem Encodes.eq_string {member : EnumMember} {json : Json} (textual : ¬IsNumeric model id)
    (encodes : Encodes model now (chosen id false member) json) :
    json = .string member.value := by
  generalize same : chosen id false member = value at encodes
  cases encodes with
  | member => exact congrArg Json.string (MockValue.enumeration.inj same).2.2.1.symm
  | number numeric =>
    rw [← (MockValue.enumeration.inj same).1] at numeric
    exact absurd ⟨_, _, numeric⟩ textual
  | _ => cases same

/-- Members of enumerations with texts are told by their texts, unless these are empty. -/
theorem encodes_chosen_iff {shape : Shape} {numeric : Bool} {members : List EnumMember}
    {member : EnumMember}
    (classified : model.classify id = .ok (.enumeration shape numeric members))
    (isMember : member ∈ members) :
    Encodes model now (chosen id numeric member) ((chosen id numeric member).toJson now) ↔
      Legible model (chosen id numeric member) := by
  cases numeric with
  | true =>
    exact iff_of_true (.number classified isMember) (.enumeration fun _ => ⟨_, _, classified⟩)
  | false =>
    have textual := not_isNumeric classified
    have written : (chosen id false member).toJson now =
        if member.value.isEmpty then .number (toString (0 : Int)) else .string member.value := rfl
    rw [written]
    by_cases empty : member.value = ""
    · rw [if_pos (String.isEmpty_iff.mpr empty)]
      refine iff_of_false (fun encodes => ?_) (fun legible => ?_)
      · cases encodes.eq_string textual
      · cases legible with
        | enumeration told => exact textual (told empty)
    · rw [if_neg (mt String.isEmpty_iff.mp empty)]
      exact iff_of_true (.member classified isMember) (.enumeration fun none => absurd none empty)

/-! ## Keys -/

theorem toString_ne_empty (number : Int) : "" ≠ toString number := by
  rcases (Json.isNumber_toString number).starts with ⟨c, chars, characters, -⟩
  intro empty
  rw [← empty] at characters
  cases characters

theorem not_keyText_empty {key : MockValue} (other : ¬IsTextKey model key) :
    ¬KeyText model key "" := by
  generalize written : "" = text
  intro isKey
  cases isKey with
  | string => exact other True.intro
  | int => exact toString_ne_empty _ written
  | member classified => exact other (not_isNumeric classified)
  | number => exact toString_ne_empty _ written

theorem keyText_iff {mocks : Mocks} {active : List ShapeId} {target : ShapeId} {key : MockValue}
    (synthesized : Synthesized mocks active target (some key)) :
    KeyText mocks.model key key.keyText ↔ IsTextKey mocks.model key := by
  cases synthesized with
  | primitive classified scalar | simple classified scalar =>
    cases scalar with
    | string => exact iff_of_true .string True.intro
    | blob =>
      refine iff_of_false ?_ id
      rintro ⟨⟩
    | int | float | bool | timestamp => exact iff_of_false (not_keyText_empty id) id
  | @enumeration _ _ shape numeric members member classified isMember =>
    have named : shape.id = target := Model.target_of_classify classified
    rw [named]
    cases numeric with
    | true =>
      have numeric : ¬IsTextKey mocks.model (chosen target true member) :=
        fun textual => textual ⟨_, _, classified⟩
      exact iff_of_false (not_keyText_empty numeric) numeric
    | false => exact iff_of_true (.member classified isMember) (not_isNumeric classified)
  | «structure» | list | map => exact iff_of_false (not_keyText_empty id) id

/-! ## Synthesized instances -/

theorem legible_structure_iff {fields : List (Member × MockValue)} :
    Legible model (.structure shape fields) ↔ ∀ field ∈ fields, Legible model field.2 := by
  refine ⟨fun legible => ?_, .structure⟩
  cases legible with
  | «structure» parts => exact parts

/-- Synthesized instances are encoded by their texts exactly if these tell their shapes. -/
theorem Synthesized.encodes_iff
    {mocks : Mocks} {active : List ShapeId} {target : ShapeId} {result : Option MockValue}
    (synthesized : Synthesized mocks active target result) (now : String) :
    ∀ value ∈ result,
      (Encodes mocks.model now value (value.toJson now) ↔ Legible mocks.model value) := by
  induction synthesized with
  | primitive classified scalar | simple classified scalar =>
    rintro value ⟨⟩
    have both := scalar.encodes mocks.model now
    exact iff_of_true both.1 both.2
  | emptyEnumeration | activeStructure | activeElement | withoutValue | withoutKey =>
    rintro value ⟨⟩
  | @enumeration _ target shape _ _ _ classified isMember =>
    rintro value ⟨⟩
    have named : shape.id = target := Model.target_of_classify classified
    rw [named]
    exact encodes_chosen_iff classified isMember
  | «structure» results classified inactive aligned parts ih =>
    rintro value ⟨⟩
    rw [encodes_structure_iff, legible_structure_iff]
    exact forall₂_congr fun field isField => ih _ (mem_present.mp isField) _ rfl
  | list results classified element inactive size parts ih =>
    rintro value ⟨⟩
    rw [encodes_list_iff]
    have each : ∀ item ∈ results.filterMap id,
        (Encodes mocks.model now item (item.toJson now) ↔ Legible mocks.model item) := by
      intro item isItem
      rcases List.mem_filterMap.mp isItem with ⟨result, isResult, rfl⟩
      exact ih _ isResult _ rfl
    refine (forall₂_congr each).trans ⟨.list, fun legible => ?_⟩
    cases legible with
    | list parts => exact parts
  | map classified valuePart keyPart valueIH keyIH =>
    rintro value ⟨⟩
    rw [encodes_map_iff, List.forall_mem_singleton, List.forall_mem_singleton, keyText_iff keyPart,
      valueIH _ rfl]
    constructor
    · rintro ⟨key, content⟩
      exact .map (List.forall_mem_singleton.mpr key) (List.forall_mem_singleton.mpr content)
    · intro legible
      cases legible with
      | map keys parts => exact ⟨keys _ List.mem_cons_self, parts _ List.mem_cons_self⟩

theorem encodes_iff_of_ofStructure {mocks : Mocks} {value : MockValue}
    (run : mocks.ofStructure id = .ok value) (now : String) :
    value.Renderable ∧
      (Encodes mocks.model now value (value.toJson now) ↔ Legible mocks.model value) := by
  rcases synthesized_of_ofStructure run with ⟨shape, fields, -, rfl, results, -, rfl, parts⟩
  have part {field : Member × MockValue} (isField : field ∈ present results) :
      Synthesized mocks [id] field.1.target (some field.2) :=
    parts _ (mem_present.mp isField)
  refine ⟨.structure fun field isField => (part isField).renderable _ rfl, ?_⟩
  rw [encodes_structure_iff, legible_structure_iff]
  exact forall₂_congr fun field isField => (part isField).encodes_iff now _ rfl

/-- The text of every synthesized instance is that of a JSON value, which is the encoding of the
instance exactly if no member of a textual enumeration in it has the empty value and all keys of its
maps are texts. -/
theorem instances_encoded
    {mocks : Mocks} {id : ShapeId} {value : MockValue}
    (run : mocks.synthesize id = .ok (some value) ∨ mocks.ofStructure id = .ok value)
    (now : String) :
    ∃ json : Json, value.json now = json.write ∧ Json.read? (value.json now) = some json ∧
      (Encodes mocks.model now value json ↔ Legible mocks.model value) := by
  have both : value.Renderable ∧
      (Encodes mocks.model now value (value.toJson now) ↔ Legible mocks.model value) := by
    rcases run with run | run
    · have synthesized := synthesized_of_synthesize run
      exact ⟨synthesized.renderable _ rfl, synthesized.encodes_iff now _ rfl⟩
    · exact encodes_iff_of_ofStructure run now
  exact ⟨value.toJson now, both.1.json_eq now, both.1.read?_json now, both.2⟩

theorem instances_encoded_journal :
    Journal.mocks.ofStructure Journal.entryId = .ok Journal.sample ∧
      ∃ json, Json.read? (Journal.sample.json "noon") = some json ∧
        Encodes Journal.mocks.model "noon" Journal.sample json := by
  have run := Journal.ofStructure_entry
  rcases instances_encoded (Or.inr run) "noon" with ⟨json, -, read, encodes⟩
  have times : Legible Journal.mocks.model
      (.list Journal.timesId [.timestamp Journal.timestamp (some .timestamp),
        .timestamp Journal.timestamp (some .timestamp)]) :=
    .list (List.forall_mem_cons.mpr ⟨.timestamp, List.forall_mem_singleton.mpr .timestamp⟩)
  have fields : ∀ field ∈ Journal.fields, Legible Journal.mocks.model field.2 :=
    List.forall_mem_cons.mpr ⟨.timestamp, List.forall_mem_singleton.mpr times⟩
  exact ⟨run, json, read, encodes.mpr (.structure fields)⟩

/-! A stock, in which a grade with the empty value is written as a number, and numbers are lost as
keys. -/

namespace Stock

def stockId : ShapeId := ⟨"shop#Stock"⟩

def gradeId : ShapeId := ⟨"shop#Grade"⟩

def countsId : ShapeId := ⟨"shop#Counts"⟩

def ungraded : EnumMember :=
  { name := "NONE", value := "", number := 0, traits := [⟨Trait.enumValue, "\"\""⟩] }

def gradeShape : Shape := { id := gradeId, body := .enumeration false [ungraded] }

def key : Member := { name := "key", container := countsId, target := .prelude "Integer" }

def time : Member := { name := "value", container := countsId, target := .prelude "Timestamp" }

def countsShape : Shape := { id := countsId, body := .map key time }

def grade : Member := { name := "grade", container := stockId, target := gradeId }

def counts : Member := { name := "counts", container := stockId, target := countsId }

def stock : Shape := { id := stockId, body := .structure [grade, counts] }

def mocks : Mocks := { model := { shapes := [gradeShape, countsShape, stock] }, listSize := 0 }

/-- The instance of the counts, but for the number that is drawn for the key. -/
def counted (number : Int) : MockValue :=
  .map countsId [(.int (.prelude "Integer") (some .integer) number,
    .timestamp (.prelude "Timestamp") (some .timestamp))]

def sample (number : Int) : MockValue :=
  .structure stockId [(grade, chosen gradeId false ungraded), (counts, counted number)]

theorem choice_single (target : ShapeId) (numeric : Bool) (member : EnumMember) (random : Random) :
    ∃ after, choice target numeric [member] random =
      .ok (some (chosen target numeric member), after) := by
  have bounded := Random.below_lt (by decide : 0 < 1) random
  rcases drawn : random.below 1 with ⟨index, after⟩
  rw [drawn] at bounded
  cases Nat.lt_one_iff.mp bounded
  have below : Draw.below [member].length random = .ok (0, after) := congrArg Except.ok drawn
  refine ⟨after, ?_⟩
  rw [choice, if_neg (by simp), Draw.run_bind below]
  rfl

theorem keyValue (around : Surroundings) (name : String) (random : Random) :
    ∃ number after, memberValue mocks around key name random =
      .ok (some (.int (.prelude "Integer") (some .integer) number), after) := by
  rcases drawn : random.below 100 with ⟨number, after⟩
  have below : Draw.below 100 random = .ok (number, after) := congrArg Except.ok drawn
  refine ⟨number + 1, after, ?_⟩
  rw [memberValue]
  exact Draw.run_bind (Draw.run_bind below)

theorem ofStructure_stock : ∃ number, mocks.ofStructure stockId = .ok (sample number) := by
  have gradeType : mocks.model.classifyMember grade =
      .ok (.enumeration gradeShape false [ungraded]) := rfl
  have countsType : mocks.model.classifyMember counts = .ok (.map countsShape key time) := rfl
  have keyType : mocks.model.classifyMember key = .ok (.primitive (.prelude "Integer") .integer) :=
    rfl
  have timeType : mocks.model.classifyMember time =
      .ok (.primitive (.prelude "Timestamp") .timestamp) := rfl
  have resolved : mocks.model.resolveStructure stockId = .ok stock := rfl
  have members : stock.members = [grade, counts] := rfl
  rcases choice_single gradeShape.id false ungraded (mocks.random stockId) with ⟨graded, isGrade⟩
  rcases keyValue ((Surroundings.enter {} stockId).openContainer countsId) (counts.name ++ "Key")
    graded with ⟨number, after, isKey⟩
  have countsValue : memberValue mocks (Surroundings.enter {} stockId) counts counts.name graded =
      .ok (some (counted number), after) := by
    rw [memberValue_map countsType keyType timeType, if_neg (by decide),
      memberValue_eq timeType]
    have timed : (do return some (← scalar (.prelude "Timestamp") .timestamp counts.name)) graded =
        .ok (some (.timestamp (.prelude "Timestamp") (some .timestamp)), graded) := rfl
    exact (Draw.run_bind timed).trans (Draw.run_bind isKey)
  have fields : structureFields mocks (Surroundings.enter {} stockId) [grade, counts]
      (mocks.random stockId) =
      .ok ([(grade, chosen gradeId false ungraded), (counts, counted number)], after) := by
    have rest : structureFields mocks (Surroundings.enter {} stockId) [counts] graded =
        .ok ([(counts, counted number)], after) := by
      rw [structureFields, Draw.run_bind countsValue, structureFields]
      rfl
    rw [structureFields, memberValue_eq gradeType, ofType, Draw.run_bind isGrade,
      Draw.run_bind rest]
    rfl
  refine ⟨number, ?_⟩
  rw [ofStructure_eq, resolved]
  simp only [Except.bind, members, fields]
  rfl

end Stock

open Stock in
theorem instances_misread_stock :
    ∃ number, mocks.ofStructure stockId = .ok (sample number) ∧
      (sample number).json "noon" = "\x7b\"grade\":0,\"counts\":\x7b\"\":\"noon\"\x7d\x7d" ∧
      ∀ json, Json.read? ((sample number).json "noon") = some json →
        ¬Encodes mocks.model "noon" (sample number) json := by
  rcases ofStructure_stock with ⟨number, run⟩
  refine ⟨number, run, by rfl, fun json read encodes => ?_⟩
  rcases encodes_iff_of_ofStructure run "noon" with ⟨renderable, legible⟩
  rw [renderable.read?_json] at read
  cases read
  have grades := legible_structure_iff.mp (legible.mp encodes) _ List.mem_cons_self
  cases grades with
  | enumeration told =>
      rcases told rfl with ⟨shape, members, numeric⟩
      cases numeric

end ShapeForge.Mocks
