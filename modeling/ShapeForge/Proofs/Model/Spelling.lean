import ShapeForge.Proofs.Files.Path
import ShapeForge.Proofs.Model.Identifiers

/-!
# The spelling of shape identifiers

The grammar of identifiers: words with dots between them, a `#` and a word, and a `$` with another
word where a member is named.  The texts that are read are those of the grammar, no text is spelled
in two ways, and the accessors give the parts of the spelling.
-/

namespace ShapeForge.ShapeId

/-! ## The grammar -/

/-- The characters that a word may start with. -/
def StartsWord (c : Char) : Prop :=
  ('A' ≤ c ∧ c ≤ 'Z') ∨ ('a' ≤ c ∧ c ≤ 'z') ∨ c = '_'

/-- The words of the expression `[A-Za-z_][A-Za-z0-9_]*`. -/
def IsWord (text : String) : Prop :=
  ∃ first rest, text.toList = first :: rest ∧ StartsWord first ∧
    ∀ c ∈ rest, StartsWord c ∨ ('0' ≤ c ∧ c ≤ '9')

/-- An identifier, part by part; its namespace has one word at least. -/
@[ext]
structure Spelling where
  root : { text // IsWord text }
  below : List { text // IsWord text }
  name : { text // IsWord text }
  member : Option { text // IsWord text }

namespace Spelling

def words (spelling : Spelling) : List String :=
  (spelling.root :: spelling.below).map (·.1)

def space (spelling : Spelling) : String :=
  ".".intercalate spelling.words

def text (spelling : Spelling) : String :=
  spelling.space ++ "#" ++ joined spelling.name (spelling.member.map (·.1))

end Spelling

/-! ## Words -/

theorem isIdentifierStart_iff {c : Char} : isIdentifierStart c = true ↔ StartsWord c := by
  have upper : c.isUpper = true ↔ 'A' ≤ c ∧ c ≤ 'Z' := decide_eq_true_iff
  have lower : c.isLower = true ↔ 'a' ≤ c ∧ c ≤ 'z' :=
    Bool.and_eq_true_iff.trans (and_congr decide_eq_true_iff decide_eq_true_iff)
  have alpha : c.isAlpha = true ↔ c.isUpper = true ∨ c.isLower = true := Bool.or_eq_true_iff
  rw [isIdentifierStart, Bool.or_eq_true, beq_iff_eq, alpha, upper, lower]
  exact or_comm.trans or_assoc

theorem isDigit_iff {c : Char} : c.isDigit = true ↔ '0' ≤ c ∧ c ≤ '9' := by
  simp [Char.isDigit, Char.le_def]

theorem isIdentifier_iff {text : String} : isIdentifier text = true ↔ IsWord text := by
  rw [isIdentifier, IsWord]
  cases text.toList with
  | nil => simp [isIdentifierChars]
  | cons first rest =>
    simp [isIdentifierChars, isIdentifierChar, isIdentifierStart_iff, isDigit_iff]

/-! ## Spellings -/

namespace Spelling

variable {left right : Spelling}

theorem split_space (spelling : Spelling) : Text.split '.' spelling.space = spelling.words := by
  refine Text.split_intercalate (List.cons_ne_nil _ _) fun word isWord => ?_
  rcases List.mem_map.mp isWord with ⟨⟨_, spelled⟩, -, rfl⟩
  exact Naming.not_mem_of_isIdentifier (isIdentifier_iff.mpr spelled) (by decide)

theorem parts (spelling : Spelling) :
    Parts ⟨spelling.text⟩ spelling.space spelling.name (spelling.member.map (·.1)) where
  text := rfl
  isSpace := by
    rw [split_space, List.all_eq_true]
    intro word isWord
    rcases List.mem_map.mp isWord with ⟨⟨_, spelled⟩, -, rfl⟩
    exact isIdentifier_iff.mpr spelled
  isName := isIdentifier_iff.mpr spelling.name.2
  isMember := by
    cases spelling.member with
    | none => rfl
    | some member => exact isIdentifier_iff.mpr member.2

theorem text_inj (same : left.text = right.text) : left = right := by
  have id : (⟨left.text⟩ : ShapeId) = ⟨right.text⟩ := congrArg _ same
  have spaces : left.space = right.space := by
    rw [← left.parts.nameSpace_eq, id, right.parts.nameSpace_eq]
  have words : left.words = right.words := by
    rw [← left.split_space, spaces, right.split_space]
  have names : left.name.1 = right.name.1 := by
    rw [← left.parts.name_eq, id, right.parts.name_eq]
  -- The cut behind the namespace tells a member that is missing from one that is empty.
  have members : left.member.map (·.1) = right.member.map (·.1) := by
    have rest : joined left.name (left.member.map (·.1)) =
        joined right.name (right.member.map (·.1)) := by
      have cut := left.parts.cut_space.symm.trans (id ▸ right.parts.cut_space)
      simpa using congrArg (Option.map Prod.snd) cut
    have cut := left.parts.cut_name.symm.trans (rest ▸ right.parts.cut_name)
    have seconds := congrArg (Option.map Prod.snd) cut
    simpa [Function.comp_def] using seconds
  have injective : Function.Injective fun word : { text // IsWord text } => word.1 :=
    Subtype.val_injective
  have areWords := injective.list_map words
  exact Spelling.ext (List.cons.inj areWords).1 (List.cons.inj areWords).2 (injective names)
    (Option.map_injective injective members)

end Spelling

theorem Parts.exists_spelling {id : ShapeId} {space name : String} {member : Option String}
    (parts : id.Parts space name member) :
    ∃ spelling : Spelling, spelling.text = id.text := by
  have areWords : ∀ word ∈ Text.split '.' space, IsWord word := fun word isWord =>
    isIdentifier_iff.mp (List.all_eq_true.mp parts.isSpace word isWord)
  have isMember : ∀ word ∈ member, IsWord word := by
    rintro word rfl
    exact isIdentifier_iff.mp parts.isMember
  cases words : Text.split '.' space with
  | nil => exact absurd (List.map_eq_nil_iff.mp words) (Text.splitWhere_ne_nil _ _)
  | cons first others =>
    rw [words] at areWords
    rcases List.forall_mem_cons.mp areWords with ⟨isFirst, areOthers⟩
    let spelling : Spelling := {
      root := ⟨first, isFirst⟩
      below := others.attachWith IsWord areOthers
      name := ⟨name, isIdentifier_iff.mp parts.isName⟩
      member := member.attachWith IsWord isMember }
    have sameWords : Text.split '.' spelling.space = Text.split '.' space := by
      rw [spelling.split_space, words]
      simp [Spelling.words, spelling]
    refine ⟨spelling, ?_⟩
    rw [Spelling.text, Text.split_inj.mp sameWords, parts.text]
    simp [spelling]

theorem exists_parse_iff {text : String} :
    (∃ id, parse text = .ok id) ↔ ∃ spelling : Spelling, spelling.text = text := by
  constructor
  · rintro ⟨id, read⟩
    rcases parts_of_wellFormed (wellFormed_of_parse read) with ⟨space, name, member, parts⟩
    rw [← text_of_parse read]
    exact parts.exists_spelling
  · rintro ⟨spelling, rfl⟩
    exact ⟨⟨spelling.text⟩, spelling.parts.wellFormed⟩

/-- The text of an identifier consists of what its accessors give. -/
theorem WellFormed.text_eq {id : ShapeId} (wellFormed : id.WellFormed) :
    id.text = id.nameSpace ++ "#" ++ id.name ++
      (if id.member = "" then "" else "$" ++ id.member) := by
  rcases parts_of_wellFormed wellFormed with ⟨space, name, member, parts⟩
  rw [parts.nameSpace_eq, parts.name_eq, parts.member_eq, parts.text]
  cases member with
  | none => simp [joined]
  | some member =>
    have given : member ≠ "" := by
      rintro rfl
      cases parts.isMember
    simp [joined, given, String.append_assoc]

/-- Exactly the texts of the grammar are read, and no text has two spellings.  The accessors give
the parts of the spelling, of which the text consists, and an identifier without member takes any
word as its member. -/
theorem parse_spelled (text : String) :
    ((∃ id, parse text = .ok id) ↔ ∃ spelling : Spelling, spelling.text = text) ∧
      (∀ left right : Spelling, left.text = text → right.text = text → left = right) ∧
      ∀ id, parse text = .ok id → id.text = text ∧
        (∀ spelling : Spelling, spelling.text = text →
          id.nameSpace = ".".intercalate spelling.words ∧ id.name = spelling.name ∧
            id.member = (spelling.member.map (·.1)).getD "") ∧
        text = id.nameSpace ++ "#" ++ id.name ++
          (if id.member = "" then "" else "$" ++ id.member) ∧
        (id.member = "" → ∀ word, IsWord word →
          parse (id.withMember word).text = .ok (id.withMember word) ∧
            (id.withMember word).nameSpace = id.nameSpace ∧
            (id.withMember word).name = id.name ∧ (id.withMember word).member = word) := by
  refine ⟨exists_parse_iff, fun left right isLeft isRight =>
    Spelling.text_inj (isLeft.trans isRight.symm), fun id read => ?_⟩
  have wellFormed : id.WellFormed := wellFormed_of_parse read
  cases text_of_parse read
  refine ⟨rfl, ?_, wellFormed.text_eq, ?_⟩
  · rintro spelling same
    have parts : id.Parts spelling.space spelling.name (spelling.member.map (·.1)) := by
      have spelled := spelling.parts
      rwa [same] at spelled
    exact ⟨parts.nameSpace_eq, parts.name_eq, parts.member_eq⟩
  · intro whole word isWord
    rcases parts_whole wellFormed whole with ⟨space, name, parts⟩
    have extended := parts.withMember (isIdentifier_iff.mpr isWord)
    refine ⟨extended.wellFormed, ?_, ?_, extended.member_eq⟩
    · rw [extended.nameSpace_eq, parts.nameSpace_eq]
    · rw [extended.name_eq, parts.name_eq]

theorem parse_spelled_forecast :
    parse "example.weather#Forecast" = .ok ⟨"example.weather#Forecast"⟩ ∧
      (∃ spelling : Spelling, spelling.text = "example.weather#Forecast" ∧
        ".".intercalate spelling.words = "example.weather" ∧ spelling.name.1 = "Forecast") ∧
      IsWord "day_2" ∧
      parse "example.weather#Forecast$day_2" = .ok ⟨"example.weather#Forecast$day_2"⟩ := by
  have read : parse "example.weather#Forecast" = .ok ⟨"example.weather#Forecast"⟩ := by decide
  have isWord : IsWord "day_2" := isIdentifier_iff.mp (by decide)
  rcases parse_spelled "example.weather#Forecast" with ⟨accepts, -, parts⟩
  rcases accepts.mp ⟨_, read⟩ with ⟨spelling, isText⟩
  rcases parts _ read with ⟨-, spelled, -, extended⟩
  rcases spelled spelling isText with ⟨space, name, -⟩
  exact ⟨read, ⟨spelling, isText, space.symm.trans (by decide), name.symm.trans (by decide)⟩,
    isWord, (extended (by decide) _ isWord).1⟩

end ShapeForge.ShapeId
