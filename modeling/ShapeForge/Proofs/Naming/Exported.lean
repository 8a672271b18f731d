import ShapeForge.Naming.Identifier
import ShapeForge.Proofs.Text.Lines

/-!
# Exported names

The name that is declared for a shape starts with a capital letter, whatever the identifier of the
shape is.  So it is exported, and so is every name that extends it.  A name in camel case that is
made from one is not.
-/

namespace ShapeForge.Naming

open ShapeForge.Code (isExported)

/-- The first character of a name is one of the letters from A to Z. -/
def StartsCapital (name : String) : Prop :=
  ∃ first rest, name.toList = first :: rest ∧ first.isUpper = true

variable {c : Char} {text name : String}

theorem started_append {kind : Char → Bool}
    (started : ∃ first rest, name.toList = first :: rest ∧ kind first = true) (more : String) :
    ∃ first rest, (name ++ more).toList = first :: rest ∧ kind first = true := by
  rcases started with ⟨first, rest, chars, isFirst⟩
  exact ⟨first, rest ++ more.toList, by rw [String.toList_append, chars]; rfl, isFirst⟩

theorem StartsCapital.append (capital : StartsCapital name) (more : String) :
    StartsCapital (name ++ more) :=
  started_append capital more

/-! ## Characters -/

/-- A property of characters below 128 is checked character by character. -/
theorem forall_ascii (property : Char → Prop)
    (checked : ∀ code : Fin 128, property (Char.ofNat code)) (ascii : c.toNat < 128) :
    property c := by
  simpa using checked ⟨c.toNat, ascii⟩

theorem ascii_of_le {last : Char} (below : c ≤ last) (ascii : last.toNat < 128) : c.toNat < 128 :=
  Nat.lt_of_le_of_lt (UInt32.le_iff_toNat_le.mp below) ascii

theorem ascii_of_isUpper (isUpper : c.isUpper = true) : c.toNat < 128 :=
  ascii_of_le (of_decide_eq_true isUpper).2 (by decide)

theorem ascii_of_isIdentifierChar (isChar : ShapeId.isIdentifierChar c = true) : c.toNat < 128 := by
  simp only [ShapeId.isIdentifierChar, ShapeId.isIdentifierStart, Bool.or_eq_true,
    beq_iff_eq] at isChar
  rcases isChar with (rfl | isAlpha) | isDigit
  · decide
  · rcases Bool.or_eq_true_iff.mp isAlpha with isUpper | isLower
    · exact ascii_of_isUpper isUpper
    · exact ascii_of_le (of_decide_eq_true (Bool.and_eq_true_iff.mp isLower).2) (by decide)
  · exact ascii_of_le (of_decide_eq_true (Bool.and_eq_true_iff.mp isDigit).2) (by decide)

theorem StartsCapital.isExported (capital : StartsCapital name) : isExported name = true := by
  rcases capital with ⟨first, rest, chars, isUpper⟩
  rw [Code.isExported, chars]
  exact forall_ascii (fun c => c.isUpper = true → Text.isUpper c = true) (by decide)
    (ascii_of_isUpper isUpper) isUpper

/-! ## Names in pascal and camel case -/

def wordChars (text : String) : List (List Char) :=
  (Text.splitWhere (!Text.isWordChar ·) text.toList).filter (!·.isEmpty)

theorem toList_pascal (text : String) :
    (pascal text).toList = (wordChars text).flatMap (Text.titleFrom false) := by
  rw [pascal, Text.toList_concat, words, Text.fieldsWhere]
  simp [List.flatMap_map, wordChars]

/-- The first word of a text that starts inside a word starts with the text. -/
theorem wordChars_of_isWordChar {first : Char} {rest : List Char}
    (chars : text.toList = first :: rest) (isWord : Text.isWordChar first = true) :
    ∃ word words, wordChars text = (first :: word) :: words := by
  rw [wordChars, chars, Text.splitWhere]
  simp only [isWord, Bool.not_true, Bool.false_eq_true, if_false]
  split
  · exact ⟨_, _, rfl⟩
  · exact ⟨_, _, rfl⟩

/-- A name in pascal case starts with a capital, or with what is no letter. -/
theorem pascal_of_wordChars {first : Char} {word : List Char} {words : List (List Char)}
    (pieces : wordChars text = (first :: word) :: words) (ascii : first.toNat < 128) :
    ∃ start more, (pascal text).toList = start :: more ∧
      ((first.isAlpha = true ∧ start = first.toUpper) ∨
        (first.isAlpha = false ∧ start = first)) := by
  have chars := toList_pascal text
  rw [pieces, List.flatMap_cons, Text.titleFrom, Text.isCased, if_pos ascii] at chars
  cases isAlpha : first.isAlpha with
  | true =>
    simp only [isAlpha, if_true, Bool.false_eq_true, if_false, Text.toTitle, if_pos ascii,
      List.cons_append] at chars
    exact ⟨first.toUpper, _, chars, Or.inl ⟨rfl, rfl⟩⟩
  | false =>
    simp only [isAlpha, Bool.false_eq_true, if_false, List.cons_append] at chars
    exact ⟨first, _, chars, Or.inr ⟨rfl, rfl⟩⟩

/-- A name in pascal case is empty, or starts with a capital or with what is no letter. -/
theorem pascal_cases (ascii : ∀ c ∈ text.toList, c.toNat < 128) :
    pascal text = "" ∨ ∃ start more, (pascal text).toList = start :: more ∧ start.toNat < 128 ∧
      (start.isUpper = true ∨ start.isAlpha = false) := by
  cases pieces : wordChars text with
  | nil =>
    left
    rw [← String.toList_eq_nil_iff, toList_pascal, pieces]
    rfl
  | cons piece rest =>
    right
    have isPiece : piece ∈ wordChars text := by
      rw [pieces]
      exact List.mem_cons_self
    rcases List.mem_filter.mp isPiece with ⟨isPiece, nonempty⟩
    cases piece with
    | nil => cases nonempty
    | cons first word =>
      have firstAscii : first.toNat < 128 :=
        ascii first (Text.mem_of_splitWhere isPiece List.mem_cons_self)
      rcases pascal_of_wordChars pieces firstAscii with ⟨start, more, chars, initial⟩
      refine ⟨start, more, chars, ?_⟩
      rcases initial with ⟨isAlpha, rfl⟩ | ⟨notAlpha, rfl⟩
      · have capital := forall_ascii
          (fun c => c.isAlpha = true → c.toUpper.isUpper = true ∧ c.toUpper.toNat < 128)
          (by decide) firstAscii isAlpha
        exact ⟨capital.2, Or.inl capital.1⟩
      · exact ⟨firstAscii, Or.inr notAlpha⟩

/-! ## Names of declarations -/

theorem startsCapital_escapeReserved (capital : StartsCapital name) :
    StartsCapital (escapeReserved name) := by
  unfold escapeReserved
  split
  · exact capital.append "_"
  · exact capital

theorem startsCapital_typeName (ascii : ∀ c ∈ text.toList, c.toNat < 128) :
    StartsCapital (typeName text) := by
  unfold typeName
  rcases pascal_cases ascii with empty | ⟨start, more, chars, small, initial⟩
  · rw [empty]
    exact ⟨'T', _, rfl, rfl⟩
  · have filled : (pascal text).isEmpty = false := by
      rw [← Bool.not_eq_true, String.isEmpty_iff, ← String.toList_eq_nil_iff, chars]
      simp
    simp only [filled, Bool.false_eq_true, if_false, startsWithLetter, chars]
    apply startsCapital_escapeReserved
    rcases initial with isUpper | notAlpha
    · have isLetter := forall_ascii (fun c => c.isUpper = true → Text.isLetter c = true)
        (by decide) small isUpper
      rw [if_pos isLetter]
      exact ⟨start, more, chars, isUpper⟩
    · have noLetter : Text.isLetter start = false := by
        rw [Text.isLetter, if_pos small, notAlpha]
      rw [noLetter, if_neg Bool.false_ne_true]
      exact StartsCapital.append ⟨'T', [], rfl, rfl⟩ _

theorem isIdentifierChar_of_isIdentifier (isIdentifier : ShapeId.isIdentifier text = true) :
    ∀ c ∈ text.toList, ShapeId.isIdentifierChar c = true := by
  intro c isChar
  unfold ShapeId.isIdentifier at isIdentifier
  cases chars : text.toList with
  | nil =>
    rw [chars] at isChar
    cases isChar
  | cons first rest =>
    rw [chars, ShapeId.isIdentifierChars, Bool.and_eq_true, List.all_eq_true] at isIdentifier
    rw [chars] at isChar
    rcases List.mem_cons.mp isChar with rfl | isRest
    · rw [ShapeId.isIdentifierChar, isIdentifier.1]
      rfl
    · exact isIdentifier.2 c isRest

theorem not_mem_of_isIdentifier (isIdentifier : ShapeId.isIdentifier text = true)
    (noChar : ShapeId.isIdentifierChar c = false) :
    c ∉ text.toList := by
  intro isIn
  rw [isIdentifierChar_of_isIdentifier isIdentifier c isIn] at noChar
  cases noChar

/-- The namespace of an identifier is made of identifiers and dots. -/
theorem isIdentifierChar_of_split {space : String}
    (parts : (Text.split '.' space).all ShapeId.isIdentifier = true) (isIn : c ∈ space.toList) :
    ShapeId.isIdentifierChar c = true ∨ c = '.' := by
  rcases Text.mem_splitWhere (· == '.') isIn with isCut | ⟨piece, isPiece, isIn⟩
  · exact Or.inr (beq_iff_eq.mp isCut)
  · have isPart := List.all_eq_true.mp parts _ (List.mem_map_of_mem isPiece)
    refine Or.inl (isIdentifierChar_of_isIdentifier isPart c ?_)
    rwa [String.toList_ofList]

theorem not_mem_of_split {space : String}
    (parts : (Text.split '.' space).all ShapeId.isIdentifier = true)
    (noChar : ShapeId.isIdentifierChar c = false) (noDot : c ≠ '.') :
    c ∉ space.toList := fun isIn =>
  (isIdentifierChar_of_split parts isIn).elim (Bool.eq_false_iff.mp noChar) noDot

theorem ascii_of_split {space : String}
    (parts : (Text.split '.' space).all ShapeId.isIdentifier = true) :
    ∀ c ∈ space.toList, c.toNat < 128 := by
  intro c isIn
  rcases isIdentifierChar_of_split parts isIn with isChar | rfl
  · exact ascii_of_isIdentifierChar isChar
  · decide

theorem ascii_of_isIdentifier (isIdentifier : ShapeId.isIdentifier text = true) :
    ∀ c ∈ text.toList, c.toNat < 128 := by
  intro c isChar
  exact ascii_of_isIdentifierChar (isIdentifierChar_of_isIdentifier isIdentifier c isChar)

theorem startsCapital_declName {id : ShapeId} (isName : ShapeId.isIdentifier id.name = true) :
    StartsCapital (declName id) := by
  have capital := startsCapital_typeName (ascii_of_isIdentifier isName)
  unfold declName
  simp only
  split
  · exact capital.append "Shape"
  · exact capital

/-- A name in camel case starts with a small letter. -/
theorem not_isExported_camel (capital : StartsCapital name) (more : String) :
    isExported (camel name ++ more) = false := by
  rcases capital with ⟨first, rest, chars, isUpper⟩
  have ascii := ascii_of_isUpper isUpper
  have letter := forall_ascii
    (fun c => c.isUpper = true → Text.isWordChar c = true ∧ c.isAlpha = true ∧
      Text.isUpper (Text.toLower c.toUpper) = false)
    (by decide) ascii isUpper
  rcases wordChars_of_isWordChar chars letter.1 with ⟨word, words, pieces⟩
  rcases pascal_of_wordChars pieces ascii with ⟨start, others, pascalChars, initial⟩
  rcases initial with ⟨-, rfl⟩ | ⟨notAlpha, -⟩
  · rw [Code.isExported, camel, pascalChars, String.toList_append, String.toList_ofList,
      List.cons_append]
    exact letter.2.2
  · rw [letter.2.1] at notAlpha
    cases notAlpha

end ShapeForge.Naming
