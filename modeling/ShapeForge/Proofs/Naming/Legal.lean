import ShapeForge.Proofs.Model.Identifiers
import ShapeForge.Proofs.Naming.Fields

/-!
# Legal names

The names of generated code are made of letters, digits and underscores and are no keywords.  Types
and fields start with a capital, which no keyword does; parameters start with a small letter, and
are marked where they would be keywords; packages are in small letters, and get a suffix there.
-/

namespace ShapeForge.Naming

open ShapeId (isIdentifier isIdentifierChar)
open Code (keywords)

/-- A name of characters of one kind that starts with one of another kind and is no keyword. -/
structure Legal (starts goesOn : Char → Bool) (name : String) : Prop where
  started : ∃ first rest, name.toList = first :: rest ∧ starts first = true
  allowed : ∀ c ∈ name.toList, goesOn c = true
  noKeyword : name ∉ keywords

variable {text name : String}

theorem forall_mem_append {kind : Char → Bool} {more : String}
    (ofName : ∀ c ∈ name.toList, kind c = true) (ofMore : more.toList.all kind = true) :
    ∀ c ∈ (name ++ more).toList, kind c = true := by
  rw [String.toList_append]
  exact List.forall_mem_append.mpr ⟨ofName, List.all_eq_true.mp ofMore⟩

/-! ## Names of types and fields -/

theorem StartsCapital.legal (capital : StartsCapital name)
    (allowed : ∀ c ∈ name.toList, isIdentifierChar c = true) :
    Legal Char.isUpper isIdentifierChar name where
  started := capital
  allowed := allowed
  noKeyword := by
    have small : ∀ word ∈ keywords, (word.toList.head?.any Char.isUpper) = false := by decide
    intro isKeyword
    rcases capital with ⟨first, rest, chars, isUpper⟩
    have isSmall := small name isKeyword
    rw [chars, List.head?_cons, Option.any_some, isUpper] at isSmall
    cases isSmall

theorem isIdentifierChar_of_mem_pascal (ascii : ∀ c ∈ text.toList, c.toNat < 128) :
    ∀ c ∈ (pascal text).toList, isIdentifierChar c = true := by
  intro c isIn
  rcases mem_pascal isIn with ⟨d, isIn, isWordChar, made⟩
  have kept := forall_ascii
    (fun d => Text.isWordChar d = true →
      isIdentifierChar d = true ∧ (Text.toTitle d).all isIdentifierChar = true)
    (by decide) (ascii d isIn) isWordChar
  rcases made with rfl | isTitle
  · exact kept.1
  · exact List.all_eq_true.mp kept.2 c isTitle

theorem isIdentifierChar_of_mem_typeName (ascii : ∀ c ∈ text.toList, c.toNat < 128) :
    ∀ c ∈ (typeName text).toList, isIdentifierChar c = true := by
  intro c isIn
  rcases mem_typeName isIn with isIn | isIn
  · exact isIdentifierChar_of_mem_pascal ascii c isIn
  · have fixed : "Type_".toList.all isIdentifierChar = true := by decide
    exact List.all_eq_true.mp fixed c isIn

theorem legal_typeName (ascii : ∀ c ∈ text.toList, c.toNat < 128) :
    Legal Char.isUpper isIdentifierChar (typeName text) :=
  (startsCapital_typeName ascii).legal (isIdentifierChar_of_mem_typeName ascii)

theorem legal_declName {id : ShapeId} (isName : isIdentifier id.name = true) :
    Legal Char.isUpper isIdentifierChar (declName id) := by
  have ofType := isIdentifierChar_of_mem_typeName (ascii_of_isIdentifier isName)
  refine (startsCapital_declName isName).legal ?_
  rcases declName_cases id with ⟨suffixed, -⟩ | plain
  · rw [suffixed]
    exact forall_mem_append ofType (by decide)
  · rwa [plain]

theorem legal_memberField (shape : Shape) {member : Member}
    (ascii : ∀ c ∈ member.name.toList, c.toNat < 128) :
    Legal Char.isUpper isIdentifierChar (memberField shape member) := by
  unfold memberField
  extract_lets name
  split
  · rcases extendName_eq (fieldTaken shape member) shape.members.length (name ++ "Field") with
      ⟨count, extended, -⟩
    have suffixed := forall_mem_append (isIdentifierChar_of_mem_typeName ascii)
      (show "Field".toList.all isIdentifierChar = true by decide)
    rw [extended]
    refine (((startsCapital_typeName ascii).append _).append _).legal
      (forall_mem_append suffixed ?_)
    rw [String.toList_ofList, List.all_replicate]
    exact ite_eq_left_iff.mpr fun _ => rfl
  · exact legal_typeName ascii

/-! ## Names of parameters -/

/-- Keywords are in small letters and have no underscore, so marking them is enough. -/
theorem escapeReserved_not_mem (name : String) : escapeReserved name ∉ keywords := by
  have plain : ∀ word ∈ keywords, Text.lower word = word ∧ '_' ∉ word.toList := by decide
  unfold escapeReserved
  split
  case isTrue =>
    intro isKeyword
    exact (plain _ isKeyword).2 (by simp)
  case isFalse unreserved =>
    intro isKeyword
    rw [(plain _ isKeyword).1] at unreserved
    exact unreserved (List.contains_iff_mem.mpr isKeyword)

theorem legal_escapeReserved
    (small : ∃ first rest, name.toList = first :: rest ∧ first.isLower = true)
    (allowed : ∀ c ∈ name.toList, isIdentifierChar c = true) :
    Legal Char.isLower isIdentifierChar (escapeReserved name) where
  started := by
    unfold escapeReserved
    split
    · exact started_append small "_"
    · exact small
  allowed := by
    intro c isIn
    rcases mem_escapeReserved isIn with isIn | rfl
    · exact allowed c isIn
    · rfl
  noKeyword := escapeReserved_not_mem name

theorem legal_paramName (ascii : ∀ c ∈ text.toList, c.toNat < 128) :
    Legal Char.isLower isIdentifierChar (paramName text) := by
  unfold paramName camel
  rcases pascal_cases ascii with empty | ⟨start, more, chars, small, initial⟩
  · rw [empty]
    exact ⟨⟨'p', _, rfl, rfl⟩, List.all_eq_true.mp (by decide), by decide⟩
  · have allowed := isIdentifierChar_of_mem_pascal ascii
    rw [chars, List.forall_mem_cons] at allowed
    have lowered := forall_ascii
      (fun c => isIdentifierChar c = true → isIdentifierChar (Text.toLower c) = true ∧
        (c.isUpper = true → (Text.toLower c).isLower = true ∧
          Text.isLetter (Text.toLower c) = true) ∧
        (c.isAlpha = false → Text.isLetter (Text.toLower c) = false))
      (by decide) small allowed.1
    have ofRest : (Text.toLower start :: more).all isIdentifierChar = true :=
      List.all_eq_true.mpr (List.forall_mem_cons.mpr ⟨lowered.1, allowed.2⟩)
    have filled : (String.ofList (Text.toLower start :: more)).isEmpty = false := by
      rw [← Bool.not_eq_true, String.isEmpty_iff, String.ofList_eq_empty_iff]
      simp
    simp only [chars, filled, Bool.false_eq_true, if_false, startsWithLetter,
      String.toList_ofList]
    rcases initial with isUpper | notAlpha
    · rw [(lowered.2.1 isUpper).2, if_pos rfl]
      refine legal_escapeReserved ⟨_, more, String.toList_ofList, (lowered.2.1 isUpper).1⟩ ?_
      rwa [String.toList_ofList, ← List.all_eq_true]
    · rw [lowered.2.2 notAlpha, if_neg Bool.false_ne_true]
      refine legal_escapeReserved (started_append ⟨'p', [], rfl, rfl⟩ _)
        (forall_mem_append (List.all_eq_true.mp (by decide)) ?_)
      rwa [String.toList_ofList]

/-! ## Names of packages -/

theorem mem_of_cutLast {separator c : Char} {before after : String}
    (cut : Text.cutLast separator text = some (before, after)) (isIn : c ∈ after.toList) :
    c ∈ text.toList := by
  unfold Text.cutLast at cut
  rw [List.span_eq_takeWhile_dropWhile] at cut
  split at cut
  case h_1 parts =>
    cases cut
    rcases Prod.mk.inj parts with ⟨rfl, -⟩
    rw [String.toList_ofList, List.mem_reverse] at isIn
    exact List.mem_reverse.mp ((List.takeWhile_sublist _).subset isIn)
  case h_2 => cases cut

/-- The characters that packages are named with. -/
def isPackageChar (c : Char) : Bool :=
  c.isLower || c.isDigit

theorem legal_packageName {space : String} (ascii : ∀ c ∈ space.toList, c.toNat < 128) :
    Legal Char.isLower isPackageChar (packageName space) := by
  unfold packageName
  extract_lets last word started
  have ofLast : ∀ c ∈ last.toList, c ∈ space.toList := by
    unfold last
    cases cut : Text.cutLast '.' space with
    | none => exact fun _ => id
    | some parts => exact fun _ => mem_of_cutLast cut
  clear_value last
  have ofWord : ∀ c ∈ word.toList, isPackageChar c = true ∧
      (Text.isLetter c = true → c.isLower = true) := by
    intro c isIn
    rw [String.toList_ofList, Text.lower, String.toList_ofList] at isIn
    rcases List.mem_filter.mp isIn with ⟨isLowered, isWordChar⟩
    rcases List.mem_map.mp isLowered with ⟨d, isLast, rfl⟩
    exact forall_ascii
      (fun c => Text.isWordChar (Text.toLower c) = true → isPackageChar (Text.toLower c) = true ∧
        (Text.isLetter (Text.toLower c) = true → (Text.toLower c).isLower = true))
      (by decide) (ascii d (ofLast d isLast)) isWordChar
  clear_value word
  have allowed : word.toList.all isPackageChar = true :=
    List.all_eq_true.mpr fun c isIn => (ofWord c isIn).1
  have ofStarted : (∃ first rest, started.toList = first :: rest ∧ first.isLower = true) ∧
      ∀ c ∈ started.toList, isPackageChar c = true := by
    unfold started
    cases isLetter : startsWithLetter word with
    | false =>
      exact ⟨started_append ⟨'p', ['k', 'g'], rfl, rfl⟩ word,
        forall_mem_append (List.all_eq_true.mp (by decide)) allowed⟩
    | true =>
      refine ⟨?_, List.all_eq_true.mp allowed⟩
      unfold startsWithLetter at isLetter
      cases chars : word.toList with
      | nil =>
        rw [chars] at isLetter
        cases isLetter
      | cons first rest =>
        rw [chars] at isLetter ofWord
        exact ⟨first, rest, chars, (ofWord first List.mem_cons_self).2 isLetter⟩
  clear_value started
  have suffixed : ∀ word ∈ keywords, word ++ "pkg" ∉ keywords := by decide
  split
  case isTrue isKeyword =>
    exact ⟨started_append ofStarted.1 "pkg", forall_mem_append ofStarted.2 (by decide),
      suffixed started (List.contains_iff_mem.mp isKeyword)⟩
  case isFalse noKeyword =>
    exact ⟨ofStarted.1, ofStarted.2, mt List.contains_iff_mem.mpr noKeyword⟩

/-! ## Names of a model -/

/-- Every identifier gives legal names of types, fields and parameters, and the identifier of every
shape those of a declaration and of a package. -/
theorem names_legal (text : String) :
    (isIdentifier text = true →
        Legal Char.isUpper isIdentifierChar (typeName text) ∧
          Legal Char.isUpper isIdentifierChar (fieldName text) ∧
          (∀ (shape : Shape) (member : Member), member.name = text →
            Legal Char.isUpper isIdentifierChar (memberField shape member)) ∧
          Legal Char.isLower isIdentifierChar (paramName text)) ∧
      ∀ id, ShapeId.parse text = .ok id →
        Legal Char.isUpper isIdentifierChar (declName id) ∧
          Legal Char.isLower isPackageChar (packageName id.nameSpace) := by
  refine ⟨fun isText => ?_, fun id read => ?_⟩
  · have ascii := ascii_of_isIdentifier isText
    refine ⟨legal_typeName ascii, legal_typeName ascii, ?_, legal_paramName ascii⟩
    rintro shape member rfl
    exact legal_memberField shape ascii
  · rcases ShapeId.parts_of_wellFormed (ShapeId.wellFormed_of_parse read) with
      ⟨space, name, member, parts⟩
    rw [parts.nameSpace_eq]
    exact ⟨legal_declName (parts.name_eq ▸ parts.isName),
      legal_packageName (ascii_of_split parts.isSpace)⟩

/-- Keywords in all places, and an identifier without letters. -/
theorem names_legal_range :
    isIdentifier "Range" = true ∧ typeName "Range" = "Range_" ∧ paramName "Range" = "range_" ∧
      isIdentifier "_7" = true ∧ typeName "_7" = "T7" ∧ paramName "_7" = "p7" ∧
      ShapeId.parse "play.Range#Unit" = .ok ⟨"play.Range#Unit"⟩ ∧
      packageName "play.Range" = "rangepkg" ∧
      Legal Char.isLower isIdentifierChar "range_" ∧ Legal Char.isUpper isIdentifierChar "T7" ∧
      Legal Char.isLower isPackageChar "rangepkg" := by
  have read : ShapeId.parse "play.Range#Unit" = .ok ⟨"play.Range#Unit"⟩ := by decide
  have names : (typeName "Range" = "Range_" ∧ paramName "Range" = "range_") ∧
      (typeName "_7" = "T7" ∧ paramName "_7" = "p7") ∧ packageName "play.Range" = "rangepkg" := by
    decide
  rcases names with ⟨⟨type, param⟩, ⟨digit, digitParam⟩, package⟩
  exact ⟨by decide, type, param, by decide, digit, digitParam, read, package,
    param ▸ ((names_legal "Range").1 (by decide)).2.2.2,
    digit ▸ ((names_legal "_7").1 (by decide)).1,
    package ▸ ((names_legal "play.Range#Unit").2 _ read).2⟩

end ShapeForge.Naming
