import ShapeForge.Proofs.Emit.Members
import ShapeForge.Proofs.Json.RoundTrip
import ShapeForge.Proofs.Templates

/-!
# What literals stand for

Patterns are written as string literals, and the serialized names of members inside the tags of
fields, which are raw literals.  A raw literal loses its carriage returns, and a tag can only give
names of some characters; everything else is read back.
-/

namespace ShapeForge.Code

/-! ## String literals -/

/-- The character whose number digits give in a base, if it is below a limit. -/
def charOf? (limit base : Nat) (digits : List Char) : Option Char := do
  let code ← digits.foldlM (fun code c => do
    let digit ← Json.hexValue? c
    if digit < base then some (code * base + digit) else none) 0
  if code < limit ∧ code.isValidChar then some (Char.ofNat code) else none

/-- What an escape of one letter stands for. -/
def letterEscape? : Char → Option Char
  | 'a' => some (Char.ofNat 7)
  | 'b' => some (Char.ofNat 8)
  | 't' => some '\t'
  | 'n' => some '\n'
  | 'v' => some (Char.ofNat 11)
  | 'f' => some (Char.ofNat 12)
  | 'r' => some '\r'
  | '"' => some '"'
  | '\\' => some '\\'
  | _ => none

def before? (c : Option Char) (read : Option (List Char × List Char)) :
    Option (List Char × List Char) := do
  let (text, after) ← read
  return ((← c) :: text, after)

/-- What an interpreted literal stands for behind its first quote, and what follows it.  Numbers in
octal and those of two digits are bytes, of which only the first 128 are characters. -/
def readQuoted : List Char → Option (List Char × List Char)
  | [] | '\n' :: _ => none
  | '"' :: after => some ([], after)
  | '\\' :: 'x' :: a :: b :: rest => before? (charOf? 128 16 [a, b]) (readQuoted rest)
  | '\\' :: 'u' :: a :: b :: c :: d :: rest =>
    before? (charOf? 0x110000 16 [a, b, c, d]) (readQuoted rest)
  | '\\' :: 'U' :: a :: b :: c :: d :: e :: f :: g :: h :: rest =>
    before? (charOf? 0x110000 16 [a, b, c, d, e, f, g, h]) (readQuoted rest)
  | '\\' :: mark :: rest =>
    match letterEscape? mark, rest with
    | some c, rest => before? (some c) (readQuoted rest)
    | none, a :: b :: rest => before? (charOf? 128 8 [mark, a, b]) (readQuoted rest)
    | none, _ => none
  | c :: rest => before? (some c) (readQuoted rest)

theorem readQuoted_plain {c : Char} (noQuote : c ≠ '"') (noSlash : c ≠ '\\') (noBreak : c ≠ '\n')
    (rest : List Char) :
    readQuoted (c :: rest) = before? (some c) (readQuoted rest) := by
  rw [readQuoted]
  · exact noBreak
  · exact noQuote
  all_goals simp [noSlash]

/-- Digits that were written in hexadecimal give the number back. -/
theorem foldlM_hex {width code : Nat} (small : code < 16 ^ (width + 1)) :
    (Text.hex (width + 1) code).toList.foldlM (fun code c => do
      let digit ← Json.hexValue? c
      if digit < 16 then some (code * 16 + digit) else none) 0 = some code := by
  induction width generalizing code with
  | zero =>
    have digit : code < 16 := by simpa using small
    rw [Json.toList_hex_one digit]
    simp [Json.hexValue?_digitChar code digit, digit]
  | succ width ih =>
    have below : code / 16 < 16 ^ (width + 1) := by
      rw [Nat.pow_succ] at small
      omega
    have digit : code % 16 < 16 := Nat.mod_lt _ (by decide)
    rw [Json.toList_hex_succ, List.foldlM_append, ih below]
    simp [Json.hexValue?_digitChar _ digit, digit]
    omega

theorem charOf?_hex {c : Char} {width limit : Nat} (small : c.toNat < 16 ^ (width + 1))
    (below : c.toNat < limit) :
    charOf? limit 16 (Text.hex (width + 1) c.toNat).toList = some c := by
  have valid : c.toNat.isValidChar := c.valid
  rw [charOf?, foldlM_hex small]
  simp [below, valid]

theorem letterEscape?_of_shortEscape? {c letter : Char}
    (short : Text.shortEscape? c = some letter) :
    letterEscape? letter = some c ∧ letter ≠ 'x' ∧ letter ≠ 'u' ∧ letter ≠ 'U' := by
  have whole := Char.ofNat_toNat c
  unfold Text.shortEscape? at short
  split at short <;> cases short <;> rename_i code <;> rw [code] at whole <;> rw [← whole] <;>
    exact ⟨rfl, by decide⟩

theorem readQuoted_quoteChar (c : Char) (rest : List Char) :
    readQuoted ((Text.quoteChar c).toList ++ rest) = before? (some c) (readQuoted rest) := by
  unfold Text.quoteChar
  split
  next special =>
    simp only [Bool.or_eq_true, beq_iff_eq] at special
    rcases special with rfl | rfl <;> simp [readQuoted, letterEscape?]
  next special =>
    simp only [Bool.or_eq_true, beq_iff_eq, not_or] at special
    split
    next printable =>
      have noBreak : c ≠ '\n' := by
        rintro rfl
        exact absurd printable (by decide)
      simpa using readQuoted_plain special.1 special.2 noBreak rest
    next hidden =>
      split
      next letter isLetter =>
        rcases letterEscape?_of_shortEscape? isLetter with ⟨stands, noByte, noFour, noEight⟩
        simp [readQuoted, noByte, noFour, noEight, stands]
      next =>
        split
        next control =>
          simp only [Bool.or_eq_true, decide_eq_true_eq, beq_iff_eq] at control
          have value : charOf? 128 16 (Text.hex 2 c.toNat).toList = some c :=
            charOf?_hex (by omega) (by omega)
          simp (disch := omega) [Json.toList_hex_succ, Json.toList_hex_one] at value ⊢
          rw [readQuoted, value]
        next =>
          have whole : c.toNat < 0x110000 := by
            have valid : c.toNat.isValidChar := c.valid
            unfold Nat.isValidChar at valid
            omega
          split
          next small =>
            have value : charOf? 0x110000 16 (Text.hex 4 c.toNat).toList = some c :=
              charOf?_hex (by omega) whole
            simp (disch := omega) [Json.toList_hex_succ, Json.toList_hex_one] at value ⊢
            rw [readQuoted, value]
          next =>
            have value : charOf? 0x110000 16 (Text.hex 8 c.toNat).toList = some c :=
              charOf?_hex (by omega) whole
            simp (disch := omega) [Json.toList_hex_succ, Json.toList_hex_one] at value ⊢
            rw [readQuoted, value]

theorem readQuoted_quoted (text after : List Char) :
    readQuoted (text.flatMap (fun c => (Text.quoteChar c).toList) ++ '"' :: after) =
      some (text, after) := by
  induction text with
  | nil => rfl
  | cons c rest ih =>
    rw [List.flatMap_cons, List.append_assoc, readQuoted_quoteChar, ih]
    rfl

/-- What a string literal stands for, and what follows it. -/
def readLiteral : List Char → Option (List Char × List Char)
  | '"' :: rest => readQuoted rest
  | '\x60' :: rest =>
    match rest.span (· != '\x60') with
    | (text, _ :: after) => some (text.filter (· != '\r'), after)
    | (_, []) => none
  | _ => none

def denoted? (literal : String) : Option String :=
  match readLiteral literal.toList with
  | some (text, []) => some (String.ofList text)
  | _ => none

theorem readLiteral_raw {text : List Char} (unmarked : '\x60' ∉ text) (after : List Char) :
    readLiteral ('\x60' :: (text ++ '\x60' :: after)) =
      some (text.filter (· != '\r'), after) := by
  have passes := Text.bne_of_not_mem unmarked
  rw [readLiteral, List.span_eq_takeWhile_dropWhile, List.takeWhile_append_of_pos passes,
    List.dropWhile_append_of_pos passes]
  simp

theorem denoted?_stringLiteral (text : String) :
    denoted? (Naming.stringLiteral text) =
      some (if '\x60' ∈ text.toList then text
        else String.ofList (text.toList.filter (· != '\r'))) := by
  unfold Naming.stringLiteral
  by_cases marked : '\x60' ∈ text.toList
  · have chars : (Text.quote text).toList = '"' :: (text.toList.flatMap
        (fun c => (Text.quoteChar c).toList) ++ '"' :: []) := by
      simp [Text.quote, List.flatMap_map]
    rw [if_pos (List.contains_iff_mem.mpr marked), if_pos marked, denoted?, chars, readLiteral,
      readQuoted_quoted]
    simp
  · have chars : ("\x60" ++ text ++ "\x60").toList =
        '\x60' :: (text.toList ++ '\x60' :: []) := by
      simp
    rw [if_neg (mt List.contains_iff_mem.mp marked), if_neg marked, denoted?, chars,
      readLiteral_raw marked]

/-! ## Tags -/

/-- What follows a quoted text, whatever its escapes stand for. -/
def behindQuoted : List Char → Option (List Char)
  | [] => none
  | '"' :: after => some after
  | '\\' :: _ :: rest => behindQuoted rest
  | _ :: rest => behindQuoted rest

/-- The value of a key in a tag, which consists of keys with quoted values. -/
def tagValue? (key : List Char) : Nat → List Char → Option (List Char)
  | 0, _ => none
  | fuel + 1, tag =>
    let isKeyChar (c : Char) : Bool := ' ' < c && c != ':' && c != '"' && c.toNat != 127
    match (tag.dropWhile (· == ' ')).span isKeyChar with
    | (name, ':' :: '"' :: quoted) =>
      if name.isEmpty then none
      else if name == key then (readQuoted quoted).map (·.1)
      else (behindQuoted quoted).bind (tagValue? key fuel)
    | _ => none

def isTagChar (c : Char) : Bool :=
  Text.isWordChar c || "!#$%&()*+-./:;<=>?@[]^_\x7b|\x7d~ ".toList.contains c

/-- The names that a tag can give. -/
def isTagName (name : List Char) : Bool :=
  !name.isEmpty && name.all isTagChar

/-- The key that the value of a field is encoded under, if it is encoded: the name that its tag
gives, up to the options of the tag, and else that of the field. -/
def encodedKey? (field : String) (tag : List Char) : Option String :=
  let value := (tagValue? "json".toList tag.length tag).getD []
  let name := value.takeWhile (· != ',')
  if value == ['-'] then none
  else some (if isTagName name then String.ofList name else field)

theorem isTagName_encodedKey? {field key : String} {tag : List Char}
    (isField : isTagName field.toList = true) (encoded : encodedKey? field tag = some key) :
    isTagName key.toList = true := by
  unfold encodedKey? at encoded
  extract_lets value name at encoded
  split at encoded
  · cases encoded
  · cases encoded
    split
    next isName => rwa [String.toList_ofList]
    next => exact isField

theorem readQuoted_unescaped {text : List Char}
    (plain : ∀ c ∈ text, c ≠ '"' ∧ c ≠ '\\' ∧ c ≠ '\n') (after : List Char) :
    readQuoted (text ++ '"' :: after) = some (text, after) := by
  induction text with
  | nil => rfl
  | cons c rest ih =>
    rcases List.forall_mem_cons.mp plain with ⟨⟨noQuote, noSlash, noBreak⟩, others⟩
    rw [List.cons_append, readQuoted_plain noQuote noSlash noBreak, ih others]
    rfl

theorem tagValue?_json {text : List Char}
    (plain : ∀ c ∈ text, c ≠ '"' ∧ c ≠ '\\' ∧ c ≠ '\n') (fuel : Nat) (after : List Char) :
    tagValue? "json".toList (fuel + 1) ("json:\"".toList ++ (text ++ '"' :: after)) =
      some text := by
  have cut : (("json:\"".toList ++ (text ++ '"' :: after)).dropWhile (· == ' ')).span
      (fun c => ' ' < c && c != ':' && c != '"' && c.toNat != 127) =
      ("json".toList, ':' :: '"' :: (text ++ '"' :: after)) := by
    rfl
  rw [tagValue?]
  simp only [cut, readQuoted_unescaped plain]
  rfl

end ShapeForge.Code

namespace ShapeForge.Emit

open Recording
open Code (Item isTagName isTagChar encodedKey? readLiteral)

/-! ## Keys of fields -/

variable {shape : Shape} {member : Member}

/-- The key that the field of a member is encoded under, from the literal behind its type. -/
def fieldKey? (shape : Shape) (member : Member) : Option String :=
  (readLiteral ("\x60" ++ fieldTag member ++ "\x60\n").toList).bind fun (tag, _) =>
    encodedKey? (Naming.memberField shape member) tag

theorem plain_of_isTagName {name : List Char} (isName : isTagName name = true) :
    ∀ c ∈ name, (c ≠ '"' ∧ c ≠ '\\' ∧ c ≠ '\n') ∧ (c ≠ '\x60' ∧ c ≠ '\r') ∧ c ≠ ',' := by
  intro c isChar
  have allowed := List.all_eq_true.mp (Bool.and_eq_true_iff.mp isName).2 c isChar
  and_intros <;> (rintro rfl; exact absurd allowed (by decide))

/-- A tag that starts with the name, before the quote that ends it or before its options. -/
theorem fieldKey?_of_tag {text after : List Char} (isName : isTagName member.jsonName.toList = true)
    (isTag : (fieldTag member).toList = "json:\"".toList ++ (text ++ '"' :: after))
    (named : text.takeWhile (· != ',') = member.jsonName.toList)
    (plain : ∀ c ∈ text, c ≠ '"' ∧ c ≠ '\\' ∧ c ≠ '\n')
    (unmarked : ∀ c ∈ text ++ after, c ≠ '\x60' ∧ c ≠ '\r') :
    fieldKey? shape member = if text == ['-'] then none else some member.jsonName := by
  have kept : ∀ c ∈ (fieldTag member).toList, c ≠ '\x60' ∧ c ≠ '\r' := by
    rw [isTag]
    simp only [List.forall_mem_append, List.forall_mem_cons] at unmarked ⊢
    exact ⟨by simp, unmarked.1, by simp, unmarked.2⟩
  have chars : ("\x60" ++ fieldTag member ++ "\x60\n").toList =
      '\x60' :: ((fieldTag member).toList ++ '\x60' :: ['\n']) := by
    simp
  have whole : (fieldTag member).toList.filter (· != '\r') = (fieldTag member).toList :=
    List.filter_eq_self.mpr fun c isChar => bne_iff_ne.mpr (kept c isChar).2
  have value : Code.tagValue? "json".toList (fieldTag member).toList.length
      (fieldTag member).toList = some text := by
    rw [isTag]
    exact Code.tagValue?_json plain _ after
  rw [fieldKey?, chars, Code.readLiteral_raw fun isIn => (kept _ isIn).1 rfl, whole]
  simp only [Option.bind_some, encodedKey?, value, Option.getD_some, named, isName, if_true,
    String.ofList_toList]

/-- A field is encoded under the serialized name exactly if a tag can give the name; the single dash
needs options behind it. -/
theorem fieldKey?_eq_iff (isField : isTagName (Naming.memberField shape member).toList = true) :
    fieldKey? shape member = some member.jsonName ↔
      isTagName member.jsonName.toList = true ∧
        ¬(member.traits.isRequired = true ∧ member.jsonName = "-") := by
  by_cases isName : isTagName member.jsonName.toList = true
  · have plain := plain_of_isTagName isName
    have noComma : ∀ c ∈ member.jsonName.toList, (c != ',') = true := fun c isChar =>
      bne_iff_ne.mpr (plain c isChar).2.2
    cases required : member.traits.isRequired with
    | true =>
      have isTag : (fieldTag member).toList = "json:\"".toList ++
          (member.jsonName.toList ++ '"' :: " validate:\"required\"".toList) := by
        simp [fieldTag, required]
      rw [fieldKey?_of_tag isName isTag (List.takeWhile_eq_self_iff.mpr noComma)
        (fun c isChar => (plain c isChar).1)
        (List.forall_mem_append.mpr ⟨fun c isChar => (plain c isChar).2.1, by simp⟩)]
      simp [isName, ← String.toList_inj]
    | false =>
      have isTag : (fieldTag member).toList = "json:\"".toList ++
          ((member.jsonName.toList ++ ",omitempty".toList) ++ '"' :: []) := by
        simp [fieldTag, required]
      have named : (member.jsonName.toList ++ ",omitempty".toList).takeWhile (· != ',') =
          member.jsonName.toList := by
        rw [List.takeWhile_append_of_pos noComma]
        simp
      have longer : (member.jsonName.toList ++ ",omitempty".toList == ['-']) = false := by
        rw [beq_eq_false_iff_ne]
        intro same
        have lengths := congrArg List.length same
        simp at lengths
      rw [fieldKey?_of_tag isName isTag named
        (List.forall_mem_append.mpr ⟨fun c isChar => (plain c isChar).1, by simp⟩)
        (List.forall_mem_append.mpr ⟨List.forall_mem_append.mpr
          ⟨fun c isChar => (plain c isChar).2.1, by simp⟩, by simp⟩), longer]
      simp [isName]
  · refine iff_of_false (fun encoded => isName ?_) (fun both => isName both.1)
    rcases Option.bind_eq_some_iff.mp encoded with ⟨⟨tag, after⟩, -, encoded⟩
    exact Code.isTagName_encodedKey? isField encoded

theorem isTagName_memberField (ascii : ∀ c ∈ member.name.toList, c.toNat < 128) :
    isTagName (Naming.memberField shape member).toList = true := by
  have checked : ∀ code : Fin 128, Text.isWordChar (Char.ofNat code) = true →
      isTagChar (Char.ofNat code) = true ∧
        (Text.toTitle (Char.ofNat code)).all isTagChar = true := by
    decide
  have ofPascal : ∀ c ∈ (Naming.pascal member.name).toList, isTagChar c = true := by
    intro c isChar
    by_contra other
    refine Naming.not_mem_pascal ascii (fun code isWord => ⟨?_, fun made => ?_⟩) isChar
    · rintro rfl
      exact other (checked code isWord).1
    · exact other (List.all_eq_true.mp (checked code isWord).2 c made)
  have ofType : ∀ c ∈ (Naming.typeName member.name).toList, isTagChar c = true := by
    intro c isChar
    rcases Naming.mem_typeName isChar with inPascal | isExtra
    · exact ofPascal c inPascal
    · exact List.all_eq_true.mp (by decide) c isExtra
  have extended : ∃ more, (Naming.memberField shape member).toList =
      (Naming.typeName member.name).toList ++ more ∧ ∀ c ∈ more, isTagChar c = true := by
    rw [Naming.memberField_eq, Naming.fieldFor, Naming.fieldName]
    split
    · rcases Naming.extendName_eq (Naming.isExportedBy shape) shape.members.length
        (Naming.typeName member.name ++ "Field") with ⟨count, extended, -⟩
      refine ⟨"Field".toList ++ List.replicate count '_', ?_, ?_⟩
      · rw [extended, Naming.extension]
        simp
      · rw [List.forall_mem_append]
        refine ⟨List.all_eq_true.mp (by decide), fun c isChar => ?_⟩
        rw [List.eq_of_mem_replicate isChar]
        decide
    · exact ⟨[], (List.append_nil _).symm, by simp⟩
  rcases extended with ⟨more, chars, ofMore⟩
  rcases Naming.startsCapital_typeName ascii with ⟨first, rest, starts, -⟩
  rw [chars, isTagName, List.all_eq_true.mpr (List.forall_mem_append.mpr ⟨ofType, ofMore⟩), starts]
  rfl

/-- The fields of emitted structs are encoded under the serialized names of their members, which
mock data and checked instances have as keys, for exactly the names that a tag can give. -/
theorem serialized_names_of_tags {emitter : Emitter} {package : Package} {bodies : List FileBody}
    (obtained : emitter.model.Obtained)
    (emitted : (emitPackage emitter).1 = .ok (package, bodies)) :
    ∃ contents, Accepted emitter contents ∧
      ∀ shape ∈ contents.structures,
        TypeDeclared bodies "types.go" (Naming.declName shape.id) (IsStruct shape) ∧
        ∀ member ∈ shape.members,
          (fieldKey? shape member = some member.jsonName ↔
            isTagName member.jsonName.toList = true ∧
              ¬(member.traits.isRequired = true ∧ member.jsonName = "-")) := by
  rcases typeDeclared_of_emitted emitted with ⟨contents, accepted, structs, -⟩
  refine ⟨contents, accepted, fun shape isStructure => ⟨structs shape isStructure, ?_⟩⟩
  intro member isMember
  rcases body_of_structures isStructure with ⟨isShape, members, body⟩
  have wellNamed := obtained.wellNamed shape (accepted.mem_of_shapes isShape)
  exact fieldKey?_eq_iff (isTagName_memberField (ascii_members wellNamed body member isMember))

open Stall in
theorem serialized_names_of_tags_stall :
    ∃ package bodies, (emitPackage (emitter false)).1 = .ok (package, bodies) ∧
      TypeDeclared bodies "types.go" "Price" (IsStruct (price false)) ∧
      ∀ member ∈ (price false).members, fieldKey? (price false) member = some member.jsonName := by
  rcases emitted_package false with ⟨package, bodies, emitted⟩
  rcases serialized_names_of_tags (obtained_model false) emitted with ⟨contents, accepted, structs⟩
  obtain rfl := contents_eq false accepted
  rcases structs (price false) (price_mem false) with ⟨isStruct, keys⟩
  refine ⟨package, bodies, emitted, isStruct, fun member isMember => ?_⟩
  refine (keys member isMember).mpr ?_
  revert member
  decide

/-- A member that must be given, with a single dash as its serialized name. -/
def dashed : Member where
  name := "price"
  container := ⟨"shop#Item"⟩
  target := ⟨"smithy.api#Integer"⟩
  traits := [⟨⟨"smithy.api#required"⟩, "\x7b\x7d"⟩, ⟨⟨"smithy.api#jsonName"⟩, "\"-\""⟩]
  line := 1

/-- The field of such a member is not encoded at all. -/
theorem serialized_name_lost_dashed :
    dashed.jsonName = "-" ∧
      fieldKey? { id := ⟨"shop#Item"⟩, line := 1, body := .structure [dashed] } dashed = none := by
  decide

/-! ## Patterns -/

/-- The constant for a pattern is declared, and what matches values if it can be compiled. -/
def DeclaresPattern (name pattern : String) (items : List Item) : Prop :=
  .const (patternName name) (Naming.stringLiteral pattern) ∈ items ∧
    (Pattern.check pattern = .ok () → matcherItems name ⊆ items)

variable {emitter : Emitter} {kind : SimpleKind} {pattern : String}

theorem declaresPattern_patternItems (isText : kind = .string ∨ kind = .document) (name : String) :
    Ensures (patternItems emitter shape kind name pattern) (DeclaresPattern name pattern) := by
  have text : (kind != .string && kind != .document) = false := by
    rcases isText with rfl | rfl <;> rfl
  unfold patternItems
  simp only [text, Bool.false_eq_true, if_false]
  split
  next problem failed =>
    refine ensures_bind fun _ => ?_
    refine ensures_pure ⟨by simp [patternConstant], fun accepted => ?_⟩
    cases failed.symm.trans accepted
  next =>
    refine ensures_bind fun _ => ?_
    exact ensures_pure ⟨by simp [patternConstant], fun _ => List.subset_append_right _ _⟩

/-- The items of a text with a pattern declare it. -/
def PatternsDeclared (shape : Shape) (items : List Item) : Prop :=
  ∀ kind pattern, shape.body = .simple kind → (kind = .string ∨ kind = .document) →
    shape.traits.pattern? = some pattern →
    DeclaresPattern (Naming.declName shape.id) pattern items

theorem patternsDeclared_shapeItems (shape : Shape) :
    Ensures (shapeItems emitter shape) (PatternsDeclared shape) := by
  intro record items succeeded kind pattern isSimple isText given
  have ofSimple : Ensures (simpleItems emitter shape kind)
      (DeclaresPattern (Naming.declName shape.id) pattern) := by
    unfold simpleItems
    rw [given]
    split
    · exact ensures_throw _ _
    · refine Ensures.after_if ((declaresPattern_patternItems isText _).bind ?_)
      intro declared declares
      refine ensures_pure ⟨List.mem_append_right _ declares.1, fun accepted => ?_⟩
      exact List.subset_append_of_subset_right _ (declares.2 accepted)
  rw [shapeItems, isSimple] at succeeded
  exact ofSimple record items succeeded

theorem patterns_of_emitted {package : Package} {bodies : List FileBody}
    (emitted : (emitPackage emitter).1 = .ok (package, bodies)) :
    ∃ contents, Accepted emitter contents ∧
      ∃ body ∈ bodies, body.name = "types.go" ∧
        ∀ shape ∈ contents.shapes, PatternsDeclared shape (body.items.getD []) := by
  have ofFile (contents : Contents) (file : CodeFile) :
      Ensures (file.items emitter contents) fun items => file = .types →
        ∀ shape ∈ contents.shapes, PatternsDeclared shape (items.getD []) := by
    cases file with
    | types =>
      refine (ensures_parts fun shape _ => patternsDeclared_shapeItems shape).bind ?_
      intro items written
      refine ensures_pure fun _ shape isShape kind pattern isSimple isText given => ?_
      rcases written shape isShape with ⟨part, isPart, declared⟩
      rcases declared kind pattern isSimple isText given with ⟨constant, matcher⟩
      exact ⟨isPart constant, fun accepted => List.Subset.trans (matcher accepted) isPart⟩
    | _ => exact fun _ _ _ other => by cases other
  rcases ensures_files (fun contents _ file => ofFile contents file) {} (package, bodies) emitted
    with ⟨contents, files, accepted, rfl, written⟩
  rcases exists_partner written .types (by decide) with ⟨code, isFile, named, declared⟩
  exact ⟨contents, accepted, code, List.mem_cons_of_mem _ isFile, named, declared rfl⟩

/-- The literal for a text denotes it, apart from the carriage returns of a text without a back
quote.  The constant for a pattern has this literal, and what matches values uses the constant. -/
theorem string_literals_denote (text : String) :
    Code.denoted? (Naming.stringLiteral text) =
        some (if '\x60' ∈ text.toList then text
          else String.ofList (text.toList.filter (· != '\r'))) ∧
      (Code.denoted? (Naming.stringLiteral text) = some text ↔
        '\x60' ∈ text.toList ∨ '\r' ∉ text.toList) ∧
      ∀ (emitter : Emitter) (package : Package) (bodies : List FileBody),
        (emitPackage emitter).1 = .ok (package, bodies) →
        ∃ contents, Accepted emitter contents ∧
          ∃ body ∈ bodies, body.name = "types.go" ∧
            ∀ shape ∈ contents.shapes, ∀ kind, shape.body = .simple kind →
              (kind = .string ∨ kind = .document) → shape.traits.pattern? = some text →
              DeclaresPattern (Naming.declName shape.id) text (body.items.getD []) := by
  have denoted := Code.denoted?_stringLiteral text
  refine ⟨denoted, ?_, fun emitter package bodies emitted => ?_⟩
  · rw [denoted]
    by_cases marked : '\x60' ∈ text.toList
    · simp [marked]
    · rw [if_neg marked, Option.some_inj, ← String.toList_inj, String.toList_ofList,
        List.filter_eq_self]
      simp only [marked, false_or, bne_iff_ne]
      exact ⟨fun kept isIn => kept _ isIn rfl, fun absent c isChar same => absent (same ▸ isChar)⟩
  · rcases patterns_of_emitted emitted with ⟨contents, accepted, body, isBody, named, declared⟩
    exact ⟨contents, accepted, body, isBody, named, fun shape isShape kind =>
      declared shape isShape kind text⟩

open Shop in
theorem string_literals_denote_shop :
    ∃ package bodies, (emitPackage (Shop.emitter false)).1 = .ok (package, bodies) ∧
      ∃ body ∈ bodies, body.name = "types.go" ∧
        DeclaresPattern "Sku" "^[a-z]+$" (body.items.getD []) ∧
        Code.denoted? (Naming.stringLiteral "^[a-z]+$") = some "^[a-z]+$" := by
  rcases Shop.emitted_package false with ⟨package, bodies, emitted⟩
  rcases string_literals_denote "^[a-z]+$" with ⟨-, denotes, declare⟩
  rcases declare _ package bodies emitted with ⟨contents, accepted, body, isBody, named, declared⟩
  obtain rfl := Shop.contents_eq false accepted
  refine ⟨package, bodies, emitted, body, isBody, named, ?_, denotes.mpr (by decide)⟩
  exact declared sku (by decide) .string rfl (.inl rfl) (by decide)

/-- A pattern that can be compiled, whose literal denotes another. -/
theorem pattern_changed_return :
    (Pattern.check "^a\rb$").isOk = true ∧
      Code.denoted? (Naming.stringLiteral "^a\rb$") = some "^ab$" := by
  decide

end ShapeForge.Emit
