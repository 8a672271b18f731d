import Mathlib.Data.List.Forall2
import Mathlib.Data.List.TakeWhile
import ShapeForge.Document.Read
import ShapeForge.Proofs.Json.RoundTrip

/-!
# Documents as JSON

The text of a document value is the compact JSON of it: nothing stands between the tokens, items and
fields keep their order, and strings are escaped so that they can stand in markup and in scripts.
Reading the text gives the value back, without places; a number that JSON cannot spell comes back as
a string.
-/

namespace ShapeForge

namespace Json

/-! ## Escapes -/

/-- The characters that are escaped by a letter, with their letters. -/
def letterEscapes : List (Char × Char) :=
  [('"', '"'), ('\\', '\\'), (Char.ofNat 8, 'b'), (Char.ofNat 12, 'f'), ('\n', 'n'), ('\r', 'r'),
    ('\t', 't')]

/-- Whether a character is a control character, or means something in markup or ends a line in
scripts. -/
def isHarmful (c : Char) : Bool :=
  c.toNat < 32 || c == '<' || c == '>' || c == '&' || c.toNat == 0x2028 || c.toNat == 0x2029

/-- How a character is written: by a letter if it has one, otherwise by its code in lower-case
digits if it is harmful, otherwise as it is. -/
inductive EscapedAs (c : Char) : List Char → Prop where
  | letter {letter : Char} (hasLetter : (c, letter) ∈ letterEscapes) : EscapedAs c ['\\', letter]
  | code {first second third fourth : Char}
      (letterless : ∀ letter, (c, letter) ∉ letterEscapes)
      (harmful : isHarmful c = true)
      (value : hex4? first second third fourth = some c.toNat)
      (lower : ∀ digit ∈ [first, second, third, fourth], digit.isUpper = false) :
      EscapedAs c ['\\', 'u', first, second, third, fourth]
  | plain
      (letterless : ∀ letter, (c, letter) ∉ letterEscapes)
      (harmless : isHarmful c = false) :
      EscapedAs c [c]

theorem isUpper_digitChar : ∀ digit < 16, digit.digitChar.isUpper = false := by
  decide

variable {chars rest : List Char} {c : Char}

theorem escapedAs_codeEscape (letterless : ∀ letter, (c, letter) ∉ letterEscapes)
    (harmful : isHarmful c = true) (small : c.toNat < 0x10000) :
    EscapedAs c (codeEscape c) := by
  rw [codeEscape, toList_hex_four small]
  refine .code letterless harmful (hex4?_digits small) ?_
  simp only [List.forall_mem_cons]
  refine ⟨isUpper_digitChar _ (by omega), isUpper_digitChar _ (by omega),
    isUpper_digitChar _ (by omega), isUpper_digitChar _ (by omega), by simp⟩

theorem escapedAs_escapeChar (c : Char) : EscapedAs c (escapeChar .markup c) := by
  have isMarkup : (Style.markup == Style.markup) = true := rfl
  unfold escapeChar
  simp only [beq_iff_eq, isMarkup, Bool.true_and, Bool.or_eq_true]
  refine iteInduction (fun quote => ?_) fun quoteless => ?_
  · subst quote
    exact .letter (by decide)
  refine iteInduction (fun slash => ?_) fun slashless => ?_
  · subst slash
    exact .letter (by decide)
  refine iteInduction (fun code => .letter (eq_of_toNat_eq code ▸ by decide)) fun noBackspace => ?_
  refine iteInduction (fun code => .letter (eq_of_toNat_eq code ▸ by decide)) fun noFeed => ?_
  refine iteInduction (fun same => .letter (same ▸ by decide)) fun noNewline => ?_
  refine iteInduction (fun same => .letter (same ▸ by decide)) fun noReturn => ?_
  refine iteInduction (fun same => .letter (same ▸ by decide)) fun noTab => ?_
  have letterless (letter : Char) : (c, letter) ∉ letterEscapes := by
    simp only [letterEscapes, List.mem_cons, Prod.mk.injEq, List.not_mem_nil, or_false]
    rintro (⟨rfl, -⟩ | ⟨rfl, -⟩ | ⟨rfl, -⟩ | ⟨rfl, -⟩ | ⟨rfl, -⟩ | ⟨rfl, -⟩ | ⟨rfl, -⟩) <;>
      contradiction
  refine iteInduction (fun control => ?_) fun visible => ?_
  · exact escapedAs_codeEscape letterless (by simp [isHarmful, control]) (by omega)
  refine iteInduction (fun markup => ?_) fun noMarkup => ?_
  · rcases markup with (rfl | rfl) | rfl <;> exact escapedAs_codeEscape letterless rfl (by decide)
  refine iteInduction (fun separator => ?_) fun noSeparator => ?_
  · refine escapedAs_codeEscape letterless ?_ (by omega)
    rcases separator with first | second
    · simp [isHarmful, first]
    · simp [isHarmful, second]
  · exact .plain letterless (by simp_all [isHarmful])

/-- A text without anything harmful. -/
def Harmless (chars : List Char) : Prop :=
  ∀ c ∈ chars, isHarmful c = false

theorem harmless_nil : Harmless [] := by
  simp [Harmless]

theorem harmless_cons : Harmless (c :: chars) ↔ isHarmful c = false ∧ Harmless chars :=
  List.forall_mem_cons

theorem harmless_of_all (all : (chars.all fun c => !isHarmful c) = true) : Harmless chars := by
  intro c isChar
  simpa using List.all_eq_true.mp all c isChar

theorem harmless_append {left right : List Char} :
    Harmless (left ++ right) ↔ Harmless left ∧ Harmless right :=
  List.forall_mem_append

theorem isHarmful_eq_false (visible : 32 ≤ c.toNat) (small : c.toNat < 128)
    (others : c.toNat ∉ [60, 62, 38]) :
    isHarmful c = false := by
  have codes : [60, 62, 38] = ['<'.toNat, '>'.toNat, '&'.toNat] := rfl
  simp only [codes, List.mem_cons, List.not_mem_nil, or_false, not_or, Char.toNat_inj] at others
  simp only [isHarmful, Bool.or_eq_false_iff, beq_eq_false_iff_ne, decide_eq_false_iff_not]
  exact ⟨⟨⟨⟨⟨by omega, others.1⟩, others.2.1⟩, others.2.2⟩, by omega⟩, by omega⟩

theorem isHarmful_of_isDigit (digit : c.isDigit = true) : isHarmful c = false := by
  simp only [Char.isDigit, Bool.and_eq_true, decide_eq_true_eq] at digit
  have bounds : 48 ≤ c.toNat ∧ c.toNat ≤ 57 := digit
  exact isHarmful_eq_false (by omega) (by omega) (by simp; omega)

theorem isHarmful_of_hexValue? {value : Nat} (isDigit : hexValue? c = some value) :
    isHarmful c = false := by
  have bounds : (48 ≤ c.toNat ∧ c.toNat ≤ 57) ∨ (97 ≤ c.toNat ∧ c.toNat ≤ 102) ∨
      (65 ≤ c.toNat ∧ c.toNat ≤ 70) := by
    unfold hexValue? at isDigit
    split at isDigit
    · exact Or.inl ‹_›
    · split at isDigit
      · exact Or.inr (Or.inl ‹_›)
      · split at isDigit
        · exact Or.inr (Or.inr ‹_›)
        · cases isDigit
  exact isHarmful_eq_false (by omega) (by omega) (by simp; omega)

/-- What an escaped character is written as holds nothing harmful. -/
theorem EscapedAs.harmless (escaped : EscapedAs c chars) : Harmless chars := by
  have slash : isHarmful '\\' = false := rfl
  cases escaped with
  | letter hasLetter =>
    have letters : ∀ entry ∈ letterEscapes, isHarmful entry.2 = false := by decide
    exact harmless_cons.mpr ⟨slash, harmless_cons.mpr ⟨letters _ hasLetter, harmless_nil⟩⟩
  | code letterless harmful value lower =>
    simp only [hex4?, Option.bind_eq_bind, Option.bind_eq_some_iff] at value
    obtain ⟨_, first, _, second, _, third, _, fourth, -⟩ := value
    have mark : isHarmful 'u' = false := rfl
    simp only [harmless_cons]
    exact ⟨slash, mark, isHarmful_of_hexValue? first, isHarmful_of_hexValue? second,
      isHarmful_of_hexValue? third, isHarmful_of_hexValue? fourth, harmless_nil⟩
  | plain letterless harmless => exact harmless_cons.mpr ⟨harmless, harmless_nil⟩

/-- A string between quotation marks, with every character escaped. -/
def QuotedAs (text : String) (chars : List Char) : Prop :=
  ∃ parts, List.Forall₂ EscapedAs text.toList parts ∧ chars = '"' :: (parts.flatten ++ ['"'])

theorem forall₂_escapedAs (chars : List Char) :
    List.Forall₂ EscapedAs chars (chars.map (escapeChar .markup)) := by
  induction chars with
  | nil => exact .nil
  | cons c rest ih => exact .cons (escapedAs_escapeChar c) ih

theorem escapeChars_eq (style : Style) (chars : List Char) :
    escapeChars style chars = (chars.map (escapeChar style)).flatten := by
  induction chars with
  | nil => rfl
  | cons c rest ih => rw [escapeChars, ih, List.map_cons, List.flatten_cons]

theorem quotedAs_quoteChars (text : String) : QuotedAs text (quoteChars .markup text) :=
  ⟨_, forall₂_escapedAs text.toList, by rw [quoteChars, escapeChars_eq]⟩

theorem harmless_flatten {parts : List (List Char)} (escaped : List.Forall₂ EscapedAs chars parts) :
    Harmless parts.flatten := by
  induction escaped with
  | nil => exact harmless_nil
  | cons isEscaped _ ih => exact harmless_append.mpr ⟨isEscaped.harmless, ih⟩

theorem QuotedAs.harmless {text : String} (quoted : QuotedAs text chars) : Harmless chars := by
  obtain ⟨parts, escaped, rfl⟩ := quoted
  have quote : isHarmful '"' = false := rfl
  exact harmless_cons.mpr ⟨quote, harmless_append.mpr ⟨harmless_flatten escaped,
    harmless_cons.mpr ⟨quote, harmless_nil⟩⟩⟩

/-! ## Number literals -/

theorem harmless_of_readDigits? {digits : List Char}
    (read : readDigits? chars = some (digits, rest)) :
    Harmless digits := by
  have isSpan : digits = chars.takeWhile Char.isDigit := by
    rw [readDigits?, spanDigits, List.span_eq_takeWhile_dropWhile] at read
    split at read
    · cases read
    · rename_i spanned
      cases read
      exact (congrArg Prod.fst spanned).symm
  rw [isSpan]
  exact fun c isDigit => isHarmful_of_isDigit (List.mem_takeWhile_imp isDigit)

theorem harmless_of_readWhole? {whole : List Char} (read : readWhole? chars = some (whole, rest)) :
    Harmless whole := by
  cases chars with
  | nil => cases read
  | cons c chars =>
    by_cases zero : c = '0'
    · cases zero
      cases read
      exact harmless_cons.mpr ⟨rfl, harmless_nil⟩
    · rw [readWhole?_cons chars zero] at read
      exact harmless_of_readDigits? read

theorem harmless_of_readFraction? {fraction : List Char}
    (read : readFraction? chars = some (fraction, rest)) :
    Harmless fraction := by
  cases chars with
  | nil =>
    cases read
    exact harmless_nil
  | cons c chars =>
    by_cases point : c = '.'
    · cases point
      rw [readFraction?_point] at read
      obtain ⟨⟨digits, behind⟩, digitsRead, same⟩ := Option.map_eq_some_iff.mp read
      cases same
      exact harmless_cons.mpr ⟨rfl, harmless_of_readDigits? digitsRead⟩
    · rw [readFraction?_cons chars point] at read
      cases read
      exact harmless_nil

theorem harmless_spanSign (chars : List Char) : Harmless (spanSign chars).1 := by
  unfold spanSign
  split
  · exact harmless_cons.mpr ⟨rfl, harmless_nil⟩
  · exact harmless_cons.mpr ⟨rfl, harmless_nil⟩
  · exact harmless_nil

theorem harmless_of_readExponent? {exponent : List Char}
    (read : readExponent? chars = some (exponent, rest)) :
    Harmless exponent := by
  cases chars with
  | nil =>
    cases read
    exact harmless_nil
  | cons c chars =>
    cases mark : (c == 'e' || c == 'E') with
    | true =>
      rw [readExponent?_mark chars mark] at read
      obtain ⟨⟨digits, behind⟩, digitsRead, same⟩ := Option.map_eq_some_iff.mp read
      cases same
      refine harmless_cons.mpr ⟨?_, harmless_append.mpr ⟨harmless_spanSign chars,
        harmless_of_readDigits? digitsRead⟩⟩
      simp only [Bool.or_eq_true, beq_iff_eq] at mark
      rcases mark with rfl | rfl <;> rfl
    | false =>
      rw [readExponent?_cons chars mark] at read
      cases read
      exact harmless_nil

theorem IsNumber.harmless {literal : String} (isNumber : IsNumber literal) :
    Harmless literal.toList := by
  obtain ⟨whole, afterWhole, fraction, afterFraction, exponent, wholeRead, fractionRead,
    exponentRead, parts⟩ := readNumber?_eq_some.mp isNumber
  have sign : Harmless (spanMinus literal.toList).1 := by
    unfold spanMinus
    split
    · exact harmless_cons.mpr ⟨rfl, harmless_nil⟩
    · exact harmless_nil
  rw [parts]
  simp only [harmless_append]
  exact ⟨⟨⟨sign, harmless_of_readWhole? wholeRead⟩, harmless_of_readFraction? fractionRead⟩,
    harmless_of_readExponent? exponentRead⟩

end Json

namespace Document.Value

open ShapeForge.Yaml (Position)

/-! ## Values and their JSON -/

mutual

def numerals : Value → List String
  | .number _ text => [text]
  | .array _ items => numeralsOfItems items
  | .object _ fields => numeralsOfFields fields
  | _ => []

def numeralsOfItems : List Value → List String
  | [] => []
  | item :: rest => numerals item ++ numeralsOfItems rest

def numeralsOfFields : List (String × Position × Value) → List String
  | [] => []
  | (_, _, value) :: rest => numerals value ++ numeralsOfFields rest

end

/-- A text is a number of JSON, or not JSON at all. -/
def Clear (text : String) : Prop :=
  Json.IsNumber text ∨ Json.isJson text = false

instance (text : String) : Decidable (Clear text) :=
  inferInstanceAs (Decidable (_ ∨ _))

mutual

/-- A value is the same tree as a JSON value, places and the spelling of null apart.  A number that
JSON cannot spell is the string of its text. -/
inductive SameTree : Value → Json → Prop where
  | null {position : Position} {text : String} : SameTree (.null position text) .null
  | bool {position : Position} {truth : Bool} : SameTree (.bool position truth) (.bool truth)
  | number {position : Position} {text : String} (isNumber : Json.IsNumber text) :
      SameTree (.number position text) (.number text)
  | spelled {position : Position} {text : String} (foreign : Json.isJson text = false) :
      SameTree (.number position text) (.string text)
  | string {position : Position} {text : String} : SameTree (.string position text) (.string text)
  | array {position : Position} {items : List Value} {trees : List Json}
      (same : SameItems items trees) :
      SameTree (.array position items) (.array trees)
  | object {position : Position} {fields : List (String × Position × Value)}
      {trees : List (String × Json)} (same : SameFields fields trees) :
      SameTree (.object position fields) (.object trees)

/-- Items are the same trees in the same order. -/
inductive SameItems : List Value → List Json → Prop where
  | nil : SameItems [] []
  | cons {item : Value} {tree : Json} {items : List Value} {trees : List Json}
      (first : SameTree item tree) (others : SameItems items trees) :
      SameItems (item :: items) (tree :: trees)

/-- Fields have the same keys and are the same trees in the same order. -/
inductive SameFields : List (String × Position × Value) → List (String × Json) → Prop where
  | nil : SameFields [] []
  | cons {key : String} {position : Position} {value : Value} {tree : Json}
      {fields : List (String × Position × Value)} {trees : List (String × Json)}
      (first : SameTree value tree) (others : SameFields fields trees) :
      SameFields ((key, position, value) :: fields) ((key, tree) :: trees)

end

mutual

/-- The compact text of a value. -/
inductive Written : Value → List Char → Prop where
  | null {position : Position} {text : String} : Written (.null position text) "null".toList
  | yes {position : Position} : Written (.bool position true) "true".toList
  | no {position : Position} : Written (.bool position false) "false".toList
  | number {position : Position} {text : String} (isNumber : Json.IsNumber text) :
      Written (.number position text) text.toList
  | spelled {position : Position} {text : String} {chars : List Char}
      (foreign : Json.isJson text = false) (quoted : Json.QuotedAs text chars) :
      Written (.number position text) chars
  | string {position : Position} {text : String} {chars : List Char}
      (quoted : Json.QuotedAs text chars) :
      Written (.string position text) chars
  | array {position : Position} {items : List Value} {chars : List Char}
      (written : WrittenItems items chars) :
      Written (.array position items) ('[' :: (chars ++ [']']))
  | object {position : Position} {fields : List (String × Position × Value)} {chars : List Char}
      (written : WrittenFields fields chars) :
      Written (.object position fields) ('\x7b' :: (chars ++ ['\x7d']))

inductive WrittenItems : List Value → List Char → Prop where
  | none : WrittenItems [] []
  | last {item : Value} {chars : List Char} (written : Written item chars) :
      WrittenItems [item] chars
  | more {item next : Value} {items : List Value} {chars others : List Char}
      (written : Written item chars) (rest : WrittenItems (next :: items) others) :
      WrittenItems (item :: next :: items) (chars ++ ',' :: others)

/-- Fields with their keys and with commas between them. -/
inductive WrittenFields : List (String × Position × Value) → List Char → Prop where
  | none : WrittenFields [] []
  | last {key : String} {position : Position} {value : Value} {name chars : List Char}
      (quoted : Json.QuotedAs key name) (written : Written value chars) :
      WrittenFields [(key, position, value)] (name ++ ':' :: chars)
  | more {key : String} {position : Position} {value : Value}
      {next : String × Position × Value} {fields : List (String × Position × Value)}
      {name chars others : List Char}
      (quoted : Json.QuotedAs key name) (written : Written value chars)
      (rest : WrittenFields (next :: fields) others) :
      WrittenFields ((key, position, value) :: next :: fields)
        (name ++ ':' :: (chars ++ ',' :: others))

end

theorem sameTree_numberJson {position : Position} {text : String} (clear : Clear text) :
    SameTree (.number position text) (numberJson text) := by
  rcases clear with isNumber | foreign
  · have wellFormed : (Json.number text).WellFormed := by
      simpa [Json.WellFormed, Json.literals] using isNumber
    have read : Json.read? text = some (.number text) := by
      simpa [Json.write, Json.writeChars] using Json.read?_write .markup wellFormed
    rw [numberJson, read]
    exact .number isNumber
  · have unread : Json.read? text = none := by
      simpa [Json.isJson] using foreign
    rw [numberJson, unread]
    exact .spelled foreign

mutual

theorem sameTree_toJson (value : Value) (clear : ∀ text ∈ value.numerals, Clear text) :
    SameTree value value.toJson :=
  match value with
  | .null _ _ => .null
  | .bool _ _ => .bool
  | .number _ text => sameTree_numberJson (clear text List.mem_cons_self)
  | .string _ _ => .string
  | .array _ items => .array (sameItems_toJson items clear)
  | .object _ fields => .object (sameFields_toJson fields clear)

theorem sameItems_toJson (items : List Value) (clear : ∀ text ∈ numeralsOfItems items, Clear text) :
    SameItems items (itemsToJson items) :=
  match items with
  | [] => .nil
  | item :: rest =>
    .cons (sameTree_toJson item fun text isNumeral => clear text (List.mem_append_left _ isNumeral))
      (sameItems_toJson rest fun text isNumeral => clear text (List.mem_append_right _ isNumeral))

theorem sameFields_toJson (fields : List (String × Position × Value))
    (clear : ∀ text ∈ numeralsOfFields fields, Clear text) :
    SameFields fields (fieldsToJson fields) :=
  match fields with
  | [] => .nil
  | (_, _, value) :: rest =>
    .cons (sameTree_toJson value fun text isNumeral => clear text (List.mem_append_left _ isNumeral))
      (sameFields_toJson rest fun text isNumeral => clear text (List.mem_append_right _ isNumeral))

end

mutual

/-- The numbers of a tree that is the same as a value are literals. -/
theorem SameTree.wellFormed {value : Value} {tree : Json} :
    SameTree value tree → tree.WellFormed
  | .null | .bool | .spelled _ | .string => by simp [Json.WellFormed, Json.literals]
  | .number isNumber => by simpa [Json.WellFormed, Json.literals] using isNumber
  | .array same => same.wellFormed
  | .object same => same.wellFormed

theorem SameItems.wellFormed {items : List Value} {trees : List Json} :
    SameItems items trees → ∀ literal ∈ Json.literalsOfItems trees, Json.IsNumber literal
  | .nil => by simp [Json.literalsOfItems]
  | .cons first others => List.forall_mem_append.mpr ⟨first.wellFormed, others.wellFormed⟩

theorem SameFields.wellFormed
    {fields : List (String × Position × Value)} {trees : List (String × Json)} :
    SameFields fields trees → ∀ literal ∈ Json.literalsOfFields trees, Json.IsNumber literal
  | .nil => by simp [Json.literalsOfFields]
  | .cons first others => List.forall_mem_append.mpr ⟨first.wellFormed, others.wellFormed⟩

end

mutual

theorem SameTree.written {value : Value} {tree : Json} :
    SameTree value tree → Written value (Json.writeChars .markup tree)
  | .null => .null
  | .bool => by
    rename_i truth
    cases truth with
    | true => exact .yes
    | false => exact .no
  | .number isNumber => .number isNumber
  | .spelled foreign => .spelled foreign (Json.quotedAs_quoteChars _)
  | .string => .string (Json.quotedAs_quoteChars _)
  | .array same => by
    obtain ⟨chars, written, text⟩ := same.written
    rw [Json.writeChars, text]
    exact .array written
  | .object same => by
    obtain ⟨chars, written, text⟩ := same.written
    rw [Json.writeChars, text]
    exact .object written

theorem SameItems.written {items : List Value} {trees : List Json} :
    SameItems items trees →
      ∃ chars, WrittenItems items chars ∧ Json.writeItems .markup trees = chars ++ [']']
  | .nil => ⟨[], .none, rfl⟩
  | .cons first .nil => ⟨_, .last first.written, rfl⟩
  | .cons first (.cons next others) => by
    obtain ⟨chars, written, text⟩ := (SameItems.cons next others).written
    refine ⟨_, .more first.written written, ?_⟩
    rw [List.append_assoc, List.cons_append, ← text]
    rfl

theorem SameFields.written
    {fields : List (String × Position × Value)} {trees : List (String × Json)} :
    SameFields fields trees →
      ∃ chars, WrittenFields fields chars ∧ Json.writeFields .markup trees = chars ++ ['\x7d']
  | .nil => ⟨[], .none, rfl⟩
  | .cons first .nil =>
    ⟨_, .last (Json.quotedAs_quoteChars _) first.written,
      by simp [Json.writeFields, Json.writeMoreFields]⟩
  | .cons first (.cons next others) => by
    obtain ⟨chars, written, text⟩ := (SameFields.cons next others).written
    refine ⟨_, .more (Json.quotedAs_quoteChars _) first.written written, ?_⟩
    rw [Json.writeFields, List.append_assoc, List.cons_append, List.append_assoc,
      List.cons_append, ← text]
    rfl

end

mutual

theorem Written.harmless {value : Value} {chars : List Char} :
    Written value chars → Json.Harmless chars
  | .null | .yes | .no => Json.harmless_of_all rfl
  | .number isNumber => isNumber.harmless
  | .spelled _ quoted | .string quoted => quoted.harmless
  | .array written =>
    Json.harmless_cons.mpr ⟨rfl, Json.harmless_append.mpr ⟨written.harmless,
      Json.harmless_cons.mpr ⟨rfl, Json.harmless_nil⟩⟩⟩
  | .object written =>
    Json.harmless_cons.mpr ⟨rfl, Json.harmless_append.mpr ⟨written.harmless,
      Json.harmless_cons.mpr ⟨rfl, Json.harmless_nil⟩⟩⟩

theorem WrittenItems.harmless {items : List Value} {chars : List Char} :
    WrittenItems items chars → Json.Harmless chars
  | .none => Json.harmless_nil
  | .last written => written.harmless
  | .more written rest =>
    Json.harmless_append.mpr ⟨written.harmless, Json.harmless_cons.mpr ⟨rfl, rest.harmless⟩⟩

theorem WrittenFields.harmless {fields : List (String × Position × Value)} {chars : List Char} :
    WrittenFields fields chars → Json.Harmless chars
  | .none => Json.harmless_nil
  | .last quoted written =>
    Json.harmless_append.mpr ⟨quoted.harmless, Json.harmless_cons.mpr ⟨rfl, written.harmless⟩⟩
  | .more quoted written rest =>
    Json.harmless_append.mpr ⟨quoted.harmless, Json.harmless_cons.mpr ⟨rfl,
      Json.harmless_append.mpr ⟨written.harmless,
        Json.harmless_cons.mpr ⟨rfl, rest.harmless⟩⟩⟩⟩

end

/-- A value whose numbers are numbers of JSON, or not JSON at all, is read back from its text as the
same tree.  The text is compact, strings are escaped in it, and it holds no control character and
nothing that means something in markup or ends a line in scripts. -/
theorem json_reads_back
    {value : Value}
    (clear : ∀ text ∈ value.numerals, Clear text) :
    (∃ tree, Json.read? value.json = some tree ∧ SameTree value tree) ∧
      Written value value.json.toList ∧
      ∀ c ∈ value.json.toList, Json.isHarmful c = false := by
  have same := sameTree_toJson value clear
  have written : Written value value.json.toList := by
    rw [json, Json.write, String.toList_ofList]
    exact same.written
  exact ⟨⟨value.toJson, Json.read?_write .markup same.wellFormed, same⟩, written,
    written.harmless⟩

/-- A label with every kind of value, a repeated key, and numbers of both sorts. -/
def label : Value :=
  .object {} [
    ("to<from", {}, .string {} "a \"b\" \\ &\n\x01\u2028 😀"),
    ("weights", {}, .array {} [.number {} "-1.5e3", .number {} "0x1F", .null {} "~"]),
    ("weights", {}, .object {} []),
    ("sealed", {}, .array {} [.bool {} true, .array {} []])]

theorem json_reads_back_label :
    (∀ text ∈ label.numerals, Clear text) ∧
      label.json =
        "\x7b\"to\\u003cfrom\":\"a \\\"b\\\" \\\\ \\u0026\\n\\u0001\\u2028 😀\"," ++
          "\"weights\":[-1.5e3,\"0x1F\",null],\"weights\":\x7b\x7d,\"sealed\":[true,[]]\x7d" ∧
      ∃ tree, Json.read? label.json = some tree ∧ SameTree label tree := by
  have clear : ∀ text ∈ label.numerals, Clear text := by decide
  exact ⟨clear, by decide +kernel, (json_reads_back clear).1⟩

end Document.Value

end ShapeForge
