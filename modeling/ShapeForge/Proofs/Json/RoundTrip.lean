import ShapeForge.Json.Write
import ShapeForge.Proofs.Json.Number

/-!
# Reading back what was written

The text of a value, in either style, is read as that value, provided that its numbers are number
literals.  The readers are given the text of a part together with whatever follows it, and a budget
as long as the text.
-/

namespace ShapeForge.Json

variable {code : Nat} {c : Char}

/-! ## Strings -/

theorem hexValue?_digitChar : ∀ digit < 16, hexValue? digit.digitChar = some digit := by
  decide

/-- The last hexadecimal digit of a padded number, behind those of the number without it. -/
theorem toList_hex_succ (width code : Nat) :
    (Text.hex (width + 2) code).toList =
      (Text.hex (width + 1) (code / 16)).toList ++ [(code % 16).digitChar] := by
  simp only [Text.hex, String.toList_ofList]
  by_cases small : code < 16
  · rw [Nat.toDigits_of_lt_base small, Nat.div_eq_of_lt small, Nat.mod_eq_of_lt small]
    simp [List.replicate_succ']
  · rw [Nat.toDigits_eq_if (by decide), if_neg small]
    simp

theorem toList_hex_one (small : code < 16) : (Text.hex 1 code).toList = [code.digitChar] := by
  rw [Text.hex, Nat.toDigits_of_lt_base small]
  simp

/-- Four hexadecimal digits are enough for a code below 65536. -/
theorem toList_hex_four (small : code < 0x10000) :
    (Text.hex 4 code).toList =
      [(code / 16 / 16 / 16).digitChar, (code / 16 / 16 % 16).digitChar,
        (code / 16 % 16).digitChar, (code % 16).digitChar] := by
  rw [toList_hex_succ, toList_hex_succ, toList_hex_succ, toList_hex_one (by omega)]
  rfl

theorem hex4?_digits (small : code < 0x10000) :
    hex4? (code / 16 / 16 / 16).digitChar (code / 16 / 16 % 16).digitChar
        (code / 16 % 16).digitChar (code % 16).digitChar = some code := by
  have thousands := hexValue?_digitChar (code / 16 / 16 / 16) (by omega)
  have hundreds := hexValue?_digitChar (code / 16 / 16 % 16) (by omega)
  have tens := hexValue?_digitChar (code / 16 % 16) (by omega)
  have units := hexValue?_digitChar (code % 16) (by omega)
  have joined : ((code / 16 / 16 / 16 * 16 + code / 16 / 16 % 16) * 16 + code / 16 % 16) * 16 +
      code % 16 = code := by omega
  simp only [hex4?, thousands, hundreds, tens, units, Option.bind_eq_bind, Option.bind_some, joined]
  rfl

/-- No character is half of a pair. -/
theorem not_isSurrogate_toNat (c : Char) : isSurrogate c.toNat = false := by
  have valid : c.toNat.isValidChar := c.valid
  unfold Nat.isValidChar at valid
  simp only [isSurrogate, Bool.and_eq_false_iff, decide_eq_false_iff_not]
  omega

theorem eq_of_toNat_eq (same : c.toNat = code) : c = Char.ofNat code := by
  rw [← same, Char.ofNat_toNat]

/-- How a character may be written inside a string. -/
inductive Escaped (c : Char) : List Char → Prop where
  | short {letter} (unescaped : unescape? letter = some c) (codeless : letter ≠ 'u') :
      Escaped c ['\\', letter]
  | code (small : c.toNat < 0x10000) : Escaped c (codeEscape c)
  | plain (quoteless : c ≠ '"') (slashless : c ≠ '\\') (visible : ¬c.toNat < 32) : Escaped c [c]

variable (style : Style)

theorem escaped_escapeChar (c : Char) : Escaped c (escapeChar style c) := by
  unfold escapeChar
  simp only [beq_iff_eq, Bool.or_eq_true, Bool.and_eq_true]
  refine iteInduction (fun quote => ?_) fun quoteless => ?_
  · subst quote
    exact .short rfl (by decide)
  refine iteInduction (fun slash => ?_) fun slashless => ?_
  · subst slash
    exact .short rfl (by decide)
  refine iteInduction (fun code => .short (eq_of_toNat_eq code ▸ rfl) (by decide)) fun _ => ?_
  refine iteInduction (fun code => .short (eq_of_toNat_eq code ▸ rfl) (by decide)) fun _ => ?_
  refine iteInduction (fun newline => .short (newline ▸ rfl) (by decide)) fun _ => ?_
  refine iteInduction (fun carriage => .short (carriage ▸ rfl) (by decide)) fun _ => ?_
  refine iteInduction (fun tab => .short (tab ▸ rfl) (by decide)) fun _ => ?_
  refine iteInduction (fun control => .code (by omega)) fun visible => ?_
  refine iteInduction (fun markup => .code ?_) fun _ => ?_
  · rcases markup.2 with (rfl | rfl) | rfl <;> decide
  · exact iteInduction (fun separator => .code (by omega)) fun _ =>
      .plain quoteless slashless visible

theorem Escaped.readString {chars : List Char} (escaped : Escaped c chars) (fuel : Nat)
    (rest : List Char) :
    Json.readString (fuel + 1) (chars ++ rest) =
      (Json.readString fuel rest).map fun (text, rest) => (c :: text, rest) := by
  cases escaped with
  | short unescaped codeless =>
    change Json.readString (fuel + 1) ('\\' :: _ :: rest) = _
    rw [Json.readString]
    · simp only [unescaped, Option.bind_eq_bind, Option.bind_some]
      cases Json.readString fuel rest <;> rfl
    · intro a b d e after isCode
      exact (codeless isCode).elim
  | code small =>
    unfold codeEscape
    rw [toList_hex_four small]
    simp only [List.cons_append, List.nil_append, Json.readString, hex4?_digits small,
      not_isSurrogate_toNat, Option.bind_eq_bind, Option.bind_some, Char.ofNat_toNat]
    cases Json.readString fuel rest <;> rfl
  | plain quoteless slashless visible =>
    change Json.readString (fuel + 1) (c :: rest) = _
    rw [Json.readString]
    · simp only [slashless, visible, beq_iff_eq, decide_false, Bool.or_false, if_false]
      cases Json.readString fuel rest <;> rfl
    · exact quoteless
    · rintro a b d e after rfl
      exact (slashless rfl).elim
    · intro d after isSlash
      exact (slashless isSlash).elim

theorem Escaped.length_pos {chars : List Char} (escaped : Escaped c chars) : 0 < chars.length := by
  cases escaped with
  | short | code | plain => exact Nat.zero_lt_succ _

theorem length_le_length_escapeChars (chars : List Char) :
    chars.length ≤ (escapeChars style chars).length := by
  induction chars with
  | nil => exact Nat.le_refl 0
  | cons c rest ih =>
    have pos := (escaped_escapeChar style c).length_pos
    simp only [escapeChars, List.length_cons, List.length_append]
    omega

theorem readString_escapeChars (chars rest : List Char) (fuel : Nat)
    (enough : chars.length < fuel) :
    readString fuel (escapeChars style chars ++ '"' :: rest) = some (chars, rest) := by
  induction chars generalizing fuel with
  | nil =>
    cases fuel with
    | zero => cases enough
    | succ fuel => rfl
  | cons c chars ih =>
    cases fuel with
    | zero => cases enough
    | succ fuel =>
      have below : chars.length < fuel := Nat.lt_of_succ_lt_succ enough
      rw [escapeChars, List.append_assoc, (escaped_escapeChar style c).readString, ih fuel below]
      rfl

/-- A quoted text is read back, whatever follows it. -/
theorem readString_quoted (text : String) (rest : List Char) :
    readString ((escapeChars style text.toList ++ '"' :: rest).length + 1)
        (escapeChars style text.toList ++ '"' :: rest) = some (text.toList, rest) := by
  refine readString_escapeChars style text.toList rest _ ?_
  have longer := length_le_length_escapeChars style text.toList
  simp only [List.length_append, List.length_cons]
  omega

/-! ## Values -/

mutual

def literals : Json → List String
  | .number literal => [literal]
  | .array items => literalsOfItems items
  | .object fields => literalsOfFields fields
  | _ => []

def literalsOfItems : List Json → List String
  | [] => []
  | item :: rest => literals item ++ literalsOfItems rest

def literalsOfFields : List (String × Json) → List String
  | [] => []
  | (_, value) :: rest => literals value ++ literalsOfFields rest

end

/-- Every number of the value is one. -/
def WellFormed (value : Json) : Prop :=
  ∀ literal ∈ value.literals, IsNumber literal

variable {rest : List Char}

theorem ne_of_leading {other : Char} (leading : c = '-' ∨ c.isDigit = true)
    (differs : (other == '-' || other.isDigit) = false) :
    c ≠ other := by
  rintro rfl
  rcases leading with rfl | digit
  · cases differs
  · rw [digit, Bool.or_true] at differs
    cases differs

theorem isSpace_of_leading (leading : c = '-' ∨ c.isDigit = true) : isSpace c = false := by
  simp only [isSpace, Bool.or_eq_false_iff, beq_eq_false_iff_ne]
  exact ⟨⟨⟨ne_of_leading leading rfl, ne_of_leading leading rfl⟩, ne_of_leading leading rfl⟩,
    ne_of_leading leading rfl⟩

theorem skipSpace_cons (rest : List Char) (visible : isSpace c = false) :
    skipSpace (c :: rest) = c :: rest := by
  simp [skipSpace, visible]

/-- A written value starts with a character of its own. -/
theorem writeChars_starts {value : Json} (wellFormed : value.WellFormed) :
    ∃ c chars, writeChars style value = c :: chars ∧
      isSpace c = false ∧ c ≠ ']' := by
  cases value with
  | null => exact ⟨'n', _, rfl, rfl, by decide⟩
  | bool value =>
    cases value with
    | false => exact ⟨'f', _, rfl, rfl, by decide⟩
    | true => exact ⟨'t', _, rfl, rfl, by decide⟩
  | string text => exact ⟨'"', _, rfl, rfl, by decide⟩
  | array items => exact ⟨'[', _, rfl, rfl, by decide⟩
  | object fields => exact ⟨'\x7b', _, rfl, rfl, by decide⟩
  | number literal =>
    obtain ⟨c, chars, characters, leading⟩ :=
      (wellFormed literal List.mem_cons_self).starts
    exact ⟨c, chars, characters, isSpace_of_leading leading, ne_of_leading leading rfl⟩

theorem readValue_number (fuel : Nat) {literal : String}
    (isNumber : IsNumber literal) (ends : EndsNumber rest) :
    readValue (fuel + 1) (literal.toList ++ rest) = some (.number literal, rest) := by
  obtain ⟨c, chars, characters, leading⟩ := isNumber.starts
  have read := isNumber.readNumber? ends
  rw [characters, List.cons_append] at read ⊢
  rw [readValue, skipSpace_cons _ (isSpace_of_leading leading)]
  have braceless : c ≠ '\x7b' := ne_of_leading leading rfl
  have bracketless : c ≠ '[' := ne_of_leading leading rfl
  have quoteless : c ≠ '"' := ne_of_leading leading rfl
  have trueless : c ≠ 't' := ne_of_leading leading rfl
  have falseless : c ≠ 'f' := ne_of_leading leading rfl
  have nullless : c ≠ 'n' := ne_of_leading leading rfl
  simp only [List.cons.injEq, braceless, bracketless, quoteless, trueless, falseless, nullless,
    false_and, imp_self, implies_true, read, Option.bind_eq_bind, Option.bind_some]
  rw [← characters, String.ofList_toList]
  rfl

variable (item : Json) (items : List Json) (key : String) (value : Json)
variable (fields : List (String × Json))

theorem endsNumber_writeMoreItems (rest : List Char) :
    EndsNumber (writeMoreItems style items ++ rest) := by
  cases items <;> exact endsNumber_cons _ rfl

theorem endsNumber_writeMoreFields (rest : List Char) :
    EndsNumber (writeMoreFields style fields ++ rest) := by
  cases fields <;> exact endsNumber_cons _ rfl

theorem readValue_string (fuel : Nat) (text : String) (rest : List Char) :
    readValue (fuel + 1) (quoteChars style text ++ rest) = some (.string text, rest) := by
  rw [quoteChars, List.cons_append, List.append_assoc, readValue,
    skipSpace_cons _ (show isSpace '"' = false from rfl)]
  simp only [List.cons_append, List.nil_append, readString_quoted, Option.bind_eq_bind,
    Option.bind_some, String.ofList_toList]
  rfl

theorem readValue_array (fuel : Nat) (rest : List Char)
    (visible : isSpace c = false) (inside : c ≠ ']') :
    readValue (fuel + 1) ('[' :: c :: rest) =
      (readItems fuel (c :: rest)).map fun (items, rest) => (.array items, rest) := by
  simp only [readValue, skipSpace_cons _ (show isSpace '[' = false from rfl),
    skipSpace_cons _ visible, List.cons.injEq, inside, false_and, imp_self, implies_true]
  cases readItems fuel (c :: rest) <;> rfl

theorem readValue_object (fuel : Nat) (rest : List Char)
    (visible : isSpace c = false) (inside : c ≠ '\x7d') :
    readValue (fuel + 1) ('\x7b' :: c :: rest) =
      (readFields fuel (c :: rest)).map fun (fields, rest) => (.object fields, rest) := by
  simp only [readValue, skipSpace_cons _ (show isSpace '\x7b' = false from rfl),
    skipSpace_cons _ visible, List.cons.injEq, inside, false_and, imp_self, implies_true]
  cases readFields fuel (c :: rest) <;> rfl

/-! How a sequence is written, without the other cases of the writer. -/

theorem writeItems_cons :
    writeItems style (item :: items) = writeChars style item ++ writeMoreItems style items :=
  rfl

theorem writeMoreItems_cons :
    writeMoreItems style (item :: items) = ',' :: writeItems style (item :: items) :=
  rfl

theorem writeFields_cons :
    writeFields style ((key, value) :: fields) =
      quoteChars style key ++ ':' :: (writeChars style value ++ writeMoreFields style fields) :=
  rfl

theorem writeMoreFields_cons (field : String × Json) :
    writeMoreFields style (field :: fields) = ',' :: writeFields style (field :: fields) :=
  rfl

theorem readItems_succ {style : Style} {fuel : Nat} {item : Json} {items : List Json}
    (first : readValue fuel (writeChars style item ++ (writeMoreItems style items ++ rest)) =
      some (item, writeMoreItems style items ++ rest))
    (others : items ≠ [] → readItems fuel (writeItems style items ++ rest) = some (items, rest)) :
    readItems (fuel + 1) (writeItems style (item :: items) ++ rest) =
      some (item :: items, rest) := by
  rw [writeItems_cons, List.append_assoc, readItems, first]
  cases items with
  | nil => rfl
  | cons next items =>
    have read := others (List.cons_ne_nil next items)
    simp only [Option.bind_eq_bind, Option.bind_some, writeMoreItems_cons, List.cons_append,
      skipSpace_cons _ (show isSpace ',' = false from rfl), read]
    rfl

theorem readFields_succ
    {style : Style} {fuel : Nat} {key : String} {value : Json} {fields : List (String × Json)}
    (first : readValue fuel (writeChars style value ++ (writeMoreFields style fields ++ rest)) =
      some (value, writeMoreFields style fields ++ rest))
    (others : fields ≠ [] →
      readFields fuel (writeFields style fields ++ rest) = some (fields, rest)) :
    readFields (fuel + 1) (writeFields style ((key, value) :: fields) ++ rest) =
      some ((key, value) :: fields, rest) := by
  simp only [writeFields_cons, quoteChars, List.cons_append, List.append_assoc, List.nil_append,
    readFields, skipSpace_cons _ (show isSpace '"' = false from rfl),
    skipSpace_cons _ (show isSpace ':' = false from rfl), readString_quoted, first,
    Option.bind_eq_bind, Option.bind_some, String.ofList_toList]
  cases fields with
  | nil => rfl
  | cons next fields =>
    have read := others (List.cons_ne_nil next fields)
    simp only [writeMoreFields_cons, List.cons_append,
      skipSpace_cons _ (show isSpace ',' = false from rfl), read, Option.bind_some]
    rfl

theorem length_writeChars_lt_writeItems :
    (writeChars style item).length < (writeItems style (item :: items)).length := by
  rw [writeItems_cons, List.length_append]
  cases items <;> exact Nat.lt_add_of_pos_right (Nat.zero_lt_succ _)

theorem length_writeChars_lt_writeFields :
    (writeChars style value).length < (writeFields style ((key, value) :: fields)).length := by
  simp only [writeFields_cons, List.length_append, List.length_cons]
  omega

theorem length_writeItems_lt (next : Json) :
    (writeItems style (next :: items)).length <
      (writeItems style (item :: next :: items)).length := by
  rw [writeItems_cons style item, writeMoreItems_cons, List.length_append, List.length_cons]
  omega

theorem length_writeFields_lt (field next : String × Json) :
    (writeFields style (next :: fields)).length <
      (writeFields style (field :: next :: fields)).length := by
  rw [writeFields_cons style field.1, writeMoreFields_cons]
  simp only [List.length_append, List.length_cons]
  omega

mutual

/-- A written value is read back, whatever follows it that does not go on with a number. -/
theorem readValue_writeChars (value : Json) (fuel : Nat) (rest : List Char)
    (wellFormed : value.WellFormed) (enough : (writeChars style value).length ≤ fuel)
    (ends : EndsNumber rest) :
    readValue fuel (writeChars style value ++ rest) = some (value, rest) := by
  obtain ⟨c, chars, characters, -, -⟩ := writeChars_starts style wellFormed
  obtain ⟨fuel, rfl⟩ : ∃ below, fuel = below + 1 := by
    rw [characters] at enough
    exact ⟨fuel - 1, by simp only [List.length_cons] at enough; omega⟩
  match value with
  | .null | .bool true | .bool false => rfl
  | .number literal =>
    exact readValue_number fuel (wellFormed literal List.mem_cons_self) ends
  | .string text => exact readValue_string style fuel text rest
  | .array [] | .object [] => rfl
  | .array (item :: items) =>
    have read := readItems_writeItems item items fuel rest wellFormed
      (Nat.le_of_succ_le_succ enough)
    have itemWellFormed : item.WellFormed := fun literal isLiteral =>
      wellFormed literal (List.mem_append_left _ isLiteral)
    obtain ⟨c, chars, characters, visible, inside⟩ := writeChars_starts style itemWellFormed
    change readValue (fuel + 1) ('[' :: (writeItems style (item :: items) ++ rest)) = _
    rw [writeItems_cons, characters] at read ⊢
    simp only [List.cons_append] at read ⊢
    rw [readValue_array fuel _ visible inside, read]
    rfl
  | .object ((key, value) :: fields) =>
    have read := readFields_writeFields key value fields fuel rest wellFormed
      (Nat.le_of_succ_le_succ enough)
    change readValue (fuel + 1) ('\x7b' :: (writeFields style ((key, value) :: fields) ++ rest)) = _
    rw [writeFields_cons, quoteChars] at read ⊢
    simp only [List.cons_append] at read ⊢
    rw [readValue_object fuel _ rfl (by decide), read]
    rfl
termination_by fuel

theorem readItems_writeItems
    (item : Json) (items : List Json) (fuel : Nat) (rest : List Char)
    (wellFormed : ∀ literal ∈ literalsOfItems (item :: items), IsNumber literal)
    (enough : (writeItems style (item :: items)).length ≤ fuel) :
    readItems fuel (writeItems style (item :: items) ++ rest) = some (item :: items, rest) := by
  have shorter := length_writeChars_lt_writeItems style item items
  obtain ⟨fuel, rfl⟩ : ∃ below, fuel = below + 1 := ⟨fuel - 1, by omega⟩
  refine readItems_succ ?_ ?_
  · refine readValue_writeChars item fuel _ ?_ (by omega)
      (endsNumber_writeMoreItems style items rest)
    exact fun literal isLiteral => wellFormed literal (List.mem_append_left _ isLiteral)
  · match items with
    | [] => exact fun nonempty => (nonempty rfl).elim
    | next :: items =>
      intro _
      have fewer := length_writeItems_lt style item items next
      refine readItems_writeItems next items fuel rest ?_ (by omega)
      exact fun literal isLiteral => wellFormed literal (List.mem_append_right _ isLiteral)
termination_by fuel

theorem readFields_writeFields
    (key : String) (value : Json) (fields : List (String × Json)) (fuel : Nat)
    (rest : List Char)
    (wellFormed : ∀ literal ∈ literalsOfFields ((key, value) :: fields), IsNumber literal)
    (enough : (writeFields style ((key, value) :: fields)).length ≤ fuel) :
    readFields fuel (writeFields style ((key, value) :: fields) ++ rest) =
      some ((key, value) :: fields, rest) := by
  have shorter := length_writeChars_lt_writeFields style key value fields
  obtain ⟨fuel, rfl⟩ : ∃ below, fuel = below + 1 := ⟨fuel - 1, by omega⟩
  refine readFields_succ ?_ ?_
  · refine readValue_writeChars value fuel _ ?_ (by omega)
      (endsNumber_writeMoreFields style fields rest)
    exact fun literal isLiteral => wellFormed literal (List.mem_append_left _ isLiteral)
  · match fields with
    | [] => exact fun nonempty => (nonempty rfl).elim
    | (nextKey, next) :: fields =>
      intro _
      have fewer := length_writeFields_lt style fields (key, value) (nextKey, next)
      refine readFields_writeFields nextKey next fields fuel rest ?_ (by omega)
      exact fun literal isLiteral => wellFormed literal (List.mem_append_right _ isLiteral)
termination_by fuel

end

theorem read?_write {value : Json} (style : Style) (wellFormed : value.WellFormed) :
    read? (value.write style) = some value := by
  have read := readValue_writeChars style value (2 * (writeChars style value).length + 2) []
    wellFormed (by omega) endsNumber_nil
  rw [List.append_nil] at read
  rw [read?, write, String.toList_ofList, readChars?, read]
  rfl

end ShapeForge.Json
