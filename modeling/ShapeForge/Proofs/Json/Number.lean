import Mathlib.Data.List.TakeDrop
import ShapeForge.Decimal.Basic
import ShapeForge.Json.Read

/-!
# Number literals

A number is read up to where it ends: what follows a literal is left over, unless it could go on
with the number.  The texts of whole numbers and of finite decimal numbers are literals.
-/

namespace ShapeForge.Json

/-! ## Readers of the parts of a number -/

def isNumeric (c : Char) : Bool :=
  c.isDigit || c == '.' || c == 'e' || c == 'E'

/-- A text that does not go on with a number that stands before it. -/
def EndsNumber (rest : List Char) : Prop :=
  ∀ c ∈ rest.head?, isNumeric c = false

/-- A text is a number literal: all of it is read as a number. -/
def IsNumber (literal : String) : Prop :=
  readNumber? literal.toList = some (literal.toList, [])

instance (literal : String) : Decidable (IsNumber literal) :=
  inferInstanceAs (Decidable (_ = _))

theorem endsNumber_nil : EndsNumber [] := by
  rintro c ⟨⟩

variable {c : Char} {rest whole fraction : List Char}

theorem endsNumber_cons (rest : List Char) (ends : isNumeric c = false) :
    EndsNumber (c :: rest) := by
  rintro c' ⟨⟩
  exact ends

theorem spanDigits_append (chars : List Char) (ends : EndsNumber rest) :
    spanDigits (chars ++ rest) = ((spanDigits chars).1, (spanDigits chars).2 ++ rest) := by
  simp only [spanDigits, List.span_eq_takeWhile_dropWhile]
  induction chars with
  | nil =>
    cases rest with
    | nil => rfl
    | cons c rest =>
      have digitless : c.isDigit = false := by
        have numberless := ends c rfl
        simp only [isNumeric, Bool.or_eq_false_iff] at numberless
        exact numberless.1.1.1
      simp [digitless]
  | cons c chars ih =>
    by_cases digit : c.isDigit
    · simpa [digit] using ih
    · simp [digit]

def readDigits? (chars : List Char) : Option (List Char × List Char) :=
  match spanDigits chars with
  | ([], _) => none
  | (digits, rest) => some (digits, rest)

theorem readWhole?_cons (rest : List Char) (leading : c ≠ '0') :
    readWhole? (c :: rest) = readDigits? (c :: rest) :=
  readWhole?.eq_2 (c :: rest) fun _ isZero => leading (List.cons.inj isZero).1

theorem readFraction?_point (rest : List Char) :
    readFraction? ('.' :: rest) =
      (readDigits? rest).map fun (digits, rest) => ('.' :: digits, rest) := by
  rw [readFraction?.eq_1, readDigits?]
  rcases spanDigits rest with ⟨_ | ⟨digit, digits⟩, behind⟩ <;> rfl

theorem readFraction?_cons (rest : List Char) (pointless : c ≠ '.') :
    readFraction? (c :: rest) = some ([], c :: rest) :=
  readFraction?.eq_2 (c :: rest) fun _ isPoint => pointless (List.cons.inj isPoint).1

/-- The sign of an exponent, which may be left out. -/
def spanSign : List Char → List Char × List Char
  | '+' :: rest => (['+'], rest)
  | '-' :: rest => (['-'], rest)
  | rest => ([], rest)

theorem readExponent?_mark (rest : List Char) (mark : (c == 'e' || c == 'E') = true) :
    readExponent? (c :: rest) =
      (readDigits? (spanSign rest).2).map fun (digits, after) =>
        (c :: ((spanSign rest).1 ++ digits), after) := by
  simp only [readExponent?, mark, if_true, readDigits?]
  change (match spanDigits (spanSign rest).2 with
    | ([], _) => none
    | (digits, after) => some (c :: ((spanSign rest).1 ++ digits), after)) = _
  rcases spanDigits (spanSign rest).2 with ⟨_ | ⟨digit, digits⟩, behind⟩ <;> rfl

theorem readExponent?_cons (rest : List Char) (markless : (c == 'e' || c == 'E') = false) :
    readExponent? (c :: rest) = some ([], c :: rest) := by
  simp only [readExponent?, markless]
  rfl

theorem spanSign_append (c : Char) (chars rest : List Char) :
    spanSign (c :: chars ++ rest) =
      ((spanSign (c :: chars)).1, (spanSign (c :: chars)).2 ++ rest) := by
  by_cases plus : c = '+'
  · cases plus
    rfl
  · by_cases minus : c = '-'
    · cases minus
      rfl
    · simp [spanSign, plus, minus]

/-- A reader stops where a number ends: what follows it is left over. -/
def Local (reader : List Char → Option (List Char × List Char)) : Prop :=
  ∀ chars part after rest, EndsNumber rest → reader chars = some (part, after) →
    reader (chars ++ rest) = some (part, after ++ rest)

theorem local_readDigits? : Local readDigits? := by
  intro chars part after rest ends read
  unfold readDigits? at read ⊢
  rw [spanDigits_append chars ends]
  revert read
  rcases spanDigits chars with ⟨_ | ⟨digit, digits⟩, behind⟩ <;> intro read
  · cases read
  · cases read
    rfl

theorem local_readWhole? : Local readWhole? := by
  intro chars part after rest ends read
  cases chars with
  | nil => cases read
  | cons c chars =>
    by_cases zero : c = '0'
    · cases zero
      cases read
      rfl
    · rw [readWhole?_cons chars zero] at read
      rw [List.cons_append, readWhole?_cons (chars ++ rest) zero, ← List.cons_append]
      exact local_readDigits? (c :: chars) part after rest ends read

theorem local_readFraction? : Local readFraction? := by
  intro chars part after rest ends read
  cases chars with
  | nil =>
    cases read
    cases rest with
    | nil => rfl
    | cons c rest =>
      refine readFraction?_cons rest ?_
      rintro rfl
      exact absurd (ends '.' rfl) (by decide)
  | cons c chars =>
    by_cases point : c = '.'
    · cases point
      rw [readFraction?_point] at read
      obtain ⟨⟨digits, behind⟩, digitsRead, same⟩ := Option.map_eq_some_iff.mp read
      cases same
      rw [List.cons_append, readFraction?_point,
        local_readDigits? chars digits after rest ends digitsRead]
      rfl
    · rw [readFraction?_cons chars point] at read
      cases read
      exact readFraction?_cons (chars ++ rest) point

theorem local_readExponent? : Local readExponent? := by
  intro chars part after rest ends read
  cases chars with
  | nil =>
    cases read
    cases rest with
    | nil => rfl
    | cons c rest =>
      refine readExponent?_cons rest ?_
      have numberless := ends c rfl
      simp only [isNumeric, Bool.or_eq_false_iff] at numberless ⊢
      exact ⟨numberless.1.2, numberless.2⟩
  | cons c chars =>
    cases mark : (c == 'e' || c == 'E') with
    | true =>
      rw [readExponent?_mark chars mark] at read
      obtain ⟨⟨digits, behind⟩, digitsRead, same⟩ := Option.map_eq_some_iff.mp read
      cases same
      cases chars with
      | nil => cases digitsRead
      | cons sign chars =>
        rw [List.cons_append, readExponent?_mark _ mark, spanSign_append,
          local_readDigits? _ digits after rest ends digitsRead]
        rfl
    | false =>
      rw [readExponent?_cons chars mark] at read
      cases read
      exact readExponent?_cons (chars ++ rest) mark

/-- The sign of a number, which is a minus or left out. -/
def spanMinus : List Char → List Char × List Char
  | '-' :: rest => (['-'], rest)
  | rest => ([], rest)

theorem readNumber?_eq_some {chars literal after : List Char} :
    readNumber? chars = some (literal, after) ↔
      ∃ whole afterWhole fraction afterFraction exponent,
        readWhole? (spanMinus chars).2 = some (whole, afterWhole) ∧
          readFraction? afterWhole = some (fraction, afterFraction) ∧
          readExponent? afterFraction = some (exponent, after) ∧
          literal = (spanMinus chars).1 ++ whole ++ fraction ++ exponent := by
  have opened : readNumber? chars = (do
      let (whole, rest) ← readWhole? (spanMinus chars).2
      let (fraction, rest) ← readFraction? rest
      let (exponent, rest) ← readExponent? rest
      return ((spanMinus chars).1 ++ whole ++ fraction ++ exponent, rest)) := rfl
  simp only [opened, Option.bind_eq_bind, Option.bind_eq_some_iff, Option.pure_def,
    Option.some.injEq, Prod.mk.injEq, Prod.exists]
  constructor
  · rintro ⟨whole, afterWhole, wholeRead, fraction, afterFraction, fractionRead, exponent, rest,
      exponentRead, rfl, rfl⟩
    exact ⟨whole, afterWhole, fraction, afterFraction, exponent, wholeRead, fractionRead,
      exponentRead, rfl⟩
  · rintro ⟨whole, afterWhole, fraction, afterFraction, exponent, wholeRead, fractionRead,
      exponentRead, rfl⟩
    exact ⟨whole, afterWhole, wholeRead, fraction, afterFraction, fractionRead, exponent, after,
      exponentRead, rfl, rfl⟩

theorem spanMinus_append (c : Char) (chars rest : List Char) :
    spanMinus (c :: chars ++ rest) =
      ((spanMinus (c :: chars)).1, (spanMinus (c :: chars)).2 ++ rest) := by
  by_cases minus : c = '-'
  · cases minus
    rfl
  · simp [spanMinus, minus]

theorem local_readNumber? : Local readNumber? := by
  intro chars literal after rest ends read
  rw [readNumber?_eq_some] at read ⊢
  obtain ⟨whole, afterWhole, fraction, afterFraction, exponent, wholeRead, fractionRead,
    exponentRead, rfl⟩ := read
  cases chars with
  | nil => cases wholeRead
  | cons c chars =>
    rw [spanMinus_append]
    exact ⟨whole, afterWhole ++ rest, fraction, afterFraction ++ rest, exponent,
      local_readWhole? _ _ _ rest ends wholeRead,
      local_readFraction? _ _ _ rest ends fractionRead,
      local_readExponent? _ _ _ rest ends exponentRead, rfl⟩

/-- A number literal is read back where it ends. -/
theorem IsNumber.readNumber? {literal : String} (isNumber : IsNumber literal)
    (ends : EndsNumber rest) :
    readNumber? (literal.toList ++ rest) = some (literal.toList, rest) :=
  local_readNumber? literal.toList literal.toList [] rest ends isNumber

theorem isDigit_of_readWhole? {chars : List Char} {read : List Char × List Char}
    (wholeRead : readWhole? (c :: chars) = some read) :
    c.isDigit = true := by
  by_cases zero : c = '0'
  · cases zero
    rfl
  · rw [readWhole?_cons chars zero, readDigits?, spanDigits,
      List.span_eq_takeWhile_dropWhile] at wholeRead
    by_contra digitless
    simp [digitless] at wholeRead

/-- A number starts with a minus or a digit. -/
theorem IsNumber.starts {literal : String} (isNumber : IsNumber literal) :
    ∃ c chars, literal.toList = c :: chars ∧ (c = '-' ∨ c.isDigit = true) := by
  obtain ⟨whole, afterWhole, -, -, -, wholeRead, -⟩ := readNumber?_eq_some.mp isNumber
  cases characters : literal.toList with
  | nil =>
    rw [characters] at wholeRead
    cases wholeRead
  | cons c chars =>
    refine ⟨c, chars, rfl, ?_⟩
    by_cases minus : c = '-'
    · exact Or.inl minus
    · right
      have unsigned : spanMinus (c :: chars) = ([], c :: chars) := by simp [spanMinus, minus]
      rw [characters, unsigned] at wholeRead
      exact isDigit_of_readWhole? wholeRead

/-! ## Literals -/

/-- Digits without a leading zero, or a single zero. -/
def IsWhole (chars : List Char) : Prop :=
  chars = ['0'] ∨ (∃ c rest, chars = c :: rest ∧ c ≠ '0') ∧ ∀ c ∈ chars, c.isDigit = true

/-- Nothing, or a point and digits. -/
def IsFraction (chars : List Char) : Prop :=
  chars = [] ∨ ∃ digits, chars = '.' :: digits ∧ digits ≠ [] ∧ ∀ c ∈ digits, c.isDigit = true

theorem spanDigits_of_digits {digits : List Char} (areDigits : ∀ c ∈ digits, c.isDigit = true)
    (ends : ∀ c ∈ rest.head?, c.isDigit = false) :
    spanDigits (digits ++ rest) = (digits, rest) := by
  have nothing : rest.takeWhile Char.isDigit = [] ∧ rest.dropWhile Char.isDigit = rest := by
    cases rest with
    | nil => exact ⟨rfl, rfl⟩
    | cons c rest => simp [ends c rfl]
  rw [spanDigits, List.span_eq_takeWhile_dropWhile, List.takeWhile_append_of_pos areDigits,
    List.dropWhile_append_of_pos areDigits, nothing.1, nothing.2, List.append_nil]

theorem readDigits?_of_digits {digits : List Char} (nonempty : digits ≠ [])
    (areDigits : ∀ c ∈ digits, c.isDigit = true) (ends : ∀ c ∈ rest.head?, c.isDigit = false) :
    readDigits? (digits ++ rest) = some (digits, rest) := by
  rw [readDigits?, spanDigits_of_digits areDigits ends]
  cases digits with
  | nil => exact (nonempty rfl).elim
  | cons digit digits => rfl

theorem IsWhole.readWhole? (isWhole : IsWhole whole) (ends : ∀ c ∈ rest.head?, c.isDigit = false) :
    readWhole? (whole ++ rest) = some (whole, rest) := by
  rcases isWhole with rfl | ⟨⟨c, digits, rfl, leading⟩, areDigits⟩
  · rfl
  · rw [List.cons_append, readWhole?_cons _ leading, ← List.cons_append]
    exact readDigits?_of_digits (List.cons_ne_nil c digits) areDigits ends

theorem IsFraction.readFraction? (isFraction : IsFraction fraction) :
    readFraction? fraction = some (fraction, []) := by
  rcases isFraction with rfl | ⟨digits, rfl, nonempty, areDigits⟩
  · rfl
  · have read : readDigits? (digits ++ []) = some (digits, []) :=
      readDigits?_of_digits nonempty areDigits (by rintro c ⟨⟩)
    rw [List.append_nil] at read
    rw [readFraction?_point, read]
    rfl

theorem IsFraction.ends (isFraction : IsFraction fraction) :
    ∀ c ∈ fraction.head?, c.isDigit = false := by
  rcases isFraction with rfl | ⟨digits, rfl, -⟩
  · rintro c ⟨⟩
  · rintro c ⟨⟩
    rfl

theorem IsWhole.starts (isWhole : IsWhole whole) :
    ∃ c rest, whole = c :: rest ∧ c.isDigit = true := by
  rcases isWhole with rfl | ⟨⟨c, rest, rfl, -⟩, areDigits⟩
  · exact ⟨'0', [], rfl, rfl⟩
  · exact ⟨c, rest, rfl, areDigits c List.mem_cons_self⟩

/-- A sign, a whole part and a fraction make a number. -/
theorem isNumber_of_parts (negative : Bool) (isWhole : IsWhole whole)
    (isFraction : IsFraction fraction) :
    IsNumber (String.ofList ((Decimal.sign negative).toList ++ (whole ++ fraction))) := by
  have signed : spanMinus ((Decimal.sign negative).toList ++ (whole ++ fraction)) =
      ((Decimal.sign negative).toList, whole ++ fraction) := by
    cases negative with
    | true => rfl
    | false =>
      obtain ⟨c, rest, rfl, digit⟩ := isWhole.starts
      have minusless : c ≠ '-' := by
        rintro rfl
        cases digit
      exact spanMinus.eq_2 _ fun _ isMinus => minusless (List.cons.inj isMinus).1
  rw [IsNumber, String.toList_ofList, readNumber?_eq_some, signed]
  refine ⟨whole, fraction, fraction, [], [], isWhole.readWhole? isFraction.ends,
    isFraction.readFraction?, rfl, ?_⟩
  simp

theorem isDigit_of_mem_toDigits {number : Nat} : ∀ c ∈ Nat.toDigits 10 number, c.isDigit = true :=
  fun _ isDigit => Nat.isDigit_of_mem_toDigits (by decide) (by decide) isDigit

/-- The digits of a positive number do not start with zero. -/
theorem toDigits_starts {number : Nat} (positive : 0 < number) :
    ∃ c rest, Nat.toDigits 10 number = c :: rest ∧ c ≠ '0' := by
  induction number using Nat.strongRecOn with
  | ind number ih =>
    rw [Nat.toDigits_eq_if (by decide)]
    split
    · refine ⟨number.digitChar, [], rfl, ?_⟩
      rw [ne_eq, Nat.digitChar_eq_zero]
      omega
    · obtain ⟨c, rest, starts, leading⟩ := ih (number / 10) (by omega) (by omega)
      exact ⟨c, rest ++ [(number % 10).digitChar], by rw [starts, List.cons_append], leading⟩

theorem isWhole_toDigits (number : Nat) : IsWhole (Nat.toDigits 10 number) := by
  rcases Nat.eq_zero_or_pos number with rfl | positive
  · exact Or.inl rfl
  · exact Or.inr ⟨toDigits_starts positive, isDigit_of_mem_toDigits⟩

theorem isNumber_toString (number : Int) : IsNumber (toString number) := by
  rw [Int.toString_eq_repr, Int.repr_eq_if]
  split
  · have isNumber := isNumber_of_parts false (isWhole_toDigits number.toNat) (Or.inl rfl)
    rwa [List.append_nil, String.ofList_append, ← Nat.repr_eq_ofList_toDigits] at isNumber
  · have isNumber := isNumber_of_parts true (isWhole_toDigits (-number).toNat) (Or.inl rfl)
    rwa [List.append_nil, String.ofList_append, ← Nat.repr_eq_ofList_toDigits] at isNumber

theorem isDigit_of_mem_zeros (count : Nat) :
    ∀ c ∈ (Decimal.zeros count).toList, c.isDigit = true := by
  intro c isMember
  rw [Decimal.zeros, String.toList_ofList] at isMember
  rw [List.eq_of_mem_replicate isMember]
  rfl

theorem isDigit_of_mem_append {left right : List Char} (leftDigits : ∀ c ∈ left, c.isDigit = true)
    (rightDigits : ∀ c ∈ right, c.isDigit = true) :
    ∀ c ∈ left ++ right, c.isDigit = true := by
  intro c isMember
  rcases List.mem_append.mp isMember with isLeft | isRight
  · exact leftDigits c isLeft
  · exact rightDigits c isRight

theorem toList_toString_nat (number : Nat) : (toString number).toList = Nat.toDigits 10 number :=
  Nat.toList_repr

/-- Digits with a point among or before them are a whole part and a fraction. -/
theorem withPoint_parts (coefficient below : Nat) :
    ∃ whole fraction, IsWhole whole ∧ IsFraction fraction ∧
      (Decimal.withPoint (toString coefficient) (below + 1)).toList = whole ++ fraction := by
  have areDigits := @isDigit_of_mem_toDigits coefficient
  have nonempty : 0 < (Nat.toDigits 10 coefficient).length := Nat.length_toDigits_pos
  rw [Decimal.withPoint, ← String.length_toList, toList_toString_nat]
  split
  · -- All digits stand behind the point, and a zero before it.
    generalize below + 1 - (Nat.toDigits 10 coefficient).length = padding
    refine ⟨['0'], '.' :: ((Decimal.zeros padding).toList ++ Nat.toDigits 10 coefficient), Or.inl rfl,
      Or.inr ⟨_, rfl, ?_, isDigit_of_mem_append (isDigit_of_mem_zeros _) areDigits⟩, ?_⟩
    · exact List.append_ne_nil_of_right_ne_nil _ (List.ne_nil_of_length_pos nonempty)
    · rw [String.toList_append, String.toList_append, toList_toString_nat]
      rfl
  · rename_i among
    have positive : 0 < coefficient := by
      rcases Nat.eq_zero_or_pos coefficient with rfl | positive
      · exact (among (by rw [Nat.toDigits_zero]; exact Nat.succ_le_succ (Nat.zero_le below))).elim
      · exact positive
    obtain ⟨c, rest, starts, leading⟩ := toDigits_starts positive
    generalize count : (Nat.toDigits 10 coefficient).length - (below + 1) = places
    obtain ⟨fewer, rfl⟩ : ∃ fewer, places = fewer + 1 := ⟨places - 1, by omega⟩
    refine ⟨(Nat.toDigits 10 coefficient).take (fewer + 1),
      '.' :: (Nat.toDigits 10 coefficient).drop (fewer + 1), Or.inr ⟨?_, ?_⟩,
      Or.inr ⟨_, rfl, ?_, ?_⟩, ?_⟩
    · exact ⟨c, rest.take fewer, by rw [starts, List.take_succ_cons], leading⟩
    · exact fun c isMember => areDigits c (List.mem_of_mem_take isMember)
    · exact List.ne_nil_of_length_pos (by rw [List.length_drop]; omega)
    · exact fun c isMember => areDigits c (List.mem_of_mem_drop isMember)
    · simp

/-- The digits of a finite number are a whole part and a fraction. -/
theorem positional_parts (coefficient : Nat) (exponent : Int) :
    ∃ whole fraction, IsWhole whole ∧ IsFraction fraction ∧
      (Decimal.positional coefficient exponent).toList = whole ++ fraction := by
  cases exponent with
  | negSucc below => exact withPoint_parts coefficient below
  | ofNat count =>
    rcases Nat.eq_zero_or_pos coefficient with rfl | positive
    · exact ⟨['0'], [], Or.inl rfl, Or.inl rfl, by simp [Decimal.positional]⟩
    · obtain ⟨c, rest, starts, leading⟩ := toDigits_starts positive
      refine ⟨Nat.toDigits 10 coefficient ++ (Decimal.zeros count).toList, [],
        Or.inr ⟨⟨c, rest ++ (Decimal.zeros count).toList, ?_, leading⟩, ?_⟩, Or.inl rfl, ?_⟩
      · rw [starts, List.cons_append]
      · exact isDigit_of_mem_append isDigit_of_mem_toDigits (isDigit_of_mem_zeros count)
      · have nonzero : (coefficient == 0) = false := by
          rw [beq_eq_false_iff_ne]
          omega
        simp only [Decimal.positional, nonzero, Bool.false_eq_true, if_false,
          String.toList_append, toList_toString_nat, List.append_nil]

theorem isNumber_plain (negative : Bool) (coefficient : Nat) (exponent : Int) :
    IsNumber (Decimal.finite negative coefficient exponent).plain := by
  obtain ⟨whole, fraction, isWhole, isFraction, text⟩ := positional_parts coefficient exponent
  have isNumber := isNumber_of_parts negative isWhole isFraction
  rwa [← text, String.ofList_append, String.ofList_toList, String.ofList_toList] at isNumber

end ShapeForge.Json
