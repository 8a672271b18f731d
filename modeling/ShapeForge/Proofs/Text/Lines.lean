import Mathlib.Data.List.TakeWhile
import ShapeForge.Code.Declaration
import ShapeForge.Text.Blank

/-!
# Lines

A text that is cut at some characters consists of these and of the pieces between them.  A text on
one line has no line break, and a comment of such lines is read back line by line.
-/

namespace ShapeForge.Text

/-! ## Pieces -/

variable {chars : List Char} {c : Char} {cut : Char → Bool}

theorem splitWhere_ne_nil (cut : Char → Bool) (chars : List Char) : splitWhere cut chars ≠ [] := by
  cases chars with
  | nil => exact List.cons_ne_nil _ _
  | cons first rest =>
    rw [splitWhere]
    split
    · exact List.cons_ne_nil _ _
    · split <;> exact List.cons_ne_nil _ _

theorem flatten_splitWhere (cut : Char → Bool) (chars : List Char) :
    (splitWhere cut chars).flatten = chars.filter (!cut ·) := by
  induction chars with
  | nil => rfl
  | cons first rest ih =>
    rw [splitWhere]
    cases isCut : cut first with
    | true => simp [isCut, ih]
    | false =>
      rw [List.filter_cons_of_pos (by rw [isCut]; rfl), ← ih]
      cases splitWhere cut rest <;> rfl

theorem exists_piece : (∃ piece ∈ splitWhere cut chars, c ∈ piece) ↔ c ∈ chars ∧ cut c = false := by
  rw [← List.mem_flatten, flatten_splitWhere, List.mem_filter, Bool.not_eq_true']

theorem mem_of_splitWhere {piece : List Char} (isPiece : piece ∈ splitWhere cut chars)
    (isChar : c ∈ piece) :
    c ∈ chars :=
  (exists_piece.mp ⟨piece, isPiece, isChar⟩).1

theorem not_cut_of_splitWhere {piece : List Char} (isPiece : piece ∈ splitWhere cut chars)
    (isChar : c ∈ piece) :
    cut c = false :=
  (exists_piece.mp ⟨piece, isPiece, isChar⟩).2

theorem mem_splitWhere (cut : Char → Bool) (isChar : c ∈ chars) :
    cut c = true ∨ ∃ piece ∈ splitWhere cut chars, c ∈ piece := by
  rw [exists_piece, ← Bool.not_eq_true]
  exact (Classical.em _).imp_right fun uncut => ⟨isChar, uncut⟩

/-- A first piece ends where the text is cut first. -/
theorem splitWhere_append_cons {before : List Char} (uncut : ∀ d ∈ before, cut d = false)
    (isCut : cut c = true) (rest : List Char) :
    splitWhere cut (before ++ c :: rest) = before :: splitWhere cut rest := by
  induction before with
  | nil => rw [List.nil_append, splitWhere, if_pos isCut]
  | cons first before ih =>
    rcases List.forall_mem_cons.mp uncut with ⟨kept, uncut⟩
    rw [List.cons_append, splitWhere, ih uncut, kept]
    rfl

theorem toList_concat (texts : List String) :
    ("".intercalate texts).toList = texts.flatMap String.toList := by
  rw [String.toList_intercalate, List.flatMap]
  induction texts.map String.toList with
  | nil => rfl
  | cons first rest ih =>
    cases rest with
    | nil => simp
    | cons second rest =>
      rw [List.intercalate_cons_cons, ih]
      simp

theorem concat_cons (first : String) (rest : List String) :
    "".intercalate (first :: rest) = first ++ "".intercalate rest := by
  rw [← String.toList_inj, String.toList_append, toList_concat, toList_concat, List.flatMap_cons]

/-! ## Texts on one line -/

/-- A text without line breaks. -/
def OneLine (text : String) : Prop :=
  '\n' ∉ text.toList

instance (text : String) : Decidable (OneLine text) :=
  inferInstanceAs (Decidable ('\n' ∉ text.toList))

/-- For literals: they are lists of characters to the kernel, and need not be decoded. -/
theorem oneLine_ofList (kept : chars.all (· != '\n') = true) : OneLine (String.ofList chars) := by
  intro isBreak
  rw [String.toList_ofList] at isBreak
  have differs := List.all_eq_true.mp kept _ isBreak
  simp at differs

theorem oneLine_append {first second : String} :
    OneLine (first ++ second) ↔ OneLine first ∧ OneLine second := by
  unfold OneLine
  rw [String.toList_append, List.mem_append, not_or]

theorem OneLine.append {first second : String} (oneLine : OneLine first) (also : OneLine second) :
    OneLine (first ++ second) :=
  oneLine_append.mpr ⟨oneLine, also⟩

theorem oneLine_intercalate {separator : String} {parts : List String}
    (oneLine : OneLine separator) (ofParts : ∀ part ∈ parts, OneLine part) :
    OneLine (separator.intercalate parts) := by
  induction parts with
  | nil => exact List.not_mem_nil
  | cons first rest ih =>
    rcases List.forall_mem_cons.mp ofParts with ⟨ofFirst, ofRest⟩
    cases rest with
    | nil => rwa [String.intercalate_singleton]
    | cons second rest =>
      rw [String.intercalate_cons_cons]
      exact (ofFirst.append oneLine).append (ih ofRest)

theorem oneLine_of_mem_lines {text line : String} (isLine : line ∈ lines text) : OneLine line := by
  rcases List.mem_map.mp isLine with ⟨piece, isPiece, rfl⟩
  intro isBreak
  rw [String.toList_ofList] at isBreak
  have uncut := not_cut_of_splitWhere isPiece isBreak
  simp at uncut

theorem OneLine.trim {text : String} (oneLine : OneLine text) : OneLine (trim text) := by
  intro isBreak
  rw [Text.trim, String.toList_ofList, trimChars, List.mem_reverse] at isBreak
  have isInner := List.mem_reverse.mp ((List.dropWhile_sublist _).subset isBreak)
  exact oneLine ((List.dropWhile_sublist _).subset isInner)

end ShapeForge.Text

namespace ShapeForge.Code

open Text (OneLine)

/-- The text of an item stands between the texts of what is before and after it. -/
theorem text_insert (before : List Item) (item : Item) (after : List Item) :
    text (before ++ item :: after) = text before ++ item.text ++ text after := by
  rw [← String.toList_inj, String.toList_append, String.toList_append]
  simp only [text, Text.toList_concat]
  simp

/-- A comment of unbroken lines has no other lines than these. -/
theorem lines_comment {written : List String} (oneLine : ∀ line ∈ written, OneLine line) :
    Text.lines (Item.comment written).text = written.map ("//" ++ ·) ++ [""] := by
  change Text.lines ("".intercalate (written.map commentLine)) = _
  rw [Text.lines, Text.split, Text.toList_concat, List.flatMap_map]
  induction written with
  | nil => rfl
  | cons line rest ih =>
    rcases List.forall_mem_cons.mp oneLine with ⟨first, others⟩
    have uncut : ∀ c ∈ ("//" ++ line).toList, (c == '\n') = false := by
      have whole : OneLine ("//" ++ line) := OneLine.append (by decide) first
      intro c isChar
      rw [beq_eq_false_iff_ne]
      rintro rfl
      exact whole isChar
    have chars : (commentLine line).toList = ("//" ++ line).toList ++ ['\n'] := by
      rw [commentLine, String.toList_append]
      rfl
    rw [List.flatMap_cons, chars, List.append_assoc, List.singleton_append,
      Text.splitWhere_append_cons uncut rfl, List.map_cons, ih others, String.ofList_toList]
    rfl

end ShapeForge.Code
