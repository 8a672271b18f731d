import ShapeForge.Proofs.Files.Path

/-!
# Blocks of lines

Code is written item by item, and every item ends its last line.  So the lines of a file are those
of its items one after another.  A text that is quoted in a comment stays inside it if every line
that it breaks into is again blank or a comment.
-/

namespace ShapeForge.Text

theorem lines_append_break (before after : String) :
    lines (before ++ "\n" ++ after) = lines before ++ lines after :=
  split_append '\n' before after

/-- A text on one line only lengthens the first line of what follows it. -/
theorem lines_append_of_oneLine {first : String} (oneLine : OneLine first) (second : String) :
    ∃ head rest, lines second = head :: rest ∧ lines (first ++ second) = (first ++ head) :: rest := by
  have pieces (before : List Char) (uncut : '\n' ∉ before) (chars : List Char) :
      ∃ head rest, splitWhere (· == '\n') chars = head :: rest ∧
        splitWhere (· == '\n') (before ++ chars) = (before ++ head) :: rest := by
    induction before with
    | nil =>
      cases split : splitWhere (· == '\n') chars with
      | nil => exact absurd split (splitWhere_ne_nil _ chars)
      | cons head rest => exact ⟨head, rest, rfl, split⟩
    | cons c before ih =>
      rcases not_or.mp (mt List.mem_cons.mpr uncut) with ⟨notBreak, uncut⟩
      rcases ih uncut with ⟨head, rest, split, whole⟩
      have kept : (c == '\n') = false := beq_false_of_ne (Ne.symm notBreak)
      refine ⟨head, rest, split, ?_⟩
      rw [List.cons_append, splitWhere, whole, kept]
      rfl
  rcases pieces first.toList oneLine second.toList with ⟨head, rest, split, whole⟩
  refine ⟨String.ofList head, rest.map String.ofList, ?_, ?_⟩
  · rw [lines, Text.split, split, List.map_cons]
  · rw [lines, Text.split, String.toList_append, whole, List.map_cons, String.ofList_append,
      String.ofList_toList]

/-- A text has one line more than it has line breaks. -/
theorem length_lines (text : String) : (lines text).length = text.toList.count '\n' + 1 := by
  rw [lines, split, List.length_map]
  induction text.toList with
  | nil => rfl
  | cons c chars ih =>
    rw [splitWhere, List.count_cons]
    split
    · rw [List.length_cons, ih]
    · cases pieces : splitWhere (· == '\n') chars with
      | nil => exact absurd pieces (splitWhere_ne_nil _ chars)
      | cons piece rest =>
        rw [pieces] at ih
        exact ih

theorem OneLine.lines_eq {text : String} (oneLine : OneLine text) : lines text = [text] := by
  rcases lines_append_of_oneLine oneLine "" with ⟨head, rest, isEmpty, whole⟩
  cases isEmpty
  rwa [String.append_empty] at whole

/-- The lines of a text come before those of what follows it. -/
def WholeLines (text : String) : Prop :=
  ∃ first, ∀ after, lines (text ++ after) = first ++ lines after

theorem wholeLines_empty : WholeLines "" :=
  ⟨[], fun after => by rw [String.empty_append, List.nil_append]⟩

theorem wholeLines_break (text : String) : WholeLines (text ++ "\n") :=
  ⟨lines text, lines_append_break text⟩

theorem WholeLines.append {first second : String}
    (whole : WholeLines first) (also : WholeLines second) :
    WholeLines (first ++ second) := by
  rcases whole with ⟨firstLines, ofFirst⟩
  rcases also with ⟨secondLines, ofSecond⟩
  refine ⟨firstLines ++ secondLines, fun after => ?_⟩
  rw [String.append_assoc, ofFirst, ofSecond, List.append_assoc]

theorem wholeLines_concat {texts : List String} (whole : ∀ text ∈ texts, WholeLines text) :
    WholeLines ("".intercalate texts) := by
  induction texts with
  | nil => exact wholeLines_empty
  | cons first rest ih =>
    rcases List.forall_mem_cons.mp whole with ⟨ofFirst, ofRest⟩
    rw [concat_cons]
    exact ofFirst.append (ih ofRest)

end ShapeForge.Text

namespace ShapeForge.Code

open Text (OneLine WholeLines)

/-! ## Items -/

theorem text_cons (item : Item) (rest : List Item) :
    text (item :: rest) = item.text ++ text rest := by
  have inserted := text_insert [] item rest
  rwa [show text [] = "" from rfl, String.empty_append] at inserted

theorem wholeLines_item (item : Item) : WholeLines item.text := by
  cases item with
  | blank => exact Text.wholeLines_break ""
  | comment lines =>
    apply Text.wholeLines_concat
    intro text isText
    rcases List.mem_map.mp isText with ⟨line, -, rfl⟩
    exact Text.wholeLines_break _
  | consts members =>
    have ending : ")\n" = ")" ++ "\n" := rfl
    rw [Item.text, ending, ← String.append_assoc]
    exact Text.wholeLines_break _
  | _ => exact Text.wholeLines_break _

theorem wholeLines_text (items : List Item) : WholeLines (text items) := by
  apply Text.wholeLines_concat
  intro text isText
  rcases List.mem_map.mp isText with ⟨item, -, rfl⟩
  exact wholeLines_item item

/-- A comment has the lines of the texts that are written into it. -/
theorem lines_comment_append (written : List String) (after : String) :
    Text.lines ((Item.comment written).text ++ after) =
      written.flatMap (fun line => Text.lines ("//" ++ line)) ++ Text.lines after := by
  induction written with
  | nil => exact congrArg Text.lines String.empty_append
  | cons line rest ih =>
    have first : (Item.comment (line :: rest)).text ++ after =
        "//" ++ line ++ "\n" ++ ((Item.comment rest).text ++ after) := by
      rw [← String.append_assoc, String.append_left_inj, Item.text, Item.text,
        ← String.toList_inj, String.toList_append, Text.toList_concat, Text.toList_concat,
        List.map_cons, List.flatMap_cons]
      rfl
    rw [first, Text.lines_append_break, ih, List.flatMap_cons, List.append_assoc]

/-- The lines of a comment stand together among those of the file. -/
theorem lines_of_comment_mem {items : List Item} {line before : String}
    (isComment : .comment [line] ∈ items) (whole : WholeLines before) :
    ∃ above below, Text.lines (before ++ text items) =
      above ++ Text.lines ("//" ++ line) ++ below := by
  rcases List.append_of_mem isComment with ⟨earlier, later, rfl⟩
  rcases whole.append (wholeLines_text earlier) with ⟨above, ofBefore⟩
  refine ⟨above, Text.lines (text later), ?_⟩
  have inserted : before ++ text (earlier ++ .comment [line] :: later) =
      before ++ text earlier ++ ((Item.comment [line]).text ++ text later) := by
    rw [text_insert]
    simp only [String.append_assoc]
  rw [inserted, ofBefore, lines_comment_append, List.flatMap_singleton, List.append_assoc]

/-! ## Comments -/

/-- A line that is blank or a comment. -/
def IsComment (line : String) : Prop :=
  line = "" ∨ "//".toList <+: line.toList

instance (line : String) : Decidable (IsComment line) :=
  inferInstanceAs (Decidable (_ ∨ _))

/-- A text that does not leave a comment: every line after its first is again blank or a
comment. -/
def Contained (text : String) : Prop :=
  ∀ line ∈ (Text.lines text).tail, IsComment line

instance (text : String) : Decidable (Contained text) :=
  inferInstanceAs (Decidable (∀ line ∈ (Text.lines text).tail, IsComment line))

theorem contained_of_oneLine {text : String} (oneLine : OneLine text) : Contained text := by
  rw [Contained, oneLine.lines_eq]
  simp

theorem contained_append {first : String} (oneLine : OneLine first) (second : String) :
    Contained (first ++ second) ↔ Contained second := by
  rcases Text.lines_append_of_oneLine oneLine second with ⟨head, rest, ofSecond, ofBoth⟩
  rw [Contained, Contained, ofSecond, ofBoth]
  rfl

/-- The lines of a comment are comments exactly if none of its texts leaves it. -/
theorem isComment_lines_iff {written : List String} :
    (∀ line ∈ written.flatMap (fun line => Text.lines ("//" ++ line)), IsComment line) ↔
      ∀ line ∈ written, Contained line := by
  have ofLine (line : String) :
      (∀ part ∈ Text.lines ("//" ++ line), IsComment part) ↔ Contained line := by
    rcases Text.lines_append_of_oneLine (show OneLine "//" by decide) line with
      ⟨head, rest, ofText, whole⟩
    have first : IsComment ("//" ++ head) := by
      refine Or.inr ?_
      rw [String.toList_append]
      exact List.prefix_append _ _
    rw [Contained, ofText, whole, List.forall_mem_cons, List.tail_cons]
    exact and_iff_right first
  rw [List.forall_mem_flatMap]
  exact forall_congr' fun line => imp_congr_right fun _ => ofLine line

end ShapeForge.Code
