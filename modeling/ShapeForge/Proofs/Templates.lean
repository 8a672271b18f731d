import Mathlib.Data.List.Chain
import ShapeForge.Proofs.Model.Identifiers

/-!
# Templates of paths

The template of a route is a sequence of texts and labels, which may end in a label for the rest of
the path and be followed by a query.  Labels, paths and the two patterns are read from its text by
four separate scans; all of them find the parts from which the text was put together.
-/

namespace ShapeForge

theorem Text.bne_of_not_mem {separator : Char} {chars : List Char} (absent : separator ∉ chars) :
    ∀ c ∈ chars, (c != separator) = true := by
  intro c isChar
  rw [bne_iff_ne]
  rintro rfl
  exact absent isChar

theorem Text.cutLast_mark {separator : Char} {after : List Char}
    (absent : separator ∉ after) (before : List Char) :
    Text.cutLast separator (String.ofList (before ++ separator :: after)) =
      some (String.ofList before, String.ofList after) := by
  have passes := Text.bne_of_not_mem (mt List.mem_reverse.mp absent)
  have reversed : (before ++ separator :: after).reverse =
      after.reverse ++ separator :: before.reverse := by
    simp
  rw [Text.cutLast, String.toList_ofList, reversed, List.span_eq_takeWhile_dropWhile,
    List.takeWhile_append_of_pos passes, List.dropWhile_append_of_pos passes]
  simp

namespace Route

/-! ## Templates -/

abbrev LabelName := { name : String // ShapeId.isIdentifier name = true }

/-- A part of a path: a text that marks nothing, or a label. -/
inductive Segment where
  | literal (text : String) (plain : ∀ c ∈ text.toList, c ≠ '\x7b' ∧ c ≠ '\x7d' ∧ c ≠ '?')
  | label (name : LabelName)

namespace Segment

def text : Segment → String
  | .literal text _ => text
  | .label name => "\x7b" ++ name ++ "\x7d"

def name? : Segment → Option String
  | .literal _ _ => none
  | .label name => some name

end Segment

/-- The parts of a template, with the label for the rest of the path and the query that may
follow. -/
structure Template where
  segments : List Segment
  greedy : Option LabelName
  query : Option { text : String // ∀ c ∈ text.toList, c ≠ '\x7b' ∧ c ≠ '\x7d' }

namespace Template

def lead (template : Template) : String :=
  "".intercalate (template.segments.map Segment.text)

/-- The label for the rest of the path, with an ending of its own. -/
def rest (ending : String) (template : Template) : String :=
  match template.greedy with
  | none => ""
  | some name => "\x7b" ++ name ++ ending ++ "\x7d"

def path (template : Template) : String :=
  template.lead ++ template.rest "+"

def queryText (template : Template) : String :=
  match template.query with
  | none => ""
  | some query => "?" ++ query

def uri (template : Template) : String :=
  template.path ++ template.queryText

def names (template : Template) : List String :=
  template.segments.filterMap Segment.name? ++ (template.greedy.map (·.1)).toList

end Template

/-! ## Parts of a path -/

section Templates

variable (template : Template)

theorem LabelName.not_mem (name : LabelName) {c : Char}
    (noChar : ShapeId.isIdentifierChar c = false) :
    c ∉ name.1.toList :=
  Naming.not_mem_of_isIdentifier name.2 noChar

theorem Segment.not_mem_query (segment : Segment) : '?' ∉ segment.text.toList := by
  cases segment with
  | literal text plain => exact fun isIn => (plain _ isIn).2.2 rfl
  | label name =>
    have absent : '?' ∉ name.1.toList := name.not_mem (by decide)
    simp [Segment.text, absent]

theorem Template.not_mem_query : '?' ∉ template.path.toList := by
  have inLead : '?' ∉ template.lead.toList := by
    rw [Template.lead, Text.toList_concat]
    simpa using fun segment _ => segment.not_mem_query
  have inRest : '?' ∉ (template.rest "+").toList := by
    rw [Template.rest]
    cases template.greedy with
    | none => simp
    | some name =>
      have absent : '?' ∉ name.1.toList := name.not_mem (by decide)
      simp [absent]
  rw [Template.path, String.toList_append, List.mem_append]
  exact not_or.mpr ⟨inLead, inRest⟩

theorem Template.path_eq {template : Template} {binding : HttpBinding}
    (isUri : binding.uri = template.uri) :
    binding.path = template.path := by
  rw [HttpBinding.path, isUri, Template.uri, Template.queryText]
  cases template.query with
  | none => rw [String.append_empty, Text.cutAt_eq_none template.not_mem_query]
  | some query =>
    have cut : Text.cutAt '?' (template.path ++ "?" ++ query) = some (template.path, query.1) :=
      Text.cutAt_mark template.not_mem_query query
    rw [← String.append_assoc, cut]

/-! ## Labels -/

open HttpBinding (labelsFrom withoutPlus)

theorem labelsFrom_plain {plain : List Char}
    (unopened : '\x7b' ∉ plain) (fuel : Nat) (rest : List Char) :
    labelsFrom fuel (plain ++ rest) = labelsFrom fuel rest := by
  cases fuel with
  | zero => rfl
  | succ fuel =>
    rw [labelsFrom, labelsFrom, List.dropWhile_append_of_pos (Text.bne_of_not_mem unopened)]

theorem labelsFrom_label {label : List Char}
    (unclosed : '\x7d' ∉ label) (fuel : Nat) (rest : List Char) :
    labelsFrom (fuel + 1) ('\x7b' :: label ++ '\x7d' :: rest) =
      String.ofList (withoutPlus label) :: labelsFrom fuel rest := by
  have passes := Text.bne_of_not_mem unclosed
  rw [labelsFrom, List.cons_append, List.dropWhile_cons_of_neg (by decide)]
  simp only [List.span_eq_takeWhile_dropWhile, List.takeWhile_append_of_pos passes,
    List.dropWhile_append_of_pos passes]
  simp

theorem withoutPlus_plus (label : List Char) : withoutPlus (label ++ ['+']) = label := by
  simp [withoutPlus]

theorem withoutPlus_of_not_mem {label : List Char} (absent : '+' ∉ label) :
    withoutPlus label = label := by
  rw [withoutPlus, if_neg]
  rw [beq_iff_eq]
  exact fun isLast => absent (List.mem_of_getLast? isLast)

/-- Each label of the segments takes one step of the search. -/
theorem labelsFrom_segments (segments : List Segment) (fuel : Nat) (rest : List Char) :
    labelsFrom ((segments.filterMap Segment.name?).length + fuel)
        (segments.flatMap (·.text.toList) ++ rest) =
      segments.filterMap Segment.name? ++ labelsFrom fuel rest := by
  induction segments with
  | nil => simp
  | cons segment segments ih =>
    rw [List.flatMap_cons, List.append_assoc]
    cases segment with
    | literal text plain =>
      rw [Segment.text, labelsFrom_plain fun isIn => (plain _ isIn).1 rfl]
      exact ih
    | label name =>
      have step := labelsFrom_label (name.not_mem (by decide))
        ((segments.filterMap Segment.name?).length + fuel)
        (segments.flatMap (·.text.toList) ++ rest)
      rw [ih, withoutPlus_of_not_mem (name.not_mem (by decide)), String.ofList_toList] at step
      simpa [Segment.text, Segment.name?, Nat.add_right_comm] using step

theorem length_names_le (segments : List Segment) :
    (segments.filterMap Segment.name?).length ≤ (segments.flatMap (·.text.toList)).length := by
  induction segments with
  | nil => simp
  | cons segment segments ih =>
    rw [List.flatMap_cons, List.length_append]
    cases segment with
    | literal text plain => exact ih.trans (Nat.le_add_left _ _)
    | label name =>
      have step : (List.filterMap Segment.name? (.label name :: segments)).length =
          (segments.filterMap Segment.name?).length + 1 := rfl
      have braces : (Segment.label name).text.toList.length = name.1.toList.length + 2 := by
        simp [Segment.text]
      omega

theorem Template.toList_lead :
    template.lead.toList = template.segments.flatMap (·.text.toList) := by
  rw [Template.lead, Text.toList_concat, List.flatMap_map]

/-- The query has no labels. -/
theorem Template.labelsFrom_query (fuel : Nat) :
    labelsFrom fuel template.queryText.toList = [] := by
  have unopened : '\x7b' ∉ template.queryText.toList := by
    rw [Template.queryText]
    cases template.query with
    | none => simp
    | some query => simpa using fun isIn => (query.2 _ isIn).1 rfl
  have skipped := labelsFrom_plain unopened fuel []
  rw [List.append_nil] at skipped
  rw [skipped]
  cases fuel <;> rfl

theorem Template.labelsFrom_rest (fuel : Nat) :
    labelsFrom (fuel + 1) ((template.rest "+").toList ++ template.queryText.toList) =
      (template.greedy.map (·.1)).toList := by
  rw [Template.rest]
  cases template.greedy with
  | none => exact template.labelsFrom_query _
  | some name =>
    have unclosed : '\x7d' ∉ name.1.toList ++ ['+'] := by
      simpa using name.not_mem (by decide)
    have step := labelsFrom_label unclosed fuel template.queryText.toList
    rw [withoutPlus_plus, String.ofList_toList, template.labelsFrom_query] at step
    simpa using step

theorem Template.labels_eq {template : Template} {binding : HttpBinding}
    (isUri : binding.uri = template.uri) :
    binding.labels = template.names := by
  have chars : binding.uri.toList = template.segments.flatMap (·.text.toList) ++
      ((template.rest "+").toList ++ template.queryText.toList) := by
    rw [isUri, Template.uri, Template.path, String.toList_append, String.toList_append,
      template.toList_lead, List.append_assoc]
  have enough : ∃ fuel, binding.uri.length + 1 =
      (template.segments.filterMap Segment.name?).length + (fuel + 1) := by
    have bound := length_names_le template.segments
    have size := congrArg List.length chars
    rw [String.length_toList, List.length_append] at size
    exact ⟨binding.uri.length - (template.segments.filterMap Segment.name?).length, by omega⟩
  rcases enough with ⟨fuel, enough⟩
  rw [HttpBinding.labels, enough, chars, labelsFrom_segments, template.labelsFrom_rest,
    Template.names]

/-! ## Patterns -/

/-- No plus stands before a closing brace. -/
def Unmarked (chars : List Char) : Prop :=
  chars.IsChain fun c next => c ≠ '+' ∨ next ≠ '\x7d'

variable {rest chars : List Char}

theorem Unmarked.step {c : Char} (unmarked : Unmarked (c :: chars))
    (unclosed : rest.head? ≠ some '\x7d') :
    Text.dropLeading? ['+', '\x7d'] (c :: (chars ++ rest)) = none := by
  have apart : c ≠ '+' ∨ (chars ++ rest).head? ≠ some '\x7d' := by
    cases chars with
    | nil => exact Or.inr unclosed
    | cons next chars => simpa using (List.isChain_cons_cons.mp unmarked).1
  rw [Text.dropLeading?]
  split
  · next isPlus =>
      have other := apart.resolve_left (not_not.mpr (beq_iff_eq.mp isPlus))
      cases following : chars ++ rest with
      | nil => rfl
      | cons next more =>
        rw [following, List.head?_cons, ne_eq, Option.some.injEq] at other
        rw [Text.dropLeading?, beq_false_of_ne other]
        rfl
  · rfl

theorem replaceChars_unmarked (unmarked : Unmarked chars)
    (unclosed : rest.head? ≠ some '\x7d') (replacement : List Char) (fuel : Nat) :
    Text.replaceChars ['+', '\x7d'] replacement (chars.length + fuel) (chars ++ rest) =
      chars ++ Text.replaceChars ['+', '\x7d'] replacement fuel rest := by
  induction chars with
  | nil => simp
  | cons c chars ih =>
    rw [List.length_cons, Nat.add_right_comm, List.cons_append, Text.replaceChars,
      unmarked.step unclosed, ih unmarked.tail, List.cons_append]

theorem cutWord_unmarked (unmarked : Unmarked chars) (unclosed : rest.head? ≠ some '\x7d') :
    cutWord ['+', '\x7d'] (chars ++ rest) =
      (cutWord ['+', '\x7d'] rest).map fun parts => (chars ++ parts.1, parts.2) := by
  induction chars with
  | nil => simp
  | cons c chars ih =>
    rw [List.cons_append, cutWord, unmarked.step unclosed, ih unmarked.tail]
    simp [Function.comp_def]

theorem unmarked_of_not_mem (absent : '+' ∉ chars) : Unmarked chars := by
  apply List.Pairwise.isChain
  apply List.pairwise_of_forall_mem_list
  rintro c isChar next -
  refine Or.inl ?_
  rintro rfl
  exact absent isChar

theorem Segment.unmarked (segment : Segment) : Unmarked segment.text.toList := by
  cases segment with
  | literal text plain =>
    apply List.Pairwise.isChain
    apply List.pairwise_of_forall_mem_list
    exact fun _ _ next isNext => Or.inr (plain next isNext).2.1
  | label name =>
    have absent : '+' ∉ name.1.toList := name.not_mem (by decide)
    exact unmarked_of_not_mem (by simp [Segment.text, absent])

theorem Segment.head_ne (segment : Segment) (unclosed : rest.head? ≠ some '\x7d') :
    (segment.text.toList ++ rest).head? ≠ some '\x7d' := by
  cases segment with
  | label name => simp [Segment.text]
  | literal text plain =>
    rw [Segment.text]
    cases chars : text.toList with
    | nil => exact unclosed
    | cons first others =>
      have other := (plain first (chars ▸ List.mem_cons_self)).2.1
      simpa using other

/-- Segments bring no mark with them, and do not complete one. -/
theorem unmarked_segments (segments : List Segment) (unmarked : Unmarked rest)
    (unclosed : rest.head? ≠ some '\x7d') :
    Unmarked (segments.flatMap (·.text.toList) ++ rest) ∧
      (segments.flatMap (·.text.toList) ++ rest).head? ≠ some '\x7d' := by
  induction segments with
  | nil => exact ⟨unmarked, unclosed⟩
  | cons segment segments ih =>
    rw [List.flatMap_cons, List.append_assoc]
    refine ⟨?_, segment.head_ne ih.2⟩
    refine List.isChain_append.mpr ⟨segment.unmarked, ih.1, ?_⟩
    rintro c - next isNext
    refine Or.inr ?_
    rintro rfl
    exact ih.2 isNext

def Template.opening (template : Template) : List Char :=
  template.lead.toList ++ match template.greedy with
    | none => []
    | some name => '\x7b' :: name.1.toList

/-- The ending of the label for the rest. -/
def Template.ending (mark : List Char) (template : Template) : List Char :=
  match template.greedy with
  | none => []
  | some _ => mark ++ ['\x7d']

theorem Template.toList_rest (mark : String) :
    (template.lead ++ template.rest mark).toList =
      template.opening ++ template.ending mark.toList := by
  rw [Template.rest, Template.opening, Template.ending]
  cases template.greedy <;> simp

theorem Template.unmarked_opening : Unmarked template.opening := by
  rw [Template.opening, template.toList_lead]
  cases template.greedy with
  | none => exact (unmarked_segments _ List.isChain_nil (by simp)).1
  | some name =>
    have absent : '+' ∉ name.1.toList := name.not_mem (by decide)
    exact (unmarked_segments _ (unmarked_of_not_mem (by simpa using absent)) (by simp)).1

theorem Template.ending_unclosed :
    (template.ending ['+']).head? ≠ some '\x7d' := by
  rw [Template.ending]
  cases template.greedy <;> simp

theorem Template.replaceAll_path :
    Text.replaceAll template.path "+\x7d" "...\x7d" = template.lead ++ template.rest "..." := by
  have chars : template.path.toList = template.opening ++ template.ending ['+'] :=
    template.toList_rest "+"
  have size : template.path.length + 1 =
      template.opening.length + ((template.ending ['+']).length + 1) := by
    rw [← String.length_toList, chars, List.length_append, Nat.add_assoc]
  have word : "+\x7d".toList = ['+', '\x7d'] := rfl
  rw [← String.toList_inj, Text.replaceAll, String.toList_ofList, word, size, chars,
    replaceChars_unmarked template.unmarked_opening template.ending_unclosed,
    template.toList_rest, Template.ending, Template.ending]
  cases template.greedy <;> rfl

theorem Template.serverPattern_path :
    serverPattern template.path = match template.greedy with
      | none => (template.path, "")
      | some name => (template.lead ++ "*", name.1) := by
  have chars : template.path.toList = template.opening ++ template.ending ['+'] :=
    template.toList_rest "+"
  rw [serverPattern, chars,
    cutWord_unmarked template.unmarked_opening template.ending_unclosed, Template.ending]
  cases greedy : template.greedy with
  | none => rfl
  | some name =>
    have absent : '\x7b' ∉ name.1.toList := name.not_mem (by decide)
    have cut := Text.cutLast_mark absent template.lead.toList
    rw [String.ofList_toList, String.ofList_toList] at cut
    have opening : template.opening = template.lead.toList ++ '\x7b' :: name.1.toList := by
      rw [Template.opening, greedy]
    have found : cutWord ['+', '\x7d'] (['+'] ++ ['\x7d']) = some ([], []) := rfl
    simp only [found, Option.map_some, List.append_nil, opening, cut]

end Templates

/-- All readers of a template find its parts: the labels with that for the rest as the last, the
path before the query, the pattern of the handlers with the names kept, and the pattern of the
server, which ends before the label for the rest and gives its name. -/
theorem template_read
    {template : Template} {binding : HttpBinding}
    (isUri : binding.uri = template.uri) (method : String) :
    binding.labels = template.names ∧
      binding.path = template.path ∧
      pattern method binding = method ++ " " ++ (template.lead ++ template.rest "...") ∧
      (template.greedy = none → serverPattern binding.path = (template.path, "")) ∧
      ∀ name, template.greedy = some name →
        serverPattern binding.path = (template.lead ++ "*", name.1) ∧
          binding.labels.getLast? = some name.1 := by
  have labels := Template.labels_eq isUri
  have path := Template.path_eq isUri
  have served := template.serverPattern_path
  refine ⟨labels, path, ?_, fun none => ?_, fun name some => ⟨?_, ?_⟩⟩
  · rw [pattern, path, template.replaceAll_path]
  · rw [path, served, none]
  · rw [path, served, some]
  · rw [labels, Template.names, some]
    simp

/-! A template with a label inside, a plus that marks nothing, and a label for the rest. -/

namespace Files

def user : LabelName := ⟨"user", by decide⟩

def key : LabelName := ⟨"key", by decide⟩

def template : Template where
  segments := [.literal "/a+/" (by simp), .label user, .literal "/" (by simp)]
  greedy := some key
  query := some ⟨"mode=full", by simp⟩

def binding : HttpBinding := { method := "GET", uri := "/a+/\x7buser\x7d/\x7bkey+\x7d?mode=full" }

end Files

open Files in
theorem template_read_files :
    binding.uri = template.uri ∧ binding.labels = ["user", "key"] ∧
      pattern "GET" binding = "GET /a+/\x7buser\x7d/\x7bkey...\x7d" ∧
      serverPattern binding.path = ("/a+/\x7buser\x7d/*", "key") := by
  have isUri : binding.uri = template.uri := by decide
  rcases template_read isUri "GET" with ⟨labels, -, handled, -, served⟩
  exact ⟨isUri, labels, handled.trans (by decide), (served key rfl).1.trans (by decide)⟩

end Route

end ShapeForge
