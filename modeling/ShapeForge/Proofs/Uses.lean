import ShapeForge.Proofs.Model.Spelling
import ShapeForge.Proofs.Templates
import ShapeForge.Proofs.Text.Blocks

/-!
# The directives of a source

A source is read line by line, up to the first line that is too long.  Before that line every
directive is found, under the number of the line that it stands on.  Behind it none is.
-/

namespace ShapeForge.Use

open ShapeForge.ShapeId (StartsWord IsWord isIdentifierStart_iff isDigit_iff)

/-! ## Directives -/

/-- The namespaces of the expression `[A-Za-z_][A-Za-z0-9_.]*`. -/
def IsSpace (text : String) : Prop :=
  ∃ first rest, text.toList = first :: rest ∧ StartsWord first ∧
    ∀ c ∈ rest, StartsWord c ∨ ('0' ≤ c ∧ c ≤ '9') ∨ c = '.'

/-- A line that imports a shape: `use`, white space, a namespace, `#` and a name. -/
def Imports (line : String) (id : ShapeId) : Prop :=
  ∃ gap space name, Text.trim line = "use" ++ gap ++ space ++ "#" ++ name ∧
    gap ≠ "" ∧ (∀ c ∈ gap.toList, isSeparator c = true) ∧ IsSpace space ∧ IsWord name ∧
    id.text = space ++ "#" ++ name

theorem isName_iff {space : String} : isName true space.toList = true ↔ IsSpace space := by
  rw [IsSpace]
  cases space.toList with
  | nil => simp [isName]
  | cons first rest =>
    simp [isName, ShapeId.isIdentifierChar, isIdentifierStart_iff, isDigit_iff, or_assoc]

theorem isName_eq_isIdentifier (name : String) :
    isName false name.toList = ShapeId.isIdentifier name := by
  rw [ShapeId.isIdentifier]
  cases name.toList with
  | nil => rfl
  | cons first rest => simp [isName, ShapeId.isIdentifierChars]

theorem dropLeading?_eq_some {word chars rest : List Char} :
    Text.dropLeading? word chars = some rest ↔ chars = word ++ rest := by
  induction word generalizing chars with
  | nil => simp [Text.dropLeading?, eq_comm]
  | cons expected word ih =>
    cases chars with
    | nil => simp [Text.dropLeading?]
    | cons c chars =>
      rw [Text.dropLeading?]
      split
      · simp_all
      · simp_all

theorem not_mem_of_isName {dotted : Bool} {c : Char} {chars : List Char}
    (named : isName dotted chars = true)
    (noChar : ShapeId.isIdentifierChar c = false) (noDot : c ≠ '.') :
    c ∉ chars := by
  cases chars with
  | nil => exact List.not_mem_nil
  | cons first rest =>
    rw [isName, Bool.and_eq_true, List.all_eq_true] at named
    intro isChar
    rcases List.mem_cons.mp isChar with rfl | isRest
    · rw [ShapeId.isIdentifierChar, named.1] at noChar
      cases noChar
    · simpa [noChar, noDot] using named.2 c isRest

/-- White space ends where a name starts. -/
theorem span_gap {gap space : List Char} (blank : ∀ c ∈ gap, isSeparator c = true)
    (named : isName true space = true) (rest : List Char) :
    (gap ++ (space ++ rest)).span isSeparator = (gap, space ++ rest) := by
  have starts : (space ++ rest).dropWhile isSeparator = space ++ rest ∧
      (space ++ rest).takeWhile isSeparator = [] := by
    cases space with
    | nil => cases named
    | cons first others =>
      have start : ShapeId.isIdentifierStart first = true := (Bool.and_eq_true_iff.mp named).1
      have isChar : ShapeId.isIdentifierChar first = true := by
        rw [ShapeId.isIdentifierChar, start, Bool.true_or]
      have other : isSeparator first = false :=
        Naming.forall_ascii (fun c => ShapeId.isIdentifierChar c = true → isSeparator c = false)
          (by decide) (Naming.ascii_of_isIdentifierChar isChar) isChar
      simp [other]
  rw [List.span_eq_takeWhile_dropWhile, List.takeWhile_append_of_pos blank,
    List.dropWhile_append_of_pos blank, starts.1, starts.2, List.append_nil]

theorem span_hash {space : List Char} (named : isName true space = true) (name : List Char) :
    (space ++ '#' :: name).span (· != '#') = (space, '#' :: name) := by
  have absent : '#' ∉ space := not_mem_of_isName named (by decide) (by decide)
  have passes := Text.bne_of_not_mem absent
  rw [List.span_eq_takeWhile_dropWhile, List.takeWhile_append_of_pos passes,
    List.dropWhile_append_of_pos passes]
  simp

/-- Exactly the lines that import a shape are read as directives. -/
theorem ofLine?_eq_some {line : String} {id : ShapeId} :
    ofLine? (Text.trimChars line.toList) = some id ↔ Imports line id := by
  have trimmed : (Text.trim line).toList = Text.trimChars line.toList := String.toList_ofList
  constructor
  · intro read
    unfold ofLine? at read
    split at read
    · cases read
    next rest dropped =>
      have cut := List.head?_dropWhile_not (· != '#') (rest.dropWhile isSeparator)
      simp only [List.span_eq_takeWhile_dropWhile] at read
      split at read
      next space hash name spanned =>
        rw [Prod.mk.injEq] at spanned
        rw [spanned.2] at cut
        simp only [Option.ite_none_right_eq_some, Bool.and_eq_true, Option.some.injEq,
          Bool.not_eq_true', List.isEmpty_eq_false_iff] at read
        rcases read with ⟨⟨⟨nonempty, isSpace⟩, isName⟩, rfl⟩
        have isHash : hash = '#' := by simpa using cut
        have whole : rest.dropWhile isSeparator = space ++ '#' :: name := by
          rw [← List.takeWhile_append_dropWhile (p := (· != '#')) (l := rest.dropWhile isSeparator),
            spanned.1, spanned.2, isHash]
        refine ⟨String.ofList (rest.takeWhile isSeparator), String.ofList space,
          String.ofList name, ?_, ?_, ?_, ?_, ?_, ?_⟩
        · rw [← String.toList_inj, trimmed, dropLeading?_eq_some.mp dropped]
          simp [← whole]
        · simpa [← String.toList_inj] using nonempty
        · rw [String.toList_ofList]
          exact fun c => List.mem_takeWhile_imp
        · rwa [← isName_iff, String.toList_ofList]
        · rwa [← ShapeId.isIdentifier_iff, ← isName_eq_isIdentifier, String.toList_ofList]
        · rw [whole, ← String.toList_inj]
          simp
      · cases read
  · rintro ⟨gap, space, name, isLine, nonempty, blank, isSpace, isWord, isId⟩
    have named := isName_iff.mpr isSpace
    have chars : Text.trimChars line.toList =
        "use".toList ++ (gap.toList ++ (space.toList ++ '#' :: name.toList)) := by
      rw [← trimmed, isLine]
      simp
    have shape : (⟨space ++ ("#" ++ name)⟩ : ShapeId) = id := by
      rw [← String.append_assoc, ← isId]
    rw [ofLine?, dropLeading?_eq_some.mpr chars]
    simp only [span_gap blank named, span_hash named]
    simp [named, isName_eq_isIdentifier, ShapeId.isIdentifier_iff.mpr isWord, nonempty, shape]

/-! ## Sources -/

/-- A directive on one of the lines, under the number of the line. -/
def Directive (lines : List String) (use : Use) : Prop :=
  ∃ line, (line, use.line) ∈ lines.zipIdx 1 ∧ Imports line use.id

/-- The lines before the first that is too long. -/
def readable (lines : List String) : List String :=
  lines.takeWhile fun line => line.utf8ByteSize < maxLineSize

/-- The lines from the first that is too long on. -/
def unread (lines : List String) : List String :=
  lines.dropWhile fun line => line.utf8ByteSize < maxLineSize

theorem ofLines_eq (number : Nat) (lines : List String) :
    ofLines number lines = ((readable lines).zipIdx number).filterMap fun (line, place) =>
      (ofLine? (Text.trimChars line.toList)).map fun id => { id, line := place } := by
  induction lines generalizing number with
  | nil => rfl
  | cons first rest ih =>
    rw [ofLines, readable, List.takeWhile_cons]
    by_cases short : first.utf8ByteSize < maxLineSize
    · rw [if_neg (Nat.not_le.mpr short), if_pos (decide_eq_true short), List.zipIdx_cons, ih]
      cases read : ofLine? (Text.trimChars first.toList) with
      | none => rw [List.filterMap_cons_none (by simp [read])]; rfl
      | some id => rw [List.filterMap_cons_some (by simp [read]; rfl)]; rfl
    · simp [short, Nat.not_lt.mp short]

theorem mem_ofSource {source : String} {use : Use} :
    use ∈ ofSource source ↔ Directive (readable (Text.lines source)) use := by
  rw [ofSource, ofLines_eq, List.mem_filterMap, Directive]
  simp only [Option.map_eq_some_iff, ofLine?_eq_some]
  constructor
  · rintro ⟨⟨line, number⟩, isLine, id, imports, rfl⟩
    exact ⟨line, isLine, imports⟩
  · rintro ⟨line, isLine, imports⟩
    exact ⟨(line, use.line), isLine, use.id, imports, rfl⟩

theorem sorted_ofSource (source : String) : (ofSource source).Pairwise (·.line < ·.line) := by
  have numbers (lines : List String) : (lines.zipIdx 1).Pairwise (·.2 < ·.2) := by
    have ascending : ((lines.zipIdx 1).map Prod.snd).Pairwise (· < ·) := by
      rw [List.zipIdx_map_snd]
      exact List.pairwise_lt_range'
    exact List.pairwise_map.mp ascending
  rw [ofSource, ofLines_eq, List.pairwise_filterMap]
  refine (numbers _).imp fun {first second} before use isFirst other isSecond => ?_
  rcases Option.map_eq_some_iff.mp isFirst with ⟨id, -, rfl⟩
  rcases Option.map_eq_some_iff.mp isSecond with ⟨id, -, rfl⟩
  exact before

/-- A source is read in order, and exactly the directives are found that stand before the first line
that is too long.  So all are found exactly if this line and those behind it import nothing. -/
theorem directives_read (source : String) :
    (ofSource source).Pairwise (·.line < ·.line) ∧
      (∀ use, use ∈ ofSource source ↔ Directive (readable (Text.lines source)) use) ∧
      ((∀ use, use ∈ ofSource source ↔ Directive (Text.lines source) use) ↔
        ∀ line ∈ unread (Text.lines source), ∀ id, ¬Imports line id) := by
  refine ⟨sorted_ofSource source, fun use => mem_ofSource, ?_⟩
  simp only [mem_ofSource]
  generalize Text.lines source = lines
  have split (use : Use) : Directive lines use ↔ Directive (readable lines) use ∨
      ∃ line, (line, use.line) ∈ (unread lines).zipIdx (1 + (readable lines).length) ∧
        Imports line use.id := by
    have whole : lines = readable lines ++ unread lines := List.takeWhile_append_dropWhile.symm
    rw [Directive, whole, List.zipIdx_append, ← whole]
    simp only [List.mem_append, or_and_right, exists_or, Directive]
  simp only [split, iff_self_or]
  constructor
  · intro all line isLine id imports
    rw [← List.zipIdx_map_fst (1 + (readable lines).length) (unread lines)] at isLine
    rcases List.mem_map.mp isLine with ⟨⟨_, number⟩, isPlace, rfl⟩
    rcases all { id, line := number } ⟨_, isPlace, imports⟩ with ⟨other, isOther, -⟩
    have above := List.le_snd_of_mem_zipIdx isPlace
    have below : number < _ := List.snd_lt_of_mem_zipIdx isOther
    omega
  · rintro none use ⟨line, isPlace, imports⟩
    exact absurd imports (none line (List.fst_mem_of_mem_zipIdx isPlace) use.id)

/-! A source whose first line is filled up with a letter. -/

def filled (count : Nat) : String :=
  String.ofList (List.replicate count 'x') ++ "\n" ++ "use shop.base#Item"

theorem utf8ByteSize_replicate (count : Nat) :
    (String.ofList (List.replicate count 'x')).utf8ByteSize = count := by
  induction count with
  | zero => rfl
  | succ count ih =>
    rw [List.replicate_succ', String.ofList_append, String.utf8ByteSize_append, ih]
    rfl

/-- A directive is lost behind a line of 65536 letters. -/
theorem directive_lost_filled :
    Directive (Text.lines (filled 65536)) { id := ⟨"shop.base#Item"⟩, line := 2 } ∧
      ofSource (filled 65536) = [] := by
  have letters : Text.OneLine (String.ofList (List.replicate 65536 'x')) := by
    intro isBreak
    rw [String.toList_ofList] at isBreak
    cases List.eq_of_mem_replicate isBreak
  have lines : Text.lines (filled 65536) =
      [String.ofList (List.replicate 65536 'x'), "use shop.base#Item"] := by
    rw [filled, Text.lines_append_break, letters.lines_eq, Text.OneLine.lines_eq (by decide)]
    rfl
  rw [ofSource, lines]
  constructor
  · exact ⟨_, List.mem_cons_of_mem _ List.mem_cons_self, ofLine?_eq_some.mp (by decide)⟩
  · have long : (String.ofList (List.replicate 65536 'x')).utf8ByteSize ≥ maxLineSize :=
      (utf8ByteSize_replicate 65536).ge
    rw [ofLines, if_pos long]

end ShapeForge.Use
