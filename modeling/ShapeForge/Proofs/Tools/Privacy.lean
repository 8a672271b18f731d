import Mathlib.Tactic.Tauto
import ShapeForge.Proofs.Model.Spelling
import ShapeForge.Tools.Call

/-!
# Messages without paths

What the scan for paths does to a text: from left to right, a longest path is replaced by the mark
and every other character is kept.  Neither what is kept nor the marks can meet so that a new path
arises, so nothing is left to hide.
-/

namespace ShapeForge.Tools

/-- The characters of the class `[-A-Za-z0-9._/]`. -/
def PathChar (c : Char) : Prop :=
  ShapeId.StartsWord c ∨ ('0' ≤ c ∧ c ≤ '9') ∨ c = '.' ∨ c = '/' ∨ c = '-'

/-- A path below one of the top directories starts here. -/
def StartsPath (chars : List Char) : Prop :=
  ∃ name ∈ topDirectories, '/' :: name.toList <+: chars

def PathFree (chars : List Char) : Prop :=
  ∀ name ∈ topDirectories, ¬ '/' :: name.toList <:+: chars

/-- The scan for paths: where one starts, it is replaced as far as it goes, and a character where
none does is kept. -/
inductive Hidden : List Char → List Char → Prop where
  | done : Hidden [] []
  | keep {c : Char} {rest hidden : List Char}
      (other : ¬StartsPath (c :: rest))
      (later : Hidden rest hidden) :
      Hidden (c :: rest) (c :: hidden)
  | hide {name : String} {tail rest hidden : List Char}
      (isTop : name ∈ topDirectories)
      (inPath : ∀ c ∈ tail, PathChar c)
      (longest : ∀ c ∈ rest.head?, ¬PathChar c)
      (later : Hidden rest hidden) :
      Hidden ('/' :: (name.toList ++ tail ++ rest)) ("<path>".toList ++ hidden)

variable {chars hidden : List Char}

theorem isPathChar_iff {c : Char} : isPathChar c = true ↔ PathChar c := by
  have start := ShapeId.isIdentifierStart_iff (c := c)
  rw [ShapeId.isIdentifierStart, Bool.or_eq_true, beq_iff_eq] at start
  rw [PathChar, ← start, ← ShapeId.isDigit_iff]
  simp only [isPathChar, Char.isAlphanum, Bool.or_eq_true, beq_iff_eq]
  tauto

theorem startsPath_cons {c : Char} {rest : List Char} :
    StartsPath (c :: rest) ↔ (c == '/' && startsTop rest) = true := by
  simp only [StartsPath, startsTop, List.cons_prefix_cons, Bool.and_eq_true, beq_iff_eq,
    List.any_eq_true, List.isPrefixOf_iff_prefix, eq_comm (a := c)]
  tauto

theorem isPathChar_of_top :
    ∀ name ∈ topDirectories, ∀ c ∈ name.toList, isPathChar c = true ∧ c ≠ '<' := by
  have all : (topDirectories.all (·.toList.all fun c => isPathChar c && c != '<')) = true := by
    decide
  simpa using all

/-- Inside of a path the scan goes on behind it. -/
theorem hideChars_true (chars : List Char) :
    hideChars true chars = hideChars false (chars.dropWhile isPathChar) := by
  induction chars with
  | nil => rfl
  | cons c rest ih =>
    by_cases inPath : isPathChar c = true
    · rw [hideChars, Bool.true_and, if_pos inPath, List.dropWhile_cons_of_pos inPath, ih]
    · rw [hideChars, Bool.true_and, if_neg inPath, List.dropWhile_cons_of_neg inPath, hideChars,
        Bool.false_and, if_neg Bool.false_ne_true]

/-- The part of a path behind its first slash is dropped as a whole. -/
theorem dropWhile_path {name : String} {tail rest : List Char} (isTop : name ∈ topDirectories)
    (inPath : ∀ c ∈ tail, PathChar c) (longest : ∀ c ∈ rest.head?, ¬PathChar c) :
    (name.toList ++ tail ++ rest).dropWhile isPathChar = rest := by
  have all : ∀ c ∈ name.toList ++ tail, isPathChar c = true := by
    intro c isIn
    rcases List.mem_append.mp isIn with isName | isTail
    · exact (isPathChar_of_top name isTop c isName).1
    · exact isPathChar_iff.mpr (inPath c isTail)
  rw [List.dropWhile_append_of_pos all]
  cases rest with
  | nil => rfl
  | cons c rest =>
    exact List.dropWhile_cons_of_neg (mt isPathChar_iff.mp (longest c rfl))

theorem Hidden.eq_hideChars (scanned : Hidden chars hidden) : hidden = hideChars false chars := by
  induction scanned with
  | done => rfl
  | keep other _ ih =>
    rw [hideChars, Bool.false_and, if_neg Bool.false_ne_true, if_neg (mt startsPath_cons.mpr other),
      ih]
  | @hide name tail rest hidden isTop inPath longest _ ih =>
    have starts : StartsPath ('/' :: (name.toList ++ tail ++ rest)) :=
      ⟨name, isTop, by simp [List.append_assoc]⟩
    rw [hideChars, Bool.false_and, if_neg Bool.false_ne_true, if_pos (startsPath_cons.mp starts),
      hideChars_true, dropWhile_path isTop inPath longest, ih]
    rfl

/-- Every text is scanned to its end: a step leaves fewer characters. -/
theorem exists_hidden (chars : List Char) : ∃ hidden, Hidden chars hidden := by
  induction length : chars.length using Nat.strong_induction_on generalizing chars with
  | _ length ih =>
    cases chars with
    | nil => exact ⟨[], .done⟩
    | cons c rest =>
      subst length
      by_cases starts : StartsPath (c :: rest)
      · rcases starts with ⟨name, isTop, more, same⟩
        rw [List.cons_append, List.cons.injEq] at same
        rcases same with ⟨rfl, rfl⟩
        have shorter := (List.dropWhile_suffix (l := more) isPathChar).length_le
        rcases ih _ (by simp; omega) (more.dropWhile isPathChar) rfl with ⟨hidden, later⟩
        have longest : ∀ c ∈ (more.dropWhile isPathChar).head?, ¬PathChar c := by
          intro c isHead inPath
          have stops := List.head?_dropWhile_not isPathChar more
          rw [isHead] at stops
          exact absurd (isPathChar_iff.mpr inPath) (ne_true_of_eq_false stops)
        have inPath : ∀ c ∈ more.takeWhile isPathChar, PathChar c :=
          fun c isIn => isPathChar_iff.mp (List.mem_takeWhile_imp isIn)
        have step := Hidden.hide isTop inPath longest later
        rw [List.append_assoc, List.takeWhile_append_dropWhile] at step
        exact ⟨_, step⟩
      · rcases ih rest.length (Nat.lt_succ_self _) rest rfl with ⟨hidden, later⟩
        exact ⟨c :: hidden, .keep starts later⟩

theorem hidden_iff : Hidden chars hidden ↔ hidden = hideChars false chars := by
  refine ⟨Hidden.eq_hideChars, ?_⟩
  rintro rfl
  rcases exists_hidden chars with ⟨hidden, scanned⟩
  exact scanned.eq_hideChars ▸ scanned

/-- What stands at the beginning without any part of a mark was there before. -/
theorem Hidden.prefix_of_prefix (scanned : Hidden chars hidden) {start : List Char}
    (unmarked : ∀ c ∈ start, c ≠ '<') (starts : start <+: hidden) :
    start <+: chars := by
  induction scanned generalizing start with
  | done => exact starts
  | keep _ _ ih =>
    cases start with
    | nil => exact List.nil_prefix
    | cons first others =>
      rcases List.cons_prefix_cons.mp starts with ⟨rfl, behind⟩
      exact List.cons_prefix_cons.mpr ⟨rfl, ih (List.forall_mem_cons.mp unmarked).2 behind⟩
  | hide =>
    cases start with
    | nil => exact List.nil_prefix
    | cons first others =>
      exact absurd (List.cons_prefix_cons.mp starts).1 (List.forall_mem_cons.mp unmarked).1

theorem Hidden.pathFree (scanned : Hidden chars hidden) : PathFree hidden := by
  induction scanned with
  | done =>
    intro name _ isInfix
    cases List.infix_nil.mp isInfix
  | keep other later ih =>
    intro name isTop isInfix
    rcases List.infix_cons_iff.mp isInfix with starts | isInfix
    · rcases List.cons_prefix_cons.mp starts with ⟨rfl, behind⟩
      have before := later.prefix_of_prefix
        (fun c isIn => (isPathChar_of_top name isTop c isIn).2) behind
      exact other ⟨name, isTop, List.cons_prefix_cons.mpr ⟨rfl, before⟩⟩
    · exact ih name isTop isInfix
  | hide _ _ _ _ ih =>
    intro name isTop isInfix
    -- No slash stands in the mark.
    refine ih name isTop ?_
    simpa [List.infix_cons_iff, List.cons_prefix_cons] using isInfix

theorem PathFree.kept (free : PathFree chars) : Hidden chars chars := by
  induction chars with
  | nil => exact .done
  | cons c rest ih =>
    refine .keep ?_ (ih fun name isTop isInfix => free name isTop (isInfix.trans ?_))
    · rintro ⟨name, isTop, starts⟩
      exact free name isTop starts.isInfix
    · exact (List.suffix_cons c rest).isInfix

/-- Messages reveal no paths: they are what the scan leaves of a text, no path is in them, to hide
paths again changes nothing, and a failed call gives no other message. -/
theorem paths_hidden (text : String) :
    (∀ hidden, Hidden text.toList hidden ↔ hidden = (hidePaths text).toList) ∧
    PathFree (hidePaths text).toList ∧
    hidePaths (hidePaths text) = hidePaths text ∧
    ∀ settings now desk call message, (Call.run settings now desk call).1 = .error message →
      PathFree message.toList := by
  have scanned (text : String) {hidden : List Char} :
      Hidden text.toList hidden ↔ hidden = (hidePaths text).toList := by
    rw [hidden_iff, hidePaths, String.toList_ofList]
  have free (text : String) : PathFree (hidePaths text).toList :=
    ((scanned text).mpr rfl).pathFree
  refine ⟨fun _ => scanned text, free text, ?_, ?_⟩
  · exact String.toList_inj.mp ((scanned _).mp (free text).kept).symm
  · intro settings now desk call message failed
    have run : (Call.run settings now desk call).1 =
        ((call.work settings now).run desk).1.mapError fun fault => hidePaths fault.message := rfl
    rw [run] at failed
    cases result : ((call.work settings now).run desk).1 with
    | ok answer => cases result ▸ failed
    | error fault =>
      cases result ▸ failed
      exact free fault.message

end ShapeForge.Tools
