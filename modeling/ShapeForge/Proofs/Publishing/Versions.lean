import Mathlib.Data.List.Sort
import Mathlib.Data.Prod.Lex
import Mathlib.Data.String.Basic
import Mathlib.Data.Sum.Order
import ShapeForge.Proofs.Json.Number
import ShapeForge.Version

/-!
# The order of versions

Versions that were read are in a total order of precedence, up to what does not count for it.
Sorting puts a version last that no other one follows, and the version after that one follows them
all.
-/

namespace ShapeForge.Version

/-! ## Numbers -/

variable {value : Nat} {digits : List Char}

theorem number?_eq_some :
    number? digits = some value ↔
      digits ≠ [] ∧ (∀ c ∈ digits, c.isDigit = true) ∧
        Nat.ofDigitChars 10 digits 0 = value ∧ value < limit := by
  have same : digits.foldl (fun value c => value * 10 + (c.toNat - '0'.toNat)) 0 =
      Nat.ofDigitChars 10 digits 0 := by
    rw [Nat.ofDigitChars_eq_foldl]
    congr 1
    funext sofar c
    rw [Nat.mul_comm]
  unfold number?
  rw [same]
  by_cases digital : digits ≠ [] ∧ ∀ c ∈ digits, c.isDigit = true
  · have accepted : (digits.isEmpty || !digits.all Char.isDigit) = false := by
      simpa using digital
    simp only [accepted, Bool.false_eq_true, if_false, digital.1, ne_eq, not_false_eq_true,
      true_and]
    split
    · next fits =>
        rw [Option.some.injEq]
        constructor
        · rintro rfl
          exact ⟨digital.2, rfl, fits⟩
        · exact fun read => read.2.1
    · next exceeds =>
        simp only [reduceCtorEq, false_iff]
        rintro ⟨-, rfl, fits⟩
        exact exceeds fits
  · have refused : (digits.isEmpty || !digits.all Char.isDigit) = true := by
      by_contra accepted
      exact digital (by simpa using accepted)
    simp only [refused, if_true, reduceCtorEq, false_iff]
    rintro ⟨nonempty, digits, -⟩
    exact digital ⟨nonempty, digits⟩

theorem number?_toDigits (fits : value < limit) : number? (Nat.toDigits 10 value) = some value := by
  rw [number?_eq_some]
  refine ⟨Nat.toDigits_ne_nil, ?_, Nat.ofDigitChars_ten_toDigits, fits⟩
  intro c isDigit
  exact Nat.isDigit_of_mem_toDigits (by decide) (by decide) isDigit

theorem digitChar_of_isDigit {c : Char} (isDigit : c.isDigit = true) :
    c.toNat - '0'.toNat < 10 ∧ Nat.digitChar (c.toNat - '0'.toNat) = c := by
  have bounds : 48 ≤ c.toNat ∧ c.toNat ≤ 57 := by
    simpa [Char.isDigit, UInt32.le_iff_toNat_le] using isDigit
  have small : c.toNat - '0'.toNat < 10 := by
    show c.toNat - 48 < 10
    omega
  refine ⟨small, Char.toNat_inj.mp ?_⟩
  rw [Nat.toNat_digitChar_of_lt_ten small]
  show 48 + (c.toNat - 48) = c.toNat
  omega

/-- Digits behind a number that is not zero are the last digits of a number. -/
theorem toDigits_append {before : Nat}
    (areDigits : ∀ c ∈ digits, c.isDigit = true) (positive : 0 < before) :
    Nat.toDigits 10 before ++ digits = Nat.toDigits 10 (Nat.ofDigitChars 10 digits before) := by
  induction digits generalizing before with
  | nil => rw [List.append_nil, Nat.ofDigitChars_nil]
  | cons c rest ih =>
    rcases List.forall_mem_cons.mp areDigits with ⟨isDigit, others⟩
    rcases digitChar_of_isDigit isDigit with ⟨small, isChar⟩
    have step := Nat.toDigits_append_toDigits (b := 10) (d := c.toNat - '0'.toNat) (by decide)
      positive small
    rw [Nat.toDigits_of_lt_base small, isChar] at step
    rw [Nat.ofDigitChars_cons, ← ih others (by omega), ← step, List.append_assoc]
    rfl

theorem toDigits_of_number? (read : number? digits = some value)
    (canonical : ¬(1 < digits.length ∧ digits.head? = some '0')) :
    digits = Nat.toDigits 10 value := by
  rcases number?_eq_some.mp read with ⟨nonempty, areDigits, rfl, -⟩
  cases digits with
  | nil => exact absurd rfl nonempty
  | cons c rest =>
    rcases List.forall_mem_cons.mp areDigits with ⟨isDigit, others⟩
    rcases digitChar_of_isDigit isDigit with ⟨small, isChar⟩
    by_cases zero : c = '0'
    · subst zero
      cases rest with
      | nil => rfl
      | cons next rest => exact absurd ⟨by simp, rfl⟩ canonical
    · have positive : 0 < c.toNat - '0'.toNat := by
        rw [Nat.pos_iff_ne_zero]
        intro isZero
        rw [isZero] at isChar
        exact zero isChar.symm
      have whole := toDigits_append others positive
      rw [Nat.toDigits_of_lt_base small, isChar] at whole
      rw [Nat.ofDigitChars_cons]
      simpa using whole

/-- Numbers without leading zeros differ in value if they differ at all. -/
theorem eq_of_number? {left right : String}
    (leftPlain : isPreRelease left = true) (rightPlain : isPreRelease right = true)
    (leftRead : number? left.toList = some value) (rightRead : number? right.toList = some value) :
    left = right := by
  have digits {text : String}
      (plain : isPreRelease text = true) (read : number? text.toList = some value) :
      text.toList = Nat.toDigits 10 value := by
    apply toDigits_of_number? read
    rintro ⟨longer, leading⟩
    have areDigits : text.toList.all Char.isDigit = true :=
      List.all_eq_true.mpr (number?_eq_some.mp read).2.1
    simp only [isPreRelease, areDigits, leading] at plain
    simp [longer] at plain
  rw [← String.toList_inj, digits leftPlain leftRead, digits rightPlain rightRead]

/-! ## Precedence -/

section Identifiers

variable {left right : String} {lefts rights : List String}

/-- An identifier in a linear order: numbers by value and before words. -/
def rank (identifier : String) : Nat ⊕ₗ String :=
  match number? identifier.toList with
  | some value => Sum.inlₗ value
  | none => Sum.inrₗ identifier

theorem rank_inj
    (leftPlain : isPreRelease left = true) (rightPlain : isPreRelease right = true)
    (same : rank left = rank right) :
    left = right := by
  unfold rank at same
  cases leftRead : number? left.toList <;> cases rightRead : number? right.toList <;>
    rw [leftRead, rightRead] at same <;> cases same
  · rfl
  · exact eq_of_number? leftPlain rightPlain leftRead rightRead

theorem compares_rank
    (leftPlain : isPreRelease left = true) (rightPlain : isPreRelease right = true) :
    (compareIdentifiers left right).Compares (rank left) (rank right) := by
  unfold compareIdentifiers
  by_cases same : left = right
  · simp [same]
  · have apart := mt (rank_inj leftPlain rightPlain) same
    rw [beq_false_of_ne same, if_neg Bool.false_ne_true]
    unfold rank at apart ⊢
    cases leftRead : number? left.toList <;> cases rightRead : number? right.toList <;>
      simp only [leftRead, rightRead] at apart ⊢
    · split
      · next greater => exact Sum.Lex.inr_lt_inr_iff.mpr greater
      · next notGreater =>
          exact lt_of_le_of_ne (Sum.Lex.inr_le_inr_iff.mpr (not_lt.mp notGreater)) apart
    · exact Sum.Lex.inl_lt_inr _ _
    · exact Sum.Lex.inl_lt_inr _ _
    · split
      · next greater => exact Sum.Lex.inl_lt_inl_iff.mpr greater
      · next notGreater =>
          exact lt_of_le_of_ne (Sum.Lex.inl_le_inl_iff.mpr (not_lt.mp notGreater)) apart

/-- All identifiers are ones of pre-releases. -/
def Plain (identifiers : List String) : Prop :=
  ∀ identifier ∈ identifiers, isPreRelease identifier = true

theorem compares_ranks (leftPlain : Plain lefts) (rightPlain : Plain rights) :
    (comparePreReleases lefts rights).Compares (lefts.map rank) (rights.map rank) := by
  induction lefts generalizing rights with
  | nil =>
    cases rights with
    | nil => rfl
    | cons right rights => exact List.Lex.nil
  | cons left lefts ih =>
    cases rights with
    | nil => exact List.Lex.nil
    | cons right rights =>
      rcases List.forall_mem_cons.mp leftPlain with ⟨leftFirst, leftRest⟩
      rcases List.forall_mem_cons.mp rightPlain with ⟨rightFirst, rightRest⟩
      have first := compares_rank leftFirst rightFirst
      have rest := ih leftRest rightRest
      rw [comparePreReleases]
      cases compared : compareIdentifiers left right with
      | lt | gt =>
        rw [compared] at first
        exact List.Lex.rel first
      | eq =>
        rw [compared] at first
        rw [List.map_cons, List.map_cons, show rank left = rank right from first]
        cases decided : comparePreReleases lefts rights with
        | lt | gt =>
          rw [decided] at rest
          exact List.Lex.cons rest
        | eq =>
          rw [decided] at rest
          exact congrArg (rank right :: ·) rest

end Identifiers

/-- A version that can be read: its numbers fit, and its pre-release is one. -/
structure WellFormed (version : Version) : Prop where
  major : version.major < limit
  minor : version.minor < limit
  patch : version.patch < limit
  preRelease : Plain version.preRelease

/-- A version in a linear order, in which a release comes after its pre-releases. -/
def key (version : Version) : Nat ×ₗ Nat ×ₗ Nat ×ₗ WithTop (List (Nat ⊕ₗ String)) :=
  toLex (version.major, toLex (version.minor, toLex (version.patch,
    if version.preRelease.isEmpty then ⊤ else version.preRelease.map rank)))

section Precedence

variable {left middle right : Version}

theorem precedence_eq_compare (ofLeft : left.WellFormed) (ofRight : right.WellFormed) :
    precedence left right = compare left.key right.key := by
  have lists := compares_ranks ofLeft.preRelease ofRight.preRelease
  simp only [key, Prod.Lex.compare_def, compareLex, compareOn, ofLex_toLex]
  rw [precedence, Ordering.then_assoc]
  congr 3
  symm
  rw [compare_iff]
  cases lefts : left.preRelease with
  | nil =>
    cases right.preRelease with
    | nil => rfl
    | cons identifier others => exact WithTop.coe_lt_top _
  | cons first rest =>
    cases rights : right.preRelease with
    | nil => exact WithTop.coe_lt_top _
    | cons identifier others =>
      rw [lefts, rights] at lists
      simp only
      cases decided : comparePreReleases (first :: rest) (identifier :: others) with
      | lt | gt =>
        rw [decided] at lists
        exact WithTop.coe_lt_coe.mpr lists
      | eq =>
        rw [decided] at lists
        exact congrArg WithTop.some lists

theorem precedence_le (ofLeft : left.WellFormed) (ofRight : right.WellFormed) :
    precedence left right ≠ .gt ↔ left.key ≤ right.key := by
  rw [precedence_eq_compare ofLeft ofRight, compare_le_iff_le]

theorem precedence_trans_of_le
    (ofLeft : left.WellFormed) (ofMiddle : middle.WellFormed) (ofRight : right.WellFormed)
    (first : precedence left middle ≠ .gt) (second : precedence middle right = .lt) :
    precedence left right = .lt := by
  rw [precedence_le ofLeft ofMiddle] at first
  rw [precedence_eq_compare ofMiddle ofRight, compare_lt_iff_lt] at second
  rw [precedence_eq_compare ofLeft ofRight, compare_lt_iff_lt]
  exact lt_of_le_of_lt first second

end Precedence

/-! ## Sorting -/

section Sorting

variable {versions : List Version} {latest : Version}

theorem mem_sort {version : Version} : version ∈ sort versions ↔ version ∈ versions :=
  (List.mergeSort_perm versions _).mem_iff

theorem pairwise_sort (wellFormed : ∀ version ∈ versions, version.WellFormed) :
    (sort versions).Pairwise fun left right => left.key ≤ right.key := by
  -- Precedence is an order on readable versions only, so the keys are what is sorted.
  have same : (sort versions).map key = (versions.map key).mergeSort := by
    apply List.map_mergeSort
    intro left isLeft right isRight
    rw [Bool.eq_iff_iff, bne_iff_ne, decide_eq_true_iff]
    exact precedence_le (wellFormed left isLeft) (wellFormed right isRight)
  rw [← List.pairwise_map, same]
  exact List.pairwise_mergeSort' (· ≤ ·) _

/-- No version comes after the one that is sorted last. -/
theorem precedence_latest (wellFormed : ∀ version ∈ versions, version.WellFormed)
    (last : (sort versions).getLast? = some latest) :
    ∀ version ∈ versions, precedence version latest ≠ .gt := by
  intro version isVersion
  have isLatest := mem_sort.mp (List.mem_of_getLast? last)
  rw [precedence_le (wellFormed version isVersion) (wellFormed latest isLatest)]
  have sorted := pairwise_sort wellFormed
  rw [← mem_sort] at isVersion
  rcases List.getLast?_eq_some_iff.mp last with ⟨init, whole⟩
  rw [whole] at sorted isVersion
  rcases List.mem_append.mp isVersion with isInit | isLast
  · exact (List.pairwise_append.mp sorted).2.2 version isInit latest
      (List.mem_singleton_self latest)
  · rw [List.mem_singleton.mp isLast]

end Sorting

/-! ## The next version -/

/-- A release: it has neither a pre-release nor metadata, and its numbers fit. -/
structure IsRelease (version : Version) : Prop where
  preRelease : version.preRelease = []
  metadata : version.metadata = ""
  wellFormed : version.WellFormed

theorem isRelease_initial : initial.IsRelease :=
  ⟨rfl, rfl, by decide, by decide, by decide, nofun⟩

section Next

variable {version : Version}

theorem isRelease_nextPatch (wellFormed : version.WellFormed) :
    version.nextPatch.IsRelease where
  preRelease := rfl
  metadata := rfl
  wellFormed :=
    { major := wellFormed.major
      minor := wellFormed.minor
      patch := by
        show (if version.preRelease.isEmpty then (version.patch + 1) % limit else version.patch) <
          limit
        split
        · exact Nat.mod_lt _ (by decide)
        · exact wellFormed.patch
      preRelease := nofun }

/-- A pre-release comes before its release, and a release before the next patch. -/
theorem precedence_nextPatch (room : version.patch + 1 < limit) :
    precedence version version.nextPatch = .lt := by
  cases given : version.preRelease with
  | nil => simp [precedence, nextPatch, given, Nat.mod_eq_of_lt room, Nat.compare_eq_lt.mpr]
  | cons identifier rest => simp [precedence, nextPatch, given]

end Next

/-! ## Reading -/

section Reading

variable {version : Version}
variable {rest : List Char} {value : Nat}

theorem fits_of_number? {digits : List Char} (read : number? digits = some value) : value < limit :=
  (number?_eq_some.mp read).2.2.2

theorem fits_of_readPart {chars : List Char} (read : readPart chars = some (value, rest)) :
    value < limit := by
  unfold readPart at read
  split at read
  · split at read
    · cases read
    · rcases Option.map_eq_some_iff.mp read with ⟨number, isNumber, same⟩
      cases same
      exact fits_of_number? isNumber
  · cases read
    decide

/-- Identifiers for a pre-release are given behind a dash, or there are none. -/
theorem readPreRelease_eq_some {chars : List Char} {identifiers : List String}
    (read : readPreRelease chars = some (identifiers, rest)) :
    identifiers = [] ∨ (∃ given, identifiers? given = some identifiers) ∧ Plain identifiers := by
  unfold readPreRelease at read
  split at read
  · simp only at read
    rcases Option.bind_eq_some_iff.mp read with ⟨found, areFound, read⟩
    split at read
    · next plain =>
        cases read
        exact .inr ⟨⟨_, areFound⟩, List.all_eq_true.mp plain⟩
    · cases read
  · cases read
    exact .inl rfl

/-- What the parts of a version are read from. -/
theorem parse?_eq_some {text : String} (read : parse? text = some version) :
    (∃ digits, number? digits = some version.major) ∧
      (∃ chars rest, readPart chars = some (version.minor, rest)) ∧
      (∃ chars rest, readPart chars = some (version.patch, rest)) ∧
      ∃ chars rest, readPreRelease chars = some (version.preRelease, rest) ∧
        readMetadata rest = some version.metadata := by
  unfold parse? at read
  simp only [Option.bind_eq_bind] at read
  rcases Option.bind_eq_some_iff.mp read with ⟨major, isMajor, read⟩
  rcases Option.bind_eq_some_iff.mp read with ⟨⟨minor, afterMinor⟩, isMinor, read⟩
  rcases Option.bind_eq_some_iff.mp read with ⟨⟨patch, afterPatch⟩, isPatch, read⟩
  rcases Option.bind_eq_some_iff.mp read with ⟨⟨preRelease, rest⟩, isPreRelease, read⟩
  rcases Option.bind_eq_some_iff.mp read with ⟨metadata, isMetadata, read⟩
  cases read
  exact ⟨⟨_, isMajor⟩, ⟨_, _, isMinor⟩, ⟨_, _, isPatch⟩, _, _, isPreRelease, isMetadata⟩

theorem wellFormed_of_parse? {text : String} (read : parse? text = some version) :
    version.WellFormed := by
  rcases parse?_eq_some read with
    ⟨⟨_, isMajor⟩, ⟨_, _, isMinor⟩, ⟨_, _, isPatch⟩, _, _, isPreRelease, -⟩
  refine ⟨fits_of_number? isMajor, fits_of_readPart isMinor, fits_of_readPart isPatch, ?_⟩
  rcases readPreRelease_eq_some isPreRelease with none | ⟨-, plain⟩
  · rw [none]
    nofun
  · exact plain

theorem toList_text (isRelease : version.IsRelease) :
    version.text.toList = Nat.toDigits 10 version.major ++ '.' ::
      (Nat.toDigits 10 version.minor ++ '.' :: Nat.toDigits 10 version.patch) := by
  simp [text, isRelease.preRelease, isRelease.metadata, toString]

theorem span_toDigits (value : Nat) (ends : ∀ c ∈ rest.head?, c.isDigit = false) :
    (Nat.toDigits 10 value ++ rest).span Char.isDigit = (Nat.toDigits 10 value, rest) := by
  apply Json.spanDigits_of_digits _ ends
  intro c isDigit
  exact Nat.isDigit_of_mem_toDigits (by decide) (by decide) isDigit

theorem readPart_toDigits (fits : value < limit) (ends : ∀ c ∈ rest.head?, c.isDigit = false) :
    readPart ('.' :: (Nat.toDigits 10 value ++ rest)) = some (value, rest) := by
  rw [readPart, span_toDigits value ends]
  cases digits : Nat.toDigits 10 value with
  | nil => exact absurd digits Nat.toDigits_ne_nil
  | cons c others =>
    rw [← digits]
    simp [number?_toDigits fits]

/-- A text that starts with a digit has no leading letter to leave out. -/
theorem parse?_of_digits {text : String} (chars : text.toList = Nat.toDigits 10 value ++ rest)
    (ends : ∀ c ∈ rest.head?, c.isDigit = false) (fits : value < limit) :
    parse? text = do
      let (minor, rest) ← readPart rest
      let (patch, rest) ← readPart rest
      let (preRelease, rest) ← readPreRelease rest
      let metadata ← readMetadata rest
      return { major := value, minor, patch, preRelease, metadata, original := text } := by
  unfold parse?
  split
  · next after same =>
      have isDigit : Char.isDigit 'v' = true := by
        cases digits : Nat.toDigits 10 value with
        | nil => exact absurd digits Nat.toDigits_ne_nil
        | cons c others =>
          rw [chars, digits, List.cons_append, List.cons.injEq] at same
          rw [← same.1]
          exact Nat.isDigit_of_mem_toDigits (b := 10) (n := value) (by decide) (by decide)
            (by simp [digits])
      cases isDigit
  · rw [chars]
    simp only [span_toDigits value ends, number?_toDigits fits]
    rfl

theorem parse?_text (isRelease : version.IsRelease) :
    ∃ read, parse? version.text = some read ∧ precedence read version = .eq := by
  rcases isRelease.wellFormed with ⟨major, minor, patch, -⟩
  have dotted (rest : List Char) : ∀ c ∈ ('.' :: rest).head?, c.isDigit = false := by
    rintro c ⟨⟩
    rfl
  have ends : ∀ c ∈ ([] : List Char).head?, c.isDigit = false := nofun
  have last := readPart_toDigits patch ends
  rw [List.append_nil] at last
  refine ⟨{ version with original := version.text }, ?_, ?_⟩
  · rw [parse?_of_digits (toList_text isRelease) (dotted _) major,
      readPart_toDigits minor (dotted _)]
    simp only [Option.bind_eq_bind, Option.bind_some, last]
    rw [isRelease.preRelease, isRelease.metadata]
    rfl
  · simp [precedence, isRelease.preRelease]

end Reading

end ShapeForge.Version
