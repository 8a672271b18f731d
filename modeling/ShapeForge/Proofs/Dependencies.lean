import ShapeForge.Proofs.Naming.Lines
import ShapeForge.Proofs.Publishing.Versions
import ShapeForge.Proofs.Uses

/-!
# Tables of dependencies

A table of dependencies is declared by a source.  Versions that were read are set in it, for the
namespaces of other models and for those that it lists.  So its namespaces and versions stand on
one line, whatever the source says.
-/

namespace ShapeForge

open Text (OneLine)

/-! ## Namespaces -/

theorem ShapeId.oneLine_nameSpace {id : ShapeId} (oneLine : OneLine id.text) :
    OneLine id.nameSpace := by
  unfold nameSpace
  split
  · next before after cut =>
      rcases Text.cutAt_eq_some.mp cut with ⟨chars, -⟩
      unfold OneLine at *
      rw [chars, List.mem_append, not_or] at oneLine
      exact oneLine.1
  · exact oneLine

theorem Model.Obtained.oneLine_of_namespaces {model : Model} {space : String}
    (obtained : model.Obtained) (isSpace : space ∈ model.namespaces) :
    OneLine space := by
  rcases Model.mem_namespaces.mp isSpace with ⟨shape, isShape, rfl⟩
  exact ShapeId.oneLine_nameSpace (obtained.wellPlaced shape isShape).wellFormed.oneLine

namespace Use

/-- What a directive imports is written with letters, digits, underscores and dots. -/
theorem oneLine_of_ofSource {source : String} :
    ∀ directive ∈ ofSource source, OneLine directive.id.text := by
  intro directive isDirective
  rcases mem_ofSource.mp isDirective with
    ⟨line, -, gap, space, name, -, -, -, isSpace, isWord, isId⟩
  have ofSpace : OneLine space :=
    not_mem_of_isName (isName_iff.mpr isSpace) (by decide) (by decide)
  rw [isId]
  exact (ofSpace.append (by decide)).append
    (oneLine_of_isIdentifier (ShapeId.isIdentifier_iff.mpr isWord))

end Use

/-! ## Versions -/

namespace Version

theorem oneLine_of_identifierChars {chars : List Char}
    (kept : ∀ c ∈ chars, isIdentifierChar c = true ∨ c = '.') :
    OneLine (String.ofList chars) := by
  intro isBreak
  rw [String.toList_ofList] at isBreak
  exact absurd (kept _ isBreak) (by decide)

theorem identifierChars_of_identifiers? {chars : List Char} {identifiers : List String}
    (read : identifiers? chars = some identifiers) :
    (∀ c ∈ chars, isIdentifierChar c = true ∨ c = '.') ∧
      ∀ identifier ∈ identifiers, OneLine identifier := by
  unfold identifiers? at read
  extract_lets parts at read
  split at read
  · next allowed =>
      cases read
      have inside : ∀ part ∈ parts, ∀ c ∈ part, isIdentifierChar c = true := by
        intro part isPart
        have given := List.all_eq_true.mp allowed part isPart
        rw [Bool.and_eq_true] at given
        exact List.all_eq_true.mp given.2
      constructor
      · intro c isChar
        rcases Text.mem_splitWhere (· == '.') isChar with isDot | ⟨part, isPart, isIn⟩
        · exact Or.inr (beq_iff_eq.mp isDot)
        · exact Or.inl (inside part isPart c isIn)
      · intro identifier isIdentifier
        rcases List.mem_map.mp isIdentifier with ⟨part, isPart, rfl⟩
        exact oneLine_of_identifierChars fun c isChar => Or.inl (inside part isPart c isChar)
  · cases read

theorem oneLine_of_readMetadata {chars : List Char} {metadata : String}
    (read : readMetadata chars = some metadata) :
    OneLine metadata := by
  unfold readMetadata at read
  split at read
  · cases read
    decide
  · rcases Option.map_eq_some_iff.mp read with ⟨found, areFound, rfl⟩
    exact oneLine_of_identifierChars (identifierChars_of_identifiers? areFound).1
  · cases read

theorem oneLine_text_of_parse? {text : String} {version : Version}
    (read : parse? text = some version) :
    OneLine version.text := by
  rcases parse?_eq_some read with ⟨-, -, -, _, rest, isPreRelease, isMetadata⟩
  have number (value : Nat) : OneLine (toString value) := by
    intro isBreak
    rw [Json.toList_toString_nat] at isBreak
    exact absurd (Json.isDigit_of_mem_toDigits _ isBreak) (by decide)
  have oneLine : ∀ identifier ∈ version.preRelease, OneLine identifier := by
    rcases readPreRelease_eq_some isPreRelease with none | ⟨⟨given, areRead⟩, -⟩
    · simp [none]
    · exact (identifierChars_of_identifiers? areRead).2
  have names := Text.oneLine_intercalate (show OneLine "." by decide) oneLine
  have behind := oneLine_of_readMetadata isMetadata
  unfold Version.text
  refine OneLine.append (OneLine.append ?_ (oneLine_ite (by decide) ?_))
    (oneLine_ite (by decide) ?_)
  · exact ((((number _).append (by decide)).append (number _)).append (by decide)).append (number _)
  · exact OneLine.append (by decide) names
  · exact OneLine.append (by decide) behind

end Version

/-! ## Tables -/

namespace Dependencies

/-- The tables that there are: one that a source declares, and one where a version that was read
is set for a namespace of a model or of the table. -/
inductive Obtained : Dependencies → Prop where
  | declared (source : String) (own : List String) :
      Obtained (ofUses (Use.ofSource source) own)
  | merged
      {table : Dependencies} {model : Model} {space : String} {version : Option Version}
      (base : Obtained table) (obtained : model.Obtained) (isSpace : space ∈ model.namespaces)
      (isRead : ∀ given ∈ version, ∃ text, Version.parse? text = some given) :
      Obtained (table.set space version)
  | resolved
      {table : Dependencies} {space text : String} {version : Version}
      (base : Obtained table) (isSpace : space ∈ table.namespaces)
      (isRead : Version.parse? text = some version) :
      Obtained (table.set space (some version))

/-- Namespaces and versions stand on one line. -/
def Lined (table : Dependencies) : Prop :=
  ∀ entry ∈ table.entries, OneLine entry.1 ∧ ∀ version ∈ entry.2, OneLine version.text

theorem mem_insert
    {space : String} {version : Option Version} {entries : List (String × Option Version)}
    {entry : String × Option Version} (isEntry : entry ∈ insert space version entries) :
    entry = (space, version) ∨ entry ∈ entries := by
  induction entries with
  | nil => exact Or.inl (List.mem_singleton.mp isEntry)
  | cons first rest ih =>
    rw [insert] at isEntry
    grind

theorem Lined.set {table : Dependencies} {space : String} {version : Option Version}
    (lined : table.Lined) (oneLine : OneLine space)
    (ofVersion : ∀ given ∈ version, OneLine given.text) :
    (table.set space version).Lined := by
  intro entry isEntry
  rcases mem_insert isEntry with rfl | isOld
  · exact ⟨oneLine, ofVersion⟩
  · exact lined entry isOld

theorem lined_ofUses {uses : List Use}
    (oneLine : ∀ directive ∈ uses, OneLine directive.id.text) (own : List String) :
    (ofUses uses own).Lined := by
  have spaces (names : List String) (ofNames : ∀ name ∈ names, OneLine name)
      (table : Dependencies) (lined : table.Lined) :
      (names.foldl (fun table space =>
        if space == ShapeId.preludeSpace || own.contains space then table
        else table.set space none) table).Lined := by
    induction names generalizing table with
    | nil => exact lined
    | cons name rest ih =>
      rcases List.forall_mem_cons.mp ofNames with ⟨ofName, ofRest⟩
      apply ih ofRest
      dsimp only
      split
      · exact lined
      · exact lined.set ofName nofun
  refine spaces _ ?_ {} nofun
  intro name isName
  rcases List.mem_map.mp isName with ⟨directive, isDirective, rfl⟩
  exact ShapeId.oneLine_nameSpace (oneLine directive isDirective)

theorem Obtained.lined {table : Dependencies} (obtained : table.Obtained) : table.Lined := by
  induction obtained with
  | declared source own => exact lined_ofUses Use.oneLine_of_ofSource own
  | merged base obtained isSpace isRead ih =>
    refine ih.set (obtained.oneLine_of_namespaces isSpace) ?_
    intro given isGiven
    rcases isRead given isGiven with ⟨text, read⟩
    exact Version.oneLine_text_of_parse? read
  | resolved base isSpace isRead ih =>
    rcases List.mem_map.mp isSpace with ⟨entry, isEntry, rfl⟩
    refine ih.set (ih entry isEntry).1 ?_
    rintro given ⟨⟩
    exact Version.oneLine_text_of_parse? isRead

end Dependencies

end ShapeForge
