import ShapeForge.Emit.Plan
import ShapeForge.Proofs.Model.Obtained
import ShapeForge.Proofs.Naming.Exported

/-!
# Names on one line

The identifier of a shape, the name that is declared for it and the alias of a package all stand on
one line.
-/

namespace ShapeForge

open Text (OneLine)

theorem oneLine_ite {condition : Prop} [Decidable condition] {first second : String}
    (oneLine : OneLine first) (also : OneLine second) :
    OneLine (if condition then first else second) := by
  split
  · exact oneLine
  · exact also

theorem oneLine_of_isIdentifier {text : String} (isIdentifier : ShapeId.isIdentifier text = true) :
    OneLine text :=
  Naming.not_mem_of_isIdentifier isIdentifier (by decide)

theorem oneLine_of_split {space : String}
    (parts : (Text.split '.' space).all ShapeId.isIdentifier = true) :
    OneLine space :=
  Naming.not_mem_of_split parts (by decide) (by decide)

theorem oneLine_of_cutAt {separator : Char} {text before after : String}
    (cut : Text.cutAt separator text = some (before, after)) (noBreak : '\n' ≠ separator)
    (oneLine : OneLine before) (also : OneLine after) :
    OneLine text := by
  rcases Text.cutAt_eq_some.mp cut with ⟨chars, -⟩
  unfold OneLine at *
  rw [chars, List.mem_append, List.mem_cons]
  exact not_or.mpr ⟨oneLine, not_or.mpr ⟨noBreak, also⟩⟩

theorem oneLine_of_nameAndMember {rest : String}
    (isName : ShapeId.isIdentifier (ShapeId.nameAndMember rest).1 = true)
    (isMember : (ShapeId.nameAndMember rest).2.all ShapeId.isIdentifier = true) :
    OneLine rest := by
  unfold ShapeId.nameAndMember at isName isMember
  cases cut : Text.cutAt '$' rest with
  | none =>
    rw [cut] at isName
    exact oneLine_of_isIdentifier isName
  | some parts =>
    rw [cut] at isName isMember
    exact oneLine_of_cutAt cut (by decide) (oneLine_of_isIdentifier isName)
      (oneLine_of_isIdentifier isMember)

theorem ShapeId.WellFormed.oneLine {id : ShapeId} (wellFormed : id.WellFormed) :
    OneLine id.text := by
  rcases wellFormed.cut with ⟨space, rest, cut, isSpace, isName, isMember⟩
  exact oneLine_of_cutAt cut (by decide) (oneLine_of_split isSpace)
    (oneLine_of_nameAndMember isName isMember)

namespace Naming

variable {c : Char} {text : String}

theorem mem_titleFrom {inside : Bool} {chars : List Char}
    (isChar : c ∈ Text.titleFrom inside chars) :
    ∃ d ∈ chars, c = d ∨ c ∈ Text.toTitle d := by
  induction chars generalizing inside with
  | nil => cases isChar
  | cons first rest ih =>
    rw [Text.titleFrom] at isChar
    split at isChar
    · rcases List.mem_append.mp isChar with isFirst | isRest
      · refine ⟨first, List.mem_cons_self, ?_⟩
        split at isFirst
        · exact Or.inl (List.mem_singleton.mp isFirst)
        · exact Or.inr isFirst
      · rcases ih isRest with ⟨d, isIn, found⟩
        exact ⟨d, List.mem_cons_of_mem first isIn, found⟩
    · rcases List.mem_cons.mp isChar with rfl | isRest
      · exact ⟨c, List.mem_cons_self, Or.inl rfl⟩
      · rcases ih isRest with ⟨d, isIn, found⟩
        exact ⟨d, List.mem_cons_of_mem first isIn, found⟩

/-- A name in pascal case has only characters that word characters become. -/
theorem mem_pascal (isIn : c ∈ (pascal text).toList) :
    ∃ d ∈ text.toList, Text.isWordChar d = true ∧ (c = d ∨ c ∈ Text.toTitle d) := by
  rw [toList_pascal] at isIn
  rcases List.mem_flatMap.mp isIn with ⟨word, isWord, isChar⟩
  rcases mem_titleFrom isChar with ⟨d, isIn, made⟩
  have isPiece := (List.mem_filter.mp isWord).1
  have isWordChar : Text.isWordChar d = true := by
    simpa using Text.not_cut_of_splitWhere isPiece isIn
  exact ⟨d, Text.mem_of_splitWhere isPiece isIn, isWordChar, made⟩

theorem not_mem_pascal (ascii : ∀ d ∈ text.toList, d.toNat < 128)
    (unmade : ∀ code : Fin 128, Text.isWordChar (Char.ofNat code) = true →
      c ≠ Char.ofNat code ∧ c ∉ Text.toTitle (Char.ofNat code)) :
    c ∉ (pascal text).toList := by
  intro isIn
  rcases mem_pascal isIn with ⟨d, isIn, isWordChar, made⟩
  have kept := forall_ascii
    (fun d => Text.isWordChar d = true → c ≠ d ∧ c ∉ Text.toTitle d)
    unmade (ascii d isIn) isWordChar
  exact made.elim kept.1 kept.2

theorem oneLine_pascal (ascii : ∀ c ∈ text.toList, c.toNat < 128) : OneLine (pascal text) :=
  not_mem_pascal ascii (by decide)

theorem mem_escapeReserved {name : String} (isChar : c ∈ (escapeReserved name).toList) :
    c ∈ name.toList ∨ c = '_' := by
  unfold escapeReserved at isChar
  split at isChar
  · rw [String.toList_append, List.mem_append] at isChar
    exact isChar.imp_right List.mem_singleton.mp
  · exact Or.inl isChar

/-- A type is named with the characters of its name in pascal case, and a few more. -/
theorem mem_typeName (isChar : c ∈ (typeName text).toList) :
    c ∈ (pascal text).toList ∨ c ∈ "Type_".toList := by
  unfold typeName at isChar
  dsimp only at isChar
  split at isChar
  · exact Or.inr (List.mem_append_left ['_'] isChar)
  · rcases mem_escapeReserved isChar with isIn | rfl
    · split at isIn
      · exact Or.inl isIn
      · rw [String.toList_append, List.mem_append] at isIn
        exact isIn.symm.imp_right (List.mem_append_left ['y', 'p', 'e', '_'])
    · exact Or.inr (by decide)

theorem oneLine_declName {id : ShapeId} (isName : ShapeId.isIdentifier id.name = true) :
    OneLine (declName id) := by
  have type : OneLine (typeName id.name) := fun isBreak =>
    (mem_typeName isBreak).elim (oneLine_pascal (ascii_of_isIdentifier isName)) (by decide)
  unfold declName
  extract_lets name
  exact oneLine_ite (type.append (by decide)) type

theorem oneLine_wordChars (chars : List Char) :
    OneLine (String.ofList (chars.filter Text.isWordChar)) := by
  intro isBreak
  rw [String.toList_ofList] at isBreak
  have isWordChar := (List.mem_filter.mp isBreak).2
  revert isWordChar
  decide

theorem oneLine_packageName (space : String) : OneLine (packageName space) := by
  unfold packageName
  extract_lets last word started
  have ofWord : OneLine word := oneLine_wordChars _
  clear_value word
  have ofStarted : OneLine started :=
    oneLine_ite ofWord (OneLine.append (by decide) ofWord)
  clear_value started
  exact oneLine_ite (ofStarted.append (by decide)) ofStarted

end Naming

/-! ## Aliases -/

namespace Emit

variable {modulePath : String} {overrides : List (String × String)} {spaces : List String}

theorem planOne_of_mem {taken : List String} {plan : PackagePlan}
    (isPlan : plan ∈ planFrom modulePath overrides taken spaces) :
    ∃ before, ∃ space ∈ spaces, plan = planOne modulePath overrides before space := by
  induction spaces generalizing taken with
  | nil => cases isPlan
  | cons space rest ih =>
    rcases List.mem_cons.mp isPlan with rfl | isRest
    · exact ⟨taken, space, List.mem_cons_self, rfl⟩
    · rcases ih isRest with ⟨before, other, isOther, same⟩
      exact ⟨before, other, List.mem_cons_of_mem _ isOther, same⟩

theorem oneLine_shortName {taken : List String} {plan : PackagePlan}
    (isPlan : plan ∈ planFrom modulePath overrides taken spaces) :
    OneLine plan.shortName := by
  rcases planOne_of_mem isPlan with ⟨before, space, -, rfl⟩
  unfold planOne
  cases override? overrides space with
  | none | some =>
    dsimp only
    exact oneLine_ite (Naming.oneLine_packageName _) (Naming.oneLine_packageName _)

theorem oneLine_packageOf {plans : List PackagePlan}
    (planned : plans = planPackages modulePath overrides spaces) (module space : String) :
    OneLine (packageOf module plans space).1 := by
  unfold packageOf
  cases found : planOf? plans space with
  | none =>
    dsimp only
    exact Naming.oneLine_packageName space
  | some plan =>
    rw [planned] at found
    have isPlan : plan ∈ planFrom modulePath overrides [] spaces :=
      List.mem_reverse.mp (List.mem_of_find?_eq_some found)
    exact oneLine_shortName isPlan

end Emit

end ShapeForge
