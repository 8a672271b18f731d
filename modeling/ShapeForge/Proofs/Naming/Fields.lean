import Mathlib.Data.List.Nodup
import Mathlib.Data.List.Perm.Subperm
import ShapeForge.Proofs.Naming.Lines

/-!
# The names of fields and methods

The field of a member is never named like a method of its structure.  A member whose name a method
takes gets another one, which no other member has; so two members have the same field exactly if
their names become the same exported name.  Exported names are the same exactly if the words that
they are made of are.
-/

namespace ShapeForge.Naming

/-! ## Extended names -/

/-- The names that a name is extended to. -/
def extension (name : String) (count : Nat) : String :=
  name ++ String.ofList (List.replicate count '_')

theorem extension_zero (name : String) : extension name 0 = name := by
  simp [extension]

theorem extension_succ (name : String) (count : Nat) :
    extension (name ++ "_") count = extension name (count + 1) := by
  rw [extension, extension, List.replicate_succ, ← String.toList_inj]
  simp

theorem extension_injective (name : String) : Function.Injective (extension name) := by
  intro first second same
  have lengths := congrArg (·.toList.length) same
  simpa [extension] using lengths

/-- Extending ends at the first name that is free, or after as many steps as there may be. -/
theorem extendName_eq (taken : String → Bool) (fuel : Nat) (name : String) :
    ∃ count, extendName taken fuel name = extension name count ∧
      (∀ below < count, taken (extension name below) = true) ∧
      (taken (extension name count) = false ∨ count = fuel) := by
  induction fuel generalizing name with
  | zero => exact ⟨0, (extension_zero name).symm, by simp, Or.inr rfl⟩
  | succ fuel ih =>
    rw [extendName]
    split
    case isTrue isTaken =>
      rcases ih (name ++ "_") with ⟨count, extended, before, stopped⟩
      refine ⟨count + 1, ?_, ?_, ?_⟩
      · rw [extended, extension_succ]
      · intro below isBelow
        cases below with
        | zero => rwa [extension_zero]
        | succ below =>
          rw [← extension_succ]
          exact before below (Nat.lt_of_succ_lt_succ isBelow)
      · rw [← extension_succ]
        exact stopped.imp_right (congrArg (· + 1))
    case isFalse isFree =>
      refine ⟨0, (extension_zero name).symm, by simp, Or.inl ?_⟩
      rw [extension_zero]
      exact eq_false_of_ne_true isFree

theorem extendName_congr {taken other : String → Bool} {name : String}
    (same : ∀ more, taken (name ++ more) = other (name ++ more)) (fuel : Nat) :
    extendName taken fuel name = extendName other fuel name := by
  induction fuel generalizing name with
  | zero => rfl
  | succ fuel ih =>
    have now := same ""
    rw [String.append_empty] at now
    rw [extendName, extendName, now, ih]
    intro more
    rw [String.append_assoc]
    exact same _

/-! ## Fields -/

/-- Whether a member of a structure has an exported name. -/
def isExportedBy (shape : Shape) (name : String) : Bool :=
  shape.members.any fun member => fieldName member.name == name

/-- The field for the members of a structure that have an exported name. -/
def fieldFor (shape : Shape) (name : String) : String :=
  if (structMethods shape).contains name then
    extendName (isExportedBy shape) shape.members.length (name ++ "Field")
  else name

section Structure

variable {shape : Shape}
variable {name : String}

theorem isExportedBy_iff :
    isExportedBy shape name = true ↔
      name ∈ shape.members.map fun member => fieldName member.name := by
  simp [isExportedBy]

/-- Leaving a member out makes no difference for other names than its own. -/
theorem fieldTaken_eq {member : Member} (differs : name ≠ fieldName member.name) :
    fieldTaken shape member name = isExportedBy shape name := by
  unfold fieldTaken isExportedBy
  congr 1
  funext other
  by_cases same : other.name = member.name
  · have apart : (fieldName member.name == name) = false := by
      simpa using differs.symm
    rw [same, apart, Bool.and_false]
  · have apart : (other.name != member.name) = true := by
      simpa using same
    rw [apart, Bool.true_and]

theorem suffixed_ne (name more : String) : name ++ "Field" ++ more ≠ name := by
  intro same
  have lengths := congrArg (·.toList.length) same
  simp at lengths

theorem memberField_eq (shape : Shape) (member : Member) :
    memberField shape member = fieldFor shape (fieldName member.name) := by
  have same (more : String) :
      fieldTaken shape member (fieldName member.name ++ "Field" ++ more) =
        isExportedBy shape (fieldName member.name ++ "Field" ++ more) :=
    fieldTaken_eq (suffixed_ne (fieldName member.name) more)
  have extended := extendName_congr same shape.members.length
  simp only [memberField, fieldFor, extended]

/-- The name itself and the extensions that are taken are different names of members. -/
theorem count_lt_of_taken {count : Nat}
    (isOwn : name ∈ shape.members.map fun member => fieldName member.name)
    (taken : ∀ below < count, isExportedBy shape (extension (name ++ "Field") below) = true) :
    count < shape.members.length := by
  have distinct : (name :: (List.range count).map (extension (name ++ "Field"))).Nodup := by
    refine List.nodup_cons.mpr ⟨?_, List.nodup_range.map (extension_injective _)⟩
    intro isExtension
    rcases List.mem_map.mp isExtension with ⟨below, -, same⟩
    exact suffixed_ne name _ same
  have contained : name :: (List.range count).map (extension (name ++ "Field")) ⊆
      shape.members.map fun member => fieldName member.name := by
    refine List.cons_subset.mpr ⟨isOwn, ?_⟩
    intro other isExtension
    rcases List.mem_map.mp isExtension with ⟨below, isBelow, rfl⟩
    exact isExportedBy_iff.mp (taken below (List.mem_range.mp isBelow))
  have bound := (distinct.subperm contained).length_le
  simp only [List.length_cons, List.length_map, List.length_range] at bound
  exact bound

/-- Extending a name ends at the first extension that no member has. -/
theorem fieldFor_of_method (isMethod : name ∈ structMethods shape)
    (isOwn : name ∈ shape.members.map fun member => fieldName member.name) :
    ∃ count < shape.members.length, fieldFor shape name = extension (name ++ "Field") count ∧
      (∀ below < count, isExportedBy shape (extension (name ++ "Field") below) = true) ∧
      isExportedBy shape (fieldFor shape name) = false := by
  rw [fieldFor, if_pos (List.contains_iff_mem.mpr isMethod)]
  rcases extendName_eq (isExportedBy shape) shape.members.length (name ++ "Field") with
    ⟨count, extended, before, stopped⟩
  have early : count < shape.members.length := count_lt_of_taken isOwn before
  rw [extended]
  exact ⟨count, early, rfl, before, stopped.resolve_right (Nat.ne_of_lt early)⟩

theorem extension_suffix_inj {first second : String} {count other : Nat}
    (same : extension (first ++ "Field") count = extension (second ++ "Field") other) :
    first = second := by
  -- Without the underscores at its end, an extension is the name with its suffix.
  have stripped (name : String) (count : Nat) :
      (extension (name ++ "Field") count).toList.reverse.dropWhile (· == '_') =
        "Field".toList.reverse ++ name.toList.reverse := by
    have underscores : ∀ c ∈ List.replicate count '_', (c == '_') = true := by
      intro c isIn
      rw [List.eq_of_mem_replicate isIn]
      rfl
    rw [extension, String.toList_append, String.toList_append, List.reverse_append,
      String.toList_ofList, List.reverse_replicate, List.dropWhile_append_of_pos underscores,
      List.reverse_append]
    rfl
  have reversed := congrArg (·.toList.reverse.dropWhile (· == '_')) same
  simp only [stripped] at reversed
  rw [← String.toList_inj]
  exact List.reverse_injective (List.append_cancel_left reversed)

theorem fieldFor_injOn {first second : String}
    (isFirst : first ∈ shape.members.map fun member => fieldName member.name)
    (isSecond : second ∈ shape.members.map fun member => fieldName member.name)
    (same : fieldFor shape first = fieldFor shape second) :
    first = second := by
  have plain {name : String} (noMethod : name ∉ structMethods shape) :
      fieldFor shape name = name := by
    rw [fieldFor, if_neg (mt List.contains_iff_mem.mp noMethod)]
  -- A field that was renamed is not the plain field of another member.
  have apart {renamed other : String} (isMethod : renamed ∈ structMethods shape)
      (isRenamed : renamed ∈ shape.members.map fun member => fieldName member.name)
      (isOther : other ∈ shape.members.map fun member => fieldName member.name) :
      fieldFor shape renamed ≠ other := by
    rintro rfl
    rcases fieldFor_of_method isMethod isRenamed with ⟨-, -, -, -, isFree⟩
    rw [isExportedBy_iff.mpr isOther] at isFree
    cases isFree
  by_cases firstMethod : first ∈ structMethods shape
  · by_cases secondMethod : second ∈ structMethods shape
    · rcases fieldFor_of_method firstMethod isFirst with ⟨count, -, extended, -⟩
      rcases fieldFor_of_method secondMethod isSecond with ⟨other, -, alsoExtended, -⟩
      rw [extended, alsoExtended] at same
      exact extension_suffix_inj same
    · rw [plain secondMethod] at same
      exact absurd same (apart firstMethod isFirst isSecond)
  · by_cases secondMethod : second ∈ structMethods shape
    · rw [plain firstMethod] at same
      exact absurd same.symm (apart secondMethod isSecond isFirst)
    · rwa [plain firstMethod, plain secondMethod] at same

/-- Renaming keeps two fields apart exactly if they were apart before. -/
theorem nodup_memberField_iff (shape : Shape) :
    (shape.members.map (memberField shape)).Nodup ↔
      (shape.members.map fun member => fieldName member.name).Nodup := by
  have fields : shape.members.map (memberField shape) =
      (shape.members.map fun member => fieldName member.name).map (fieldFor shape) := by
    rw [List.map_map]
    exact List.map_congr_left fun member _ => memberField_eq shape member
  rw [fields]
  refine ⟨List.Nodup.of_map _, fun distinct => distinct.map_on ?_⟩
  intro first isFirst second isSecond
  exact fieldFor_injOn isFirst isSecond

theorem extension_suffix_not_mem (isMethod : name ∈ structMethods shape) (count : Nat) :
    extension (name ++ "Field") count ∉ structMethods shape := by
  have allMethods : structMethods shape ⊆ ["Validate", "Error", "ErrorFault", "HTTPStatus"] := by
    unfold structMethods
    split <;> simp
  intro again
  have isName := allMethods isMethod
  have isAgain := allMethods again
  simp only [List.mem_cons, List.not_mem_nil, or_false, ← String.toList_inj, extension,
    String.toList_append, String.toList_ofList] at isName isAgain
  rcases isName with chars | chars | chars | chars <;> simp [chars] at isAgain

theorem memberField_not_mem {member : Member} (isMember : member ∈ shape.members) :
    memberField shape member ∉ structMethods shape := by
  have isOwn : fieldName member.name ∈ shape.members.map fun member => fieldName member.name :=
    List.mem_map_of_mem isMember
  rw [memberField_eq]
  by_cases isMethod : fieldName member.name ∈ structMethods shape
  · rcases fieldFor_of_method isMethod isOwn with ⟨count, -, extended, -⟩
    rw [extended]
    exact extension_suffix_not_mem isMethod count
  · rwa [fieldFor, if_neg (mt List.contains_iff_mem.mp isMethod)]

/-- A field is renamed only if a method has its name.  The search for its name ends, at the first
extension that is free; the name that is found is that of no method, and members that are exported
under different names keep different fields. -/
theorem fields_renamed (shape : Shape) {member : Member} (isMember : member ∈ shape.members) :
    (fieldName member.name ∉ structMethods shape →
        memberField shape member = fieldName member.name) ∧
      (fieldName member.name ∈ structMethods shape →
        ∃ count < shape.members.length,
          memberField shape member = extension (fieldName member.name ++ "Field") count ∧
            (∀ below < count, fieldTaken shape member
              (extension (fieldName member.name ++ "Field") below) = true) ∧
            fieldTaken shape member (memberField shape member) = false) ∧
      memberField shape member ∉ structMethods shape ∧
      ∀ other ∈ shape.members, fieldName member.name ≠ fieldName other.name →
        memberField shape member ≠ memberField shape other := by
  have isOwn {member : Member} (isMember : member ∈ shape.members) :
      fieldName member.name ∈ shape.members.map fun member => fieldName member.name :=
    List.mem_map_of_mem isMember
  have taken (count : Nat) :
      fieldTaken shape member (extension (fieldName member.name ++ "Field") count) =
        isExportedBy shape (extension (fieldName member.name ++ "Field") count) :=
    fieldTaken_eq (suffixed_ne _ _)
  refine ⟨fun noMethod => ?_, fun isMethod => ?_, memberField_not_mem isMember, ?_⟩
  · rw [memberField_eq, fieldFor, if_neg (mt List.contains_iff_mem.mp noMethod)]
  · rcases fieldFor_of_method isMethod (isOwn isMember) with
      ⟨count, early, extended, before, isFree⟩
    rw [extended] at isFree
    rw [memberField_eq, extended]
    exact ⟨count, early, rfl, fun below isBelow => (taken below).trans (before below isBelow),
      (taken count).trans isFree⟩
  · intro other isOther differ same
    rw [memberField_eq, memberField_eq] at same
    exact differ (fieldFor_injOn (isOwn isMember) (isOwn isOther) same)

/-- An alarm with members that are named like its methods, and like the fields that these get. -/
def alarm : Shape where
  id := ⟨"watch#Alarm"⟩
  traits := [⟨Trait.error, "\"server\""⟩]
  body := .structure (["validate", "validateField", "error"].map fun name =>
    { name, container := ⟨"watch#Alarm"⟩, target := .prelude "String" })

theorem fields_renamed_alarm :
    alarm.members.map (fieldName ·.name) = ["Validate", "ValidateField", "Error"] ∧
      alarm.members.map (memberField alarm) = ["ValidateField_", "ValidateField", "ErrorField"] ∧
      ∀ member ∈ alarm.members, memberField alarm member ∉ structMethods alarm :=
  ⟨by decide, by decide, fun _ isMember => (fields_renamed alarm isMember).2.2.1⟩

end Structure

/-! ## Exported names and their words -/

/-- Marking keywords keeps names without underscores apart. -/
theorem escapeReserved_inj {first second : String} (plain : '_' ∉ first.toList)
    (also : '_' ∉ second.toList) :
    escapeReserved first = escapeReserved second ↔ first = second := by
  have marked {name other : String} (unmarked : '_' ∉ other.toList) : name ++ "_" ≠ other := by
    rintro rfl
    simp at unmarked
  refine ⟨fun same => ?_, congrArg escapeReserved⟩
  unfold escapeReserved at same
  split at same
  · split at same
    · exact String.append_left_inj _ |>.mp same
    · exact absurd same (marked also)
  · split at same
    · exact absurd same.symm (marked plain)
    · exact same

section Words

variable {text other : String}

/-- A name that starts with a letter does so in pascal case. -/
theorem startsWithLetter_pascal (ascii : ∀ c ∈ text.toList, c.toNat < 128)
    (isLetter : startsWithLetter text = true) :
    startsWithLetter (pascal text) = true := by
  unfold startsWithLetter at isLetter
  cases chars : text.toList with
  | nil =>
    rw [chars] at isLetter
    cases isLetter
  | cons first rest =>
    rw [chars] at isLetter
    have firstAscii : first.toNat < 128 := ascii first (by rw [chars]; exact List.mem_cons_self)
    have letter := forall_ascii
      (fun c => Text.isLetter c = true →
        Text.isWordChar c = true ∧ Text.isLetter c.toUpper = true)
      (by decide) firstAscii isLetter
    rcases wordChars_of_isWordChar chars letter.1 with ⟨word, words, pieces⟩
    rcases pascal_of_wordChars pieces firstAscii with ⟨start, more, pascalChars, initial⟩
    rw [startsWithLetter, pascalChars]
    rcases initial with ⟨-, rfl⟩ | ⟨-, rfl⟩
    · exact letter.2
    · exact isLetter

theorem typeName_of_letter (ascii : ∀ c ∈ text.toList, c.toNat < 128)
    (isLetter : startsWithLetter text = true) :
    typeName text = escapeReserved (pascal text) := by
  have started := startsWithLetter_pascal ascii isLetter
  have filled : (pascal text).isEmpty = false := by
    rw [← Bool.not_eq_true, String.isEmpty_iff]
    intro empty
    rw [empty] at started
    cases started
  simp only [typeName, filled, started, if_true, Bool.false_eq_true, if_false]

/-- Names that start with a letter are exported under one name exactly if they have the same words
up to the capitals that words start with. -/
theorem typeName_inj (ascii : ∀ c ∈ text.toList, c.toNat < 128)
    (isLetter : startsWithLetter text = true) (alsoAscii : ∀ c ∈ other.toList, c.toNat < 128)
    (alsoLetter : startsWithLetter other = true) :
    typeName text = typeName other ↔ pascal text = pascal other := by
  rw [typeName_of_letter ascii isLetter, typeName_of_letter alsoAscii alsoLetter]
  exact escapeReserved_inj (not_mem_pascal ascii (by decide)) (not_mem_pascal alsoAscii (by decide))

end Words

/-- The names that are declared in place of names of every package. -/
def substitutes : List String :=
  [unitType ++ "Shape", requiredErrorType ++ "Shape"]

theorem declName_cases (id : ShapeId) :
    (declName id = typeName id.name ++ "Shape" ∧ declName id ∈ substitutes) ∨
      declName id = typeName id.name := by
  unfold declName substitutes
  simp only
  split
  case isTrue isReserved =>
    refine Or.inl ⟨rfl, ?_⟩
    simp only [Bool.or_eq_true, beq_iff_eq] at isReserved
    rcases isReserved with same | same <;> simp [same]
  case isFalse => exact Or.inr rfl

/-- Apart from the substitutes, declared names differ where exported names do. -/
theorem declName_inj {first second : ShapeId} (noSubstitute : typeName first.name ∉ substitutes)
    (norOther : typeName second.name ∉ substitutes) :
    declName first = declName second ↔ typeName first.name = typeName second.name := by
  constructor
  · intro same
    rcases declName_cases first with ⟨firstIs, firstIn⟩ | firstIs
    · rcases declName_cases second with ⟨secondIs, -⟩ | secondIs
      · rw [firstIs, secondIs] at same
        exact String.append_left_inj _ |>.mp same
      · rw [same, secondIs] at firstIn
        exact absurd firstIn norOther
    · rcases declName_cases second with ⟨secondIs, secondIn⟩ | secondIs
      · rw [← same, firstIs] at secondIn
        exact absurd secondIn noSubstitute
      · rw [← firstIs, ← secondIs, same]
  · intro same
    simp only [declName, same]

end ShapeForge.Naming
