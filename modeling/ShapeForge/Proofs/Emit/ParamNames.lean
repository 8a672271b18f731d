import ShapeForge.Proofs.Emit.Params
import ShapeForge.Proofs.Naming.Fields

/-!
# The names of parameters

The parameters of a route are named in camel case.  A keyword is marked with an underscore, which no
name in camel case has, and a few names of the route get a suffix.  So two parameters have the same
name if their members have the same words, or if the suffix of one is a word of the other; and the
names of the route that get no suffix are taken as they are.
-/

namespace ShapeForge

namespace Text

theorem ofNat_ne_underscore {code : Nat} (differs : code ≠ 95) : Char.ofNat code ≠ '_' := by
  intro same
  by_cases valid : code.isValidChar
  · have made : Char.ofNat code = Char.ofNatAux code valid := dif_pos valid
    exact differs (congrArg Char.toNat (made.symm.trans same))
  · have made : Char.ofNat code = ⟨0, .inl (by decide)⟩ := dif_neg valid
    exact absurd (made.symm.trans same) (by decide)

/-- No range of a table maps a code to that of the underscore. -/
def Apart (range : OffsetRange) : Prop :=
  ¬(range.first ≤ 95 - range.offset ∧ 95 - range.offset ≤ range.last)

instance : DecidablePred Apart := fun _ => inferInstanceAs (Decidable ¬_)

theorem shift?_ne_underscore {ranges : Array OffsetRange} {c d : Char}
    (apart : ∀ range ∈ ranges.toList, Apart range) (shifted : shift? ranges c = some d) :
    d ≠ '_' := by
  rcases Option.map_eq_some_iff.mp shifted with ⟨range, found, rfl⟩
  have covers := Array.find?_some found
  have outside := apart range (Array.mem_toList_iff.mpr (Array.mem_of_find?_eq_some found))
  simp only [OffsetRange.covers, Bool.and_eq_true, decide_eq_true_eq] at covers
  apply ofNat_ne_underscore
  unfold Apart at outside
  omega

theorem apart_offsets :
    (∀ range ∈ upperOffsets.toList, Apart range) ∧ (∀ range ∈ lowerOffsets.toList, Apart range) ∧
      (∀ range ∈ titleOffsets.toList, Apart range) ∧
      ∀ entry ∈ titleSequences.toList, ∀ code ∈ entry.2, code ≠ 95 := by
  decide +kernel

theorem getD_shift?_ne_underscore {ranges : Array OffsetRange} {c other : Char}
    (apart : ∀ range ∈ ranges.toList, Apart range) (differs : other ≠ '_') :
    (shift? ranges c).getD other ≠ '_' := by
  cases shifted : shift? ranges c with
  | none => exact differs
  | some d => exact shift?_ne_underscore apart shifted

theorem toLower_ne_underscore {c : Char} (differs : c ≠ '_') : toLower c ≠ '_' := by
  unfold toLower
  split
  next ascii =>
    exact Naming.forall_ascii (fun c => c ≠ '_' → c.toLower ≠ '_') (by decide) ascii differs
  next => exact getD_shift?_ne_underscore apart_offsets.2.1 differs

theorem underscore_not_mem_toTitle {c : Char} (differs : c ≠ '_') : '_' ∉ toTitle c := by
  unfold toTitle
  split
  next ascii =>
    exact Naming.forall_ascii (fun c => c ≠ '_' → '_' ∉ [c.toUpper]) (by decide) ascii differs
  next large =>
    split
    next found =>
      have isEntry := Array.mem_toList_iff.mpr (Array.mem_of_find?_eq_some found)
      intro isIn
      rcases List.mem_map.mp isIn with ⟨code, isCode, made⟩
      exact ofNat_ne_underscore (apart_offsets.2.2.2 _ isEntry code isCode) made
    next =>
      have upper : toUpper c ≠ '_' := by
        rw [toUpper, if_neg large]
        exact getD_shift?_ne_underscore apart_offsets.1 differs
      rw [List.mem_singleton]
      exact (getD_shift?_ne_underscore apart_offsets.2.2.1 upper).symm

end Text

namespace Naming

/-! ## Names in camel case -/

theorem underscore_not_mem_pascal (text : String) : '_' ∉ (pascal text).toList := by
  intro isIn
  rcases mem_pascal isIn with ⟨c, -, isWordChar, made⟩
  have differs : c ≠ '_' := by
    rintro rfl
    exact absurd isWordChar (by decide)
  exact made.elim differs.symm (Text.underscore_not_mem_toTitle differs)

theorem underscore_not_mem_camel (text : String) : '_' ∉ (camel text).toList := by
  have plain := underscore_not_mem_pascal text
  unfold camel
  split
  · simp
  next first rest chars =>
    rw [chars, List.mem_cons, not_or] at plain
    rw [String.toList_ofList, List.mem_cons, not_or]
    exact ⟨(Text.toLower_ne_underscore (Ne.symm plain.1)).symm, plain.2⟩

def plainParam (text : String) : String :=
  let name := camel text
  if name.isEmpty then "param" else if startsWithLetter name then name else "p" ++ name

theorem underscore_not_mem_plainParam (text : String) : '_' ∉ (plainParam text).toList := by
  have plain := underscore_not_mem_camel text
  unfold plainParam
  extract_lets name
  split
  · decide
  · split
    · exact plain
    · rw [String.toList_append, List.mem_append, not_or]
      exact ⟨by decide, plain⟩

theorem paramName_eq (text : String) : paramName text = escapeReserved (plainParam text) := by
  unfold paramName plainParam
  extract_lets name
  split
  · decide
  · rfl

variable {text name : String} {first second : String}

theorem paramName_inj :
    paramName first = paramName second ↔ plainParam first = plainParam second := by
  rw [paramName_eq, paramName_eq]
  exact escapeReserved_inj (underscore_not_mem_plainParam first)
    (underscore_not_mem_plainParam second)

/-! ## Names of the route -/

/-- The names that the functions of a route refer to where its parameters are in scope. -/
def scopeNames : List String :=
  ["w", "r", "h", "input", "output", "err", "raw", "http", "new", "nil", "bindHTTPParam",
    "decodeHTTPBody", "writeHTTPError", "writeHTTPJSON", "httpErrorStatus"]

/-- A name that is not marked as a keyword, and not like one that is. -/
def isUnmarked (name : String) : Bool :=
  !name.toList.contains '_' && escapeReserved name == name

theorem paramName_eq_iff (unmarked : isUnmarked name = true) :
    paramName text = name ↔ plainParam text = name := by
  simp only [isUnmarked, Bool.and_eq_true, Bool.not_eq_true', List.contains_eq_mem,
    decide_eq_false_iff_not, beq_iff_eq] at unmarked
  conv_lhs => rw [paramName_eq, ← unmarked.2]
  exact escapeReserved_inj (underscore_not_mem_plainParam text) unmarked.1

theorem isUnmarked_scopeNames : ∀ name ∈ scopeNames, isUnmarked name = true := by
  decide

/-- The names that get a suffix, which none of the names of the route has. -/
theorem suffixed_handlerNames : ∀ name ∈ handlerNames,
    isUnmarked name = true ∧ isUnmarked (name ++ "Param") = true ∧
      name ++ "Param" ∉ handlerNames ∧ name ++ "Param" ∉ scopeNames := by
  decide

theorem handlerParam_of_mem (isTaken : plainParam text ∈ handlerNames) :
    handlerParam text = plainParam text ++ "Param" := by
  have same : paramName text = plainParam text :=
    (paramName_eq_iff (suffixed_handlerNames _ isTaken).1).mpr rfl
  rw [handlerParam, same]
  exact if_pos (List.contains_iff_mem.mpr isTaken)

theorem handlerParam_of_not_mem (isFree : plainParam text ∉ handlerNames) :
    handlerParam text = paramName text := by
  rw [handlerParam]
  refine if_neg fun isTaken => isFree ?_
  have isTaken := List.contains_iff_mem.mp isTaken
  rwa [(paramName_eq_iff (suffixed_handlerNames _ isTaken).1).mp rfl]

/-- One name is the other with the suffix that it gets. -/
def IsSuffixed (first second : String) : Prop :=
  first ∈ handlerNames ∧ second = first ++ "Param"

/-- Two members whose parameters have one name. -/
def Clash (first second : String) : Prop :=
  plainParam first = plainParam second ∨ IsSuffixed (plainParam first) (plainParam second) ∨
    IsSuffixed (plainParam second) (plainParam first)

theorem handlerParam_eq_iff : handlerParam first = handlerParam second ↔ Clash first second := by
  -- A name with the suffix is that of a parameter without one.
  have apart {first second : String} (isTaken : plainParam first ∈ handlerNames)
      (isFree : plainParam second ∉ handlerNames) :
      handlerParam first = handlerParam second ↔ Clash first second := by
    rw [handlerParam_of_mem isTaken, handlerParam_of_not_mem isFree, eq_comm,
      paramName_eq_iff (suffixed_handlerNames _ isTaken).2.1]
    have differ : plainParam first ≠ plainParam second := fun same => isFree (same ▸ isTaken)
    simp [Clash, IsSuffixed, isTaken, isFree, differ]
  by_cases firstTaken : plainParam first ∈ handlerNames
  · by_cases secondTaken : plainParam second ∈ handlerNames
    · have unsuffixed {first second : String} (isTaken : plainParam second ∈ handlerNames) :
          ¬IsSuffixed first (plainParam second) := by
        rintro ⟨isFirst, same⟩
        exact (suffixed_handlerNames _ isFirst).2.2.1 (same ▸ isTaken)
      rw [handlerParam_of_mem firstTaken, handlerParam_of_mem secondTaken, String.append_left_inj]
      simp [Clash, unsuffixed firstTaken, unsuffixed secondTaken]
    · exact apart firstTaken secondTaken
  · by_cases secondTaken : plainParam second ∈ handlerNames
    · rw [eq_comm, apart secondTaken firstTaken, Clash, Clash, eq_comm,
        or_comm (a := IsSuffixed _ _)]
    · rw [handlerParam_of_not_mem firstTaken, handlerParam_of_not_mem secondTaken, paramName_inj]
      simp [Clash, IsSuffixed, firstTaken, secondTaken]

theorem handlerParam_mem_scopeNames :
    handlerParam text ∈ scopeNames ↔
      plainParam text ∈ scopeNames ∧ plainParam text ∉ handlerNames := by
  by_cases isTaken : plainParam text ∈ handlerNames
  · rw [handlerParam_of_mem isTaken]
    simp [isTaken, (suffixed_handlerNames _ isTaken).2.2.2]
  · rw [handlerParam_of_not_mem isTaken]
    simp only [isTaken, not_false_eq_true, and_true]
    constructor
    · intro isName
      rwa [(paramName_eq_iff (isUnmarked_scopeNames _ isName)).mp rfl]
    · intro isName
      rwa [(paramName_eq_iff (isUnmarked_scopeNames _ isName)).mpr rfl]

end Naming

namespace Emit

/-- The parameters of an operation bind members of its input in order and are named after them.
They differ exactly if no two of the members clash, and none takes a name of the route exactly if no
member is named like one that gets no suffix. -/
theorem param_names_apart {emitter : Emitter} {shape : Shape} {operation : Operation}
    {binding : HttpBinding} {record after : Recorded} {params : List HttpParam}
    (run : (httpParams emitter shape operation binding).run record = (.ok params, after)) :
    ∃ (input : Shape) (bound : List Member), inputOf emitter.model operation = .ok input ∧
      bound.Sublist input.members ∧
      List.Forall₂ (Binds emitter.model input binding.labels) bound params ∧
      params.map (·.name) = bound.map (fun member => Naming.handlerParam member.name) ∧
      ((params.map (·.name)).Nodup ↔
        bound.Pairwise fun first second => ¬Naming.Clash first.name second.name) ∧
      ((∀ param ∈ params, param.name ∉ Naming.scopeNames) ↔
        ∀ member ∈ bound, Naming.plainParam member.name ∈ Naming.scopeNames →
          Naming.plainParam member.name ∈ Naming.handlerNames) := by
  rcases reports_httpParams shape operation binding record after params run with
    ⟨issues, -, input, bound, accounted⟩
  have named : params.map (·.name) = bound.map fun member => Naming.handlerParam member.name := by
    rw [eq_comm, ← List.forall₂_eq_eq_eq, List.forall₂_map_left_iff, List.forall₂_map_right_iff]
    exact accounted.binds.imp fun _ _ binds => binds.name.symm
  refine ⟨input, bound, accounted.isInput, accounted.isPart, accounted.binds, named, ?_, ?_⟩
  · rw [named, List.Nodup, List.pairwise_map]
    simp only [ne_eq, Naming.handlerParam_eq_iff]
  · have names : (∀ param ∈ params, param.name ∉ Naming.scopeNames) ↔
        ∀ name ∈ params.map (·.name), name ∉ Naming.scopeNames := by
      rw [List.forall_mem_map]
    rw [names, named, List.forall_mem_map]
    simp only [Naming.handlerParam_mem_scopeNames, not_and, not_not]

open Forecast in
theorem param_names_apart_forecast :
    (httpParams weather shape operation binding).run {} = (.ok params, {}) ∧
      ∀ param ∈ params, param.name ∉ Naming.scopeNames := by
  have run : (httpParams weather shape operation binding).run {} = (.ok params, {}) := rfl
  refine ⟨run, ?_⟩
  rcases param_names_apart run with ⟨input, bound, isInput, isPart, -, -, -, free⟩
  cases isInput
  refine free.mpr fun member isBound => ?_
  have isMember : member ∈ [city, days] := isPart.subset isBound
  clear isBound
  revert member
  decide

namespace Search

def queried (name : String) : Member :=
  { name, container := ⟨"shop#Filter"⟩, target := .prelude "String",
    traits := [⟨Trait.httpQuery, "\"" ++ name ++ "\""⟩] }

def filter : Shape :=
  { id := ⟨"shop#Filter"⟩, body := .structure (["new", "max_price", "maxPrice"].map queried) }

def operation : Operation := { input := ⟨"shop#Filter"⟩ }

def shape : Shape := { id := ⟨"shop#Search"⟩, body := .operation operation }

def binding : HttpBinding := { method := "GET", uri := "/items" }

def shop : Emitter where
  settings := {}
  model := { shapes := [filter, shape] }
  plans := []
  plan := {}

end Search

open Search in
/-- Members that are told apart, with parameters that are not, and one of them named like a function
that the route calls. -/
theorem param_names_clash_search :
    (filter.members.map (·.name)).Nodup ∧ "new" ∈ Naming.scopeNames ∧
      ∃ params, (httpParams shop shape operation binding).run {} = (.ok params, {}) ∧
        params.map (·.name) = ["new", "maxPrice", "maxPrice"] :=
  ⟨by decide, by decide, _, rfl, by decide⟩

end Emit

end ShapeForge
