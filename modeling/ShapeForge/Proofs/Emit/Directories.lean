import ShapeForge.Proofs.Emit.Accounting
import ShapeForge.Proofs.Emit.Exported
import ShapeForge.Proofs.Files.Writing
import ShapeForge.Proofs.Model.Identifiers

/-!
# The directories of packages

Every package is written into the directory that its namespace names, dots as slashes and in lower
case.  Namespaces that differ in more than case have directories of their own, and what is written
there stays; those that differ in case only share one, where the last package wins.
-/

namespace ShapeForge.Text

theorem splitWhere_map {cut origin : Char → Bool} {change : Char → Char} {chars : List Char}
    (same : ∀ c ∈ chars, cut (change c) = origin c) :
    splitWhere cut (chars.map change) = (splitWhere origin chars).map (List.map change) := by
  induction chars with
  | nil => rfl
  | cons first rest ih =>
    rcases List.forall_mem_cons.mp same with ⟨here, others⟩
    rw [List.map_cons, splitWhere, splitWhere, here, ih others]
    split
    · rfl
    · cases splitWhere origin rest <;> rfl

theorem replaceChars_char {c replacement : Char} {fuel : Nat} {chars : List Char}
    (enough : chars.length ≤ fuel) :
    replaceChars [c] [replacement] fuel chars =
      chars.map fun d => if d = c then replacement else d := by
  induction chars generalizing fuel with
  | nil => cases fuel <;> rfl
  | cons first rest ih =>
    cases fuel with
    | zero => simp at enough
    | succ fuel =>
      have fits : rest.length ≤ fuel := by simpa using enough
      rw [replaceChars, List.map_cons, ← ih fits]
      by_cases same : first = c
      · simp [dropLeading?, same]
      · simp [dropLeading?, same]

end ShapeForge.Text

namespace ShapeForge.Emit

open Recording

/-! ## Directories -/

section Spaces

variable {space other : String}

/-- A text is a namespace: identifiers with dots between them. -/
abbrev IsSpace (space : String) : Prop :=
  (Text.split '.' space).all ShapeId.isIdentifier = true

def slash (c : Char) : Char :=
  if c = '.' then '/' else c

theorem toList_slashed (space : String) : (slashed space).toList = space.toList.map slash := by
  have enough : space.toList.length ≤ space.length + 1 := by
    rw [String.length_toList]
    omega
  rw [slashed, Text.replaceAll, String.toList_ofList]
  exact Text.replaceChars_char enough

theorem toLower_of_space {c : Char} (isSpace : IsSpace space) (isChar : c ∈ space.toList) :
    Text.toLower (slash c) = slash (Text.toLower c) ∧ (Text.toLower c = '.' ↔ c = '.') ∧
      Text.toLower c ≠ '/' := by
  have noSlash : c ≠ '/' := by
    rintro rfl
    exact Naming.not_mem_of_split isSpace (by decide) (by decide) isChar
  revert noSlash
  exact Naming.forall_ascii
    (fun c => c ≠ '/' → Text.toLower (slash c) = slash (Text.toLower c) ∧
      (Text.toLower c = '.' ↔ c = '.') ∧ Text.toLower c ≠ '/')
    (by decide) (Naming.ascii_of_split isSpace c isChar)

theorem toList_directory (isSpace : IsSpace space) :
    (Text.lower (slashed space)).toList = (Text.lower space).toList.map slash := by
  rw [Text.lower, Text.lower, toList_slashed, String.toList_ofList, String.toList_ofList,
    List.map_map, List.map_map]
  apply List.map_congr_left
  intro c isChar
  exact (toLower_of_space isSpace isChar).1

def dot (c : Char) : Char :=
  if c = '/' then '.' else c

theorem map_dot_slash {chars : List Char} (whole : '/' ∉ chars) :
    (chars.map slash).map dot = chars := by
  rw [List.map_map]
  conv_rhs => rw [← List.map_id chars]
  apply List.map_congr_left
  intro c isChar
  have notSlash : c ≠ '/' := by
    rintro rfl
    exact whole isChar
  by_cases isDot : c = '.'
  · subst isDot
    rfl
  · simp [slash, dot, isDot, notSlash]

/-- Namespaces share a directory exactly if they differ at most in case. -/
theorem directory_inj (isSpace : IsSpace space) (isOther : IsSpace other) :
    Text.lower (slashed space) = Text.lower (slashed other) ↔
      Text.lower space = Text.lower other := by
  have whole {space : String} (isSpace : IsSpace space) : '/' ∉ (Text.lower space).toList := by
    intro isChar
    rw [Text.lower, String.toList_ofList] at isChar
    rcases List.mem_map.mp isChar with ⟨c, isChar, isSlash⟩
    exact (toLower_of_space isSpace isChar).2.2 isSlash
  rw [← String.toList_inj, ← String.toList_inj, toList_directory isSpace, toList_directory isOther]
  constructor
  · intro same
    have back := congrArg (List.map dot) same
    rwa [map_dot_slash (whole isSpace), map_dot_slash (whole isOther)] at back
  · intro same
    rw [same]

theorem split_directory (isSpace : IsSpace space) :
    Text.split '/' (Text.lower (slashed space)) = (Text.split '.' space).map Text.lower := by
  have cuts : ∀ c ∈ space.toList, (Text.toLower (slash c) == '/') = (c == '.') := by
    intro c isChar
    rcases toLower_of_space isSpace isChar with ⟨commutes, isDot, notSlash⟩
    rw [commutes, Bool.eq_iff_iff, beq_iff_eq, beq_iff_eq, ← isDot]
    unfold slash
    split
    · next same => simp [same]
    · next other => simp [other, notSlash]
  have chars : (Text.lower (slashed space)).toList =
      space.toList.map fun c => Text.toLower (slash c) := by
    rw [Text.lower, toList_slashed, String.toList_ofList, List.map_map, Function.comp_def]
  rw [Text.split, chars, Text.splitWhere_map cuts, Text.split, List.map_map, List.map_map]
  apply List.map_congr_left
  intro piece isPiece
  simp only [Function.comp_apply, Text.lower, String.toList_ofList]
  apply congrArg String.ofList
  apply List.map_congr_left
  intro c isChar
  have noDot : c ≠ '.' := by
    simpa using Text.not_cut_of_splitWhere isPiece isChar
  rw [slash, if_neg noDot]

/-- The elements of a directory name something, and have no dots. -/
theorem plain_of_directory {element : String} (isSpace : IsSpace space)
    (isElement : element ∈ Text.split '/' (Text.lower (slashed space))) :
    Path.IsPlain element ∧ '.' ∉ element.toList := by
  rw [split_directory isSpace] at isElement
  rcases List.mem_map.mp isElement with ⟨part, isPart, rfl⟩
  have isIdentifier := List.all_eq_true.mp isSpace part isPart
  have chars : ∀ c ∈ (Text.lower part).toList, c ≠ '.' ∧ c ≠ '/' := by
    intro c isChar
    rw [Text.lower, String.toList_ofList] at isChar
    rcases List.mem_map.mp isChar with ⟨d, isIn, rfl⟩
    have isChar := Naming.isIdentifierChar_of_isIdentifier isIdentifier d isIn
    exact Naming.forall_ascii
      (fun d => ShapeId.isIdentifierChar d = true → Text.toLower d ≠ '.' ∧ Text.toLower d ≠ '/')
      (by decide) (Naming.ascii_of_isIdentifierChar isChar) isChar
  have noDot : '.' ∉ (Text.lower part).toList := fun isChar => (chars '.' isChar).1 rfl
  refine ⟨⟨?_, ?_, ?_, fun isChar => (chars '/' isChar).2 rfl⟩, noDot⟩
  · intro empty
    have noChars : part.toList = [] := by
      rwa [Text.lower, String.ofList_eq_empty_iff, List.map_eq_nil_iff] at empty
    rw [ShapeId.isIdentifier, noChars] at isIdentifier
    cases isIdentifier
  · intro here
    rw [here] at noDot
    exact noDot (by decide)
  · intro up
    rw [up] at noDot
    exact noDot (by decide)

end Spaces

/-! ## Placed packages -/

/-- The names that files of packages have. -/
def packageFileNames : List String :=
  docName :: CodeFile.all.map CodeFile.name

theorem nodup_packageFileNames : packageFileNames.Nodup := by
  decide

theorem plain_of_packageFileNames :
    ∀ name ∈ packageFileNames, Path.IsPlain name ∧ '.' ∈ name.toList := by
  decide

/-- The package goes into the directory of its namespace, and its files have their own names. -/
structure Package.Placed (package : Package) : Prop where
  isSpace : (Text.split '.' package.space).all ShapeId.isIdentifier = true
  directory : package.dir = Text.lower (slashed package.space)
  files : (package.files.map (·.name)).Sublist packageFileNames

theorem ensures_name_formatted (emitter : Emitter) (name text : String) :
    Ensures (formatted emitter name text) fun file => file.name = name := by
  rw [formatted_eq]
  refine ensures_bind fun _ => ?_
  exact ensures_pure rfl

theorem ensures_name_codeFile (emitter : Emitter) (contents : Contents) (file : CodeFile) :
    Ensures (codeFile emitter contents file) fun written =>
      ∀ packageFile ∈ written.2, packageFile.name = file.name := by
  unfold codeFile
  refine ensures_bind fun code => ?_
  split
  · exact ensures_pure nofun
  · refine (ensures_name_formatted emitter _ _).bind fun packageFile named => ?_
    exact ensures_pure (by simpa using named)

theorem sublist_of_codeFiles
    {listed : List CodeFile} {written : List (FileBody × Option PackageFile)}
    (named : List.Forall₂ (fun file written => ∀ packageFile ∈ written.2,
      packageFile.name = file.name) listed written) :
    ((written.filterMap (·.2)).map (·.name)).Sublist (listed.map CodeFile.name) := by
  induction named with
  | nil => exact List.Sublist.refl _
  | @cons file first listed rest isNamed _ ih =>
    rw [List.filterMap_cons, List.map_cons]
    cases present : first.2 with
    | none => exact ih.cons _
    | some packageFile =>
      rw [List.map_cons, isNamed packageFile present]
      exact ih.cons_cons _

theorem ensures_placed (emitter : Emitter) :
    Ensures (buildPackage emitter) fun built =>
      built.1.dir = emitter.plan.dir ∧ (built.1.files.map (·.name)).Sublist packageFileNames := by
  unfold buildPackage
  refine ensures_bind fun contents => ?_
  refine (ensures_name_formatted emitter _ _).bind fun docFile isDoc => ?_
  refine (ensures_each fun file _ => ensures_name_codeFile emitter contents file).bind
    fun files named => ?_
  refine ensures_bind fun _ => ?_
  apply ensures_pure
  refine ⟨rfl, ?_⟩
  rw [List.map_cons, isDoc]
  exact (sublist_of_codeFiles named).cons_cons _

theorem dir_of_planFrom
    {modulePath : String} {overrides : List (String × String)} {taken spaces : List String}
    {plan : PackagePlan} (isPlan : plan ∈ planFrom modulePath overrides taken spaces) :
    plan.dir = Text.lower (slashed plan.space) := by
  rcases planOne_of_mem isPlan with ⟨before, space, -, rfl⟩
  rfl

theorem isSpace_of_namespaces {model : Model} {space : String}
    (obtained : model.Obtained) (isSpace : space ∈ model.namespaces) :
    IsSpace space := by
  rcases Model.mem_namespaces.mp isSpace with ⟨shape, isShape, rfl⟩
  rcases ShapeId.parts_of_wellFormed (obtained.wellPlaced shape isShape).wellFormed with
    ⟨space, name, member, parts⟩
  rw [parts.nameSpace_eq]
  exact parts.isSpace

theorem result_outcomeOf
    {settings : Settings} {loaded : LoadedModel} {merged : Merged} {plans : List PackagePlan}
    {space : String} {plan : PackagePlan}
    (whole : danglingIn merged.model space = []) (found : planOf? plans space = some plan) :
    (outcomeOf settings loaded merged plans space).result =
      ((buildPackage
        { settings
          model := merged.model
          plans
          plan
          dependencies := merged.dependencies
          sourcePath := loaded.sourcePath }).run {}).1.map (·.1) := by
  unfold outcomeOf
  rw [whole, found]
  rfl

theorem placed_of_outcomeOf {settings : Settings} {loaded : LoadedModel} {merged : Merged}
    {modulePath : String} {overrides : List (String × String)} {spaces : List String}
    {space : String} {package : Package} (isSpace : IsSpace space) (planned : space ∈ spaces)
    (emitted : (outcomeOf settings loaded merged (planPackages modulePath overrides spaces)
      space).package? = some package) :
    package.Placed := by
  rcases planOf?_planPackages planned with ⟨plan, found, named⟩
  have dir := dir_of_planFrom (List.mem_reverse.mp (List.mem_of_find?_eq_some found))
  have isOk := eq_ok_of_toOption emitted
  unfold outcomeOf at isOk
  split at isOk
  · rcases map_eq_ok.mp isOk with ⟨built, isBuilt, rfl⟩
    have isNamed := ensures_space _ {} built isBuilt
    rcases ensures_placed _ {} built isBuilt with ⟨inDir, files⟩
    rw [found, Option.getD_some] at isNamed inDir
    rw [named] at isNamed dir
    exact ⟨isNamed ▸ isSpace, inDir.trans (isNamed ▸ dir), files⟩
  · cases isOk

/-- The packages of a result, in the order of their namespaces. -/
theorem placed_of_generated
    {settings : Settings} {loaded : LoadedModel} {result : GenerateResult} {failure : Option Fault}
    (obtained : loaded.model.Obtained)
    (generated : generateLoaded settings loaded = .ok (result, failure)) :
    (∀ package ∈ result.packages, package.Placed) ∧
      (result.packages.map (·.space)).Pairwise (· < ·) := by
  rcases bind_eq_ok.mp generated with ⟨merged, isMerged, -⟩
  rcases bind_eq_ok.mp isMerged with ⟨model, merges, same⟩
  rw [mapError_eq_ok] at merges
  cases same
  rw [generateLoaded_eq isMerged] at generated
  cases generated
  constructor
  · intro package isPackage
    rcases List.mem_filterMap.mp isPackage with ⟨outcome, isOutcome, emitted⟩
    rcases List.mem_map.mp isOutcome with ⟨space, isSelected, rfl⟩
    have isSpace : space ∈ loaded.model.namespaces := (List.mem_filter.mp isSelected).1
    refine placed_of_outcomeOf (isSpace_of_namespaces obtained isSpace) ?_ emitted
    rcases Model.mem_namespaces.mp isSpace with ⟨shape, isShape, named⟩
    rw [Model.mem_namespaces, Model.shapes_merge merges]
    exact ⟨shape, List.mem_append_left _ isShape, named⟩
  · change (List.map _ ((outcomesOf settings loaded _).filterMap Outcome.package?)).Pairwise _
    rw [map_space_packages (sound_outcomesOf merges rfl)]
    exact ascending_outcomesOf.sublist (List.filter_sublist.map _)

/-! ## Packages on disk -/

section Written

variable {tree after : FileTree} {output : String} {package : Package} {packages : List Package}
variable {file : PackageFile} {root parts : List String}

/-- The place of a package below the output directory. -/
def Package.place (output : String) (package : Package) : List String :=
  Path.place output ++ Text.split '/' package.dir

namespace Package.Placed

variable (placed : package.Placed)

include placed

theorem plain :
    ∀ element ∈ Text.split '/' package.dir, Path.IsPlain element ∧ '.' ∉ element.toList := by
  intro element isElement
  rw [placed.directory] at isElement
  exact plain_of_directory placed.isSpace isElement

theorem plain_file (isFile : file ∈ package.files) :
    Path.IsPlain file.name ∧ '.' ∈ file.name.toList :=
  plain_of_packageFileNames _ (placed.files.subset (List.mem_map_of_mem isFile))

theorem place_join (output : String) :
    Path.place (Path.join [output, package.dir]) = package.place output := by
  have joined := Path.place_join_concat [output] fun element isElement =>
    (placed.plain element isElement).1
  rwa [Path.place_join_singleton] at joined

theorem place_file (output : String) (isFile : file ∈ package.files) :
    Path.place (Path.join [output, package.dir, file.name]) =
      package.place output ++ [file.name] := by
  have plain := (placed.plain_file isFile).1
  have whole := Text.split_of_not_mem plain.whole
  have joined := Path.place_join_concat [output, package.dir]
    (show ∀ element ∈ Text.split '/' file.name, Path.IsPlain element by simpa [whole] using plain)
  rwa [placed.place_join, whole] at joined

theorem isClean_join (output : String) : Path.IsClean (Path.join [output, package.dir]) := by
  apply Path.isClean_join package.dir (by simp)
  intro empty
  have first : "" ∈ Text.split '/' package.dir := by
    rw [empty]
    exact List.mem_cons_self
  exact (placed.plain "" first).1.given rfl

theorem staysInside_join (output : String) :
    staysInside output (Path.join [output, package.dir]) = true := by
  have plain : ∀ element ∈ Text.split '/' package.dir, Path.IsPlain element :=
    fun element isElement => (placed.plain element isElement).1
  have normal : Path.IsNormal false (Text.split '/' package.dir) := ⟨0, _, rfl, plain, nofun⟩
  have down : (Text.split '/' package.dir).head? ≠ some ".." := by
    intro isUp
    exact (plain ".." (List.mem_of_head? isUp)).notUp rfl
  rw [staysInside, Path.rel?_join output plain, Option.map_some, Option.getD_some, Path.isLocal,
    Path.isAbsolute_ofElements normal, Path.elements_ofElements normal]
  simpa [Path.ofElements_ne_empty] using down

end Package.Placed

/-- Below an output directory exactly the files have dots in their names. -/
structure Tidy (tree : FileTree) (root : List String) : Prop where
  holds : tree.Holds root .directory
  dotted : ∀ init name entry, tree.entry? (root ++ (init ++ [name])) = some entry →
    ('.' ∈ name.toList ↔ ∃ text, entry = .file text)

theorem Tidy.isFree (tidy : Tidy tree root) (undotted : ∀ element ∈ parts, '.' ∉ element.toList) :
    tree.IsFree (root ++ parts) := by
  intro init isInit text isFile
  rcases List.prefix_or_prefix_of_prefix isInit (List.prefix_append root parts) with
    above | ⟨below, rfl⟩
  · exact tidy.holds.isFree init above text isFile
  · rcases List.eq_nil_or_concat below with rfl | ⟨lead, last, rfl⟩
    · exact tidy.holds.isFree _ (by simp) text isFile
    · rw [List.concat_eq_append] at isFile isInit
      have isElement : last ∈ parts := by
        have shorter := (List.prefix_append_right_inj root).mp isInit
        exact shorter.subset (by simp)
      exact undotted last isElement ((tidy.dotted lead last _ isFile).mpr ⟨text, rfl⟩)

theorem Tidy.wrote {files : List PackageFile}
    (tidy : Tidy tree root) (wrote : Wrote tree after (root ++ parts) files)
    (undotted : ∀ element ∈ parts, '.' ∉ element.toList)
    (dotted : ∀ file ∈ files, '.' ∈ file.name.toList) :
    Tidy after root where
  holds := tidy.holds.imp (fun _ => wrote.directory_kept) (wrote.directory_kept tidy.holds.here)
  dotted := by
    intro init name entry listed
    rcases wrote.entry?_cases listed with ⟨file, isFile, same, rfl⟩ | ⟨isInit, rfl⟩ | before
    · have named : name = file.name := by
        rw [← List.append_assoc] at same
        exact (List.append_singleton_inj.mp same).2
      exact iff_of_true (named ▸ dotted file isFile) ⟨_, rfl⟩
    · have isElement : name ∈ parts := by
        have shorter := (List.prefix_append_right_inj root).mp isInit
        exact shorter.subset (by simp)
      exact iff_of_false (undotted name isElement) nofun
    · exact tidy.dotted init name entry before

/-- A package is written whole below a tidy output directory, which stays tidy. -/
theorem run_writePackage (placed : package.Placed) (tidy : Tidy tree (Path.place output)) :
    ∃ after, (writePackage output package).run tree = (.ok (), after) ∧
      Wrote tree after (package.place output) package.files ∧ Tidy after (Path.place output) := by
  have undotted : ∀ element ∈ Text.split '/' package.dir, '.' ∉ element.toList :=
    fun element isElement => (placed.plain element isElement).2
  have dotted : ∀ file ∈ package.files, '.' ∈ file.name.toList :=
    fun file isFile => (placed.plain_file isFile).2
  have accepted : ∀ file ∈ package.files, ¬ IsRefused tree (package.place output) file := by
    rintro file isFile (unnamed | isDirectory)
    · exact unnamed (placed.plain_file isFile).1
    · rw [Package.place, List.append_assoc] at isDirectory
      rcases (tidy.dotted _ _ _ isDirectory).mp (dotted file isFile) with ⟨text, isText⟩
      cases isText
  have leaves := leaves_writeDir (placed.isClean_join output) package.files tree
  rw [placed.place_join] at leaves
  rcases leaves.wrote (tidy.isFree undotted) accepted with ⟨succeeded, wrote⟩
  refine ⟨_, ?_, wrote, tidy.wrote wrote undotted dotted⟩
  unfold writePackage
  simp only [placed.staysInside_join]
  show (Disk.within _ (writeDir _ _)).run tree = _
  rw [Disk.run_within]
  cases ran : (writeDir (Path.join [output, package.dir]) package.files).run tree with
  | mk outcome after =>
    rw [ran] at succeeded
    rw [show outcome = .ok () from succeeded]

/-- Packages are written one after another, and leave what is in no file's place. -/
theorem run_writePackages
    (placed : ∀ package ∈ packages, package.Placed) (tidy : Tidy tree (Path.place output)) :
    ∃ after, (Disk.each (writePackage output) packages).run tree = (.ok (), after) ∧
      Tidy after (Path.place output) ∧
      ∀ place entry, tree.Holds place entry →
        (∀ package ∈ packages, ∀ file ∈ package.files,
          place ≠ package.place output ++ [file.name]) →
        after.Holds place entry := by
  induction packages generalizing tree with
  | nil => exact ⟨tree, rfl, tidy, fun _ _ holds _ => holds⟩
  | cons package rest ih =>
    rcases List.forall_mem_cons.mp placed with ⟨first, others⟩
    rcases run_writePackage first tidy with ⟨between, ran, wrote, tidy⟩
    rcases ih others tidy with ⟨after, rest, tidy, kept⟩
    refine ⟨after, ?_, tidy, ?_⟩
    · rw [Disk.each, Recording.run_bind, ran]
      exact rest
    · intro place entry holds elsewhere
      rcases List.forall_mem_cons.mp elsewhere with ⟨here, later⟩
      exact kept place entry (wrote.holds_other holds here) later

theorem Package.Placed.place_eq_iff {other : Package}
    (placed : package.Placed) (otherPlaced : other.Placed) (output : String) :
    package.place output = other.place output ↔
      Text.lower package.space = Text.lower other.space := by
  rw [← directory_inj placed.isSpace otherPlaced.isSpace, ← placed.directory,
    ← otherPlaced.directory]
  rw [Package.place, Package.place, List.append_cancel_left_eq, Text.split_inj]

/-- A file stays as it was written if no later package has a file for its place. -/
theorem holds_of_run {earlier later : List Package} (whole : packages = earlier ++ package :: later)
    (placed : ∀ package ∈ packages, package.Placed) (tidy : Tidy tree (Path.place output))
    (ran : (Disk.each (writePackage output) packages).run tree = (.ok (), after))
    (isFile : file ∈ package.files)
    (last : ∀ other ∈ later, ∀ clash ∈ other.files,
      Text.lower other.space = Text.lower package.space → clash.name ≠ file.name) :
    after.Holds (package.place output ++ [file.name]) (.file file.content) := by
  subst whole
  have ofEarlier : ∀ other ∈ earlier, other.Placed :=
    fun other isOther => placed other (by simp [isOther])
  have ofPackage : package.Placed := placed package (by simp)
  have ofLater : ∀ other ∈ later, other.Placed :=
    fun other isOther => placed other (by simp [isOther])
  rcases run_writePackages ofEarlier tidy with ⟨before, ranEarlier, tidy, -⟩
  rcases run_writePackage ofPackage tidy with ⟨between, ranPackage, wrote, tidy⟩
  rcases run_writePackages ofLater tidy with ⟨final, ranLater, -, kept⟩
  have same : final = after := by
    rw [Disk.run_each_append ranEarlier, Disk.each, Recording.run_bind, ranPackage] at ran
    exact (Prod.mk.inj (ranLater.symm.trans ran)).2
  rw [← same]
  have distinct : (package.files.map (·.name)).Nodup :=
    nodup_packageFileNames.sublist ofPackage.files
  refine kept _ _ (wrote.holds_file distinct isFile) ?_
  intro other isOther clash isClash taken
  rcases List.append_singleton_inj.mp taken with ⟨samePlace, sameName⟩
  apply last other isOther clash isClash _ sameName.symm
  rw [← (ofLater other isOther).place_eq_iff ofPackage output]
  exact samePlace.symm

/-- A directory with nothing in it. -/
structure IsEmptyDirectory (tree : FileTree) (place : List String) : Prop where
  holds : tree.Holds place .directory
  empty : ∀ below, below ≠ [] → tree.entry? (place ++ below) = none

theorem IsEmptyDirectory.tidy (empty : IsEmptyDirectory tree root) :
    Tidy tree root where
  holds := empty.holds
  dotted := by
    intro init name entry listed
    rw [empty.empty _ (by simp)] at listed
    cases listed

/-- An output directory that is there is not made anew. -/
theorem run_writePackages_of_holds
    (given : output ≠ "") (holds : tree.Holds (Path.place output) .directory) :
    (writePackages output packages).run tree =
      (Disk.each (writePackage output) packages).run tree := by
  have looked : tree.status output = .ok .directory :=
    FileTree.status_eq_ok.mpr ⟨given, holds, nofun⟩
  rw [writePackages, Recording.run_bind, Disk.run_within, Disk.run_change, FileTree.makeDirs,
    looked]

end Written

/-- The packages of a result can be written into an empty directory.  Two of them go into one
directory exactly if their namespaces differ at most in case, and a file keeps its content unless a
later package that shares its directory has a file with its name. -/
theorem packages_written
    {settings : Settings} {loaded : LoadedModel} {result : GenerateResult} {failure : Option Fault}
    {tree : FileTree} {output : String}
    (obtained : loaded.model.Obtained)
    (generated : generateLoaded settings loaded = .ok (result, failure))
    (given : output ≠ "") (empty : IsEmptyDirectory tree (Path.place output)) :
    ∃ after, Disk.on tree (writePackages output result.packages) = (.ok (), after) ∧
      (∀ package ∈ result.packages, ∀ other ∈ result.packages,
        package.dir = other.dir ↔ Text.lower package.space = Text.lower other.space) ∧
      ∀ package ∈ result.packages, ∀ file ∈ package.files,
        (∀ other ∈ result.packages, package.space < other.space →
          Text.lower other.space = Text.lower package.space →
          ∀ clash ∈ other.files, clash.name ≠ file.name) →
        after.readFile (Path.join [output, package.dir, file.name]) = .ok file.content := by
  rcases placed_of_generated obtained generated with ⟨placed, ascending⟩
  rcases run_writePackages placed empty.tidy with ⟨after, ran, -, -⟩
  refine ⟨after, ?_, ?_, ?_⟩
  · exact (run_writePackages_of_holds given empty.holds).trans ran
  · intro package isPackage other isOther
    rw [(placed package isPackage).directory, (placed other isOther).directory]
    exact directory_inj (placed package isPackage).isSpace (placed other isOther).isSpace
  · intro package isPackage file isFile last
    have isPlaced := placed package isPackage
    rcases List.append_of_mem isPackage with ⟨earlier, later, whole⟩
    have following : ∀ other ∈ later, package.space < other.space := by
      rw [whole, List.map_append, List.map_cons] at ascending
      intro other isOther
      exact (List.pairwise_cons.mp (List.pairwise_append.mp ascending).2.1).1 other.space
        (List.mem_map_of_mem isOther)
    have isClean : Path.IsClean (Path.join [output, package.dir, file.name]) :=
      Path.isClean_join file.name (by simp) (isPlaced.plain_file isFile).1.given
    rw [FileTree.readFile_of_clean isClean, isPlaced.place_file output isFile]
    apply holds_of_run whole placed empty.tidy ran isFile
    intro other isOther clash isClash sameDir
    have isPackage : other ∈ result.packages := by simp [whole, isOther]
    exact last other isPackage (following other isOther) sameDir clash isClash

theorem gives_formatted {emitter : Emitter} {name text content : String}
    (laidOut : Layout.format text = .ok content) :
    Gives (formatted emitter name text) { name, content } := by
  rw [formatted, laidOut]
  exact gives_pure _

/-- The comment of a package is one of its files. -/
theorem ensures_doc {emitter : Emitter} {declared : Contents} {content : String}
    (gathered : Gives (contents emitter) declared)
    (laidOut : Layout.format (Code.text (docItems emitter declared.services)) = .ok content) :
    Ensures (buildPackage emitter) fun built =>
      { name := docName, content } ∈ built.1.files := by
  unfold buildPackage
  refine gathered.ensures.bind ?_
  rintro _ rfl
  refine (gives_formatted laidOut).ensures.bind ?_
  rintro _ rfl
  refine ensures_bind fun files => ?_
  refine ensures_bind fun _ => ?_
  exact ensures_pure List.mem_cons_self

/-! A market has a unit in each of two namespaces, which may differ in case only. -/

namespace Market

open ShapeForge.Document (Value)

def space (alike : Bool) : Bool → String
  | true => "shop"
  | false => if alike then "Shop" else "market.stall"

variable (alike : Bool)

def document : Value :=
  .plainObject [("smithy", .plainText "2.0"), ("shapes", .plainObject
    [(space alike false ++ "#Unit", .plainObject [("type", .plainText "string")]),
      ("shop#Unit", .plainObject [("type", .plainText "string")])])]

def unit (space : String) : Shape where
  id := ⟨space ++ "#Unit"⟩
  line := 1
  body := .simple .string

def loaded : LoadedModel where
  model := { version := "2.0", shapes := [unit (space alike false), unit "shop"] }

theorem obtained_loaded : (loaded alike).model.Obtained := by
  have read : Load.model "shop.json" (document alike) = .ok (loaded alike).model := by
    cases alike <;> rfl
  exact .loaded read

def merged : Merged where
  model := (loaded alike).model
  dependencies := {}

theorem merges : merge {} (loaded alike) = .ok (merged alike) := by
  cases alike <;> rfl

def plans : List PackagePlan :=
  planPackages (Settings.module {}) [] (loaded alike).model.namespaces

def plan : Bool → PackagePlan
  | true =>
    { space := "shop", name := "shop", shortName := "shop", importPath := "generated/shop",
      dir := "shop" }
  | false =>
    if alike then
      { space := "Shop", name := "shop", shortName := "shop", importPath := "generated/shop",
        dir := "shop" }
    else
      { space := "market.stall", name := "stall", shortName := "stall",
        importPath := "generated/market/stall", dir := "market/stall" }

theorem planOf?_plans (later : Bool) :
    planOf? (plans alike) (space alike later) = some (plan alike later) := by
  cases alike <;> cases later <;> rfl

def emitter (later : Bool) : Emitter where
  settings := {}
  model := (loaded alike).model
  plans := plans alike
  plan := plan alike later

def declared (later : Bool) : Contents where
  services := []
  shapes := [unit (space alike later)]

theorem gives_contents (later : Bool) :
    Gives (contents (emitter alike later)) (declared alike later) := by
  cases alike <;> cases later <;> exact fun _ => rfl

theorem succeeds_items (later : Bool) (file : CodeFile) :
    Succeeds (file.items (emitter alike later) (declared alike later)) := by
  cases alike <;> cases later <;> cases file <;> exact fun _ => ⟨_, rfl⟩

/-- The comment of the package of the shop. -/
def docText (later : Bool) : String :=
  "// Code generated by smithygen dev. DO NOT EDIT.\n\n" ++
    "// Package shop contains the declarations generated from the\n// " ++ space true later ++
    " namespace.\npackage shop\n"

theorem format_doc (later : Bool) :
    Layout.format (Code.text (docItems (emitter true later) [])) = .ok (docText later) := by
  apply eq_ok_of_toOption
  cases later <;> decide +kernel

/-- What becomes of a namespace of the market. -/
def outcome (later : Bool) : Outcome :=
  outcomeOf {} (loaded alike) (merged alike) (plans alike) (space alike later)

theorem outcome_ok (later : Bool) :
    ∃ package, (outcome alike later).result = .ok package ∧ package.space = space alike later ∧
      (alike = true → { name := docName, content := docText later } ∈ package.files) := by
  have whole : danglingIn (merged alike).model (space alike later) = [] := by
    revert alike later
    decide
  have named : (plan alike later).space = space alike later := by
    revert alike later
    decide
  rcases succeeds_buildPackage (gives_contents alike later) (succeeds_items alike later) {} with
    ⟨built, emitted⟩
  refine ⟨built.1, ?_, (ensures_space _ {} built emitted).trans named, ?_⟩
  · rw [outcome, result_outcomeOf whole (planOf?_plans alike later)]
    exact map_eq_ok.mpr ⟨built, emitted, rfl⟩
  · rintro rfl
    exact ensures_doc (gives_contents true later) (format_doc later) {} built emitted

theorem selectSpaces_loaded :
    selectSpaces [] (loaded alike).model.namespaces = [space alike false, space alike true] := by
  cases alike <;> rfl

theorem outcomesOf_loaded :
    outcomesOf {} (loaded alike) (merged alike) = [outcome alike false, outcome alike true] := by
  have spaces := congrArg
    (List.map (outcomeOf {} (loaded alike) (merged alike) (plans alike)))
    (selectSpaces_loaded alike)
  exact spaces

theorem generated :
    ∃ result first second,
      generateLoaded {} (loaded alike) = .ok (result, none) ∧
      result.packages = [first, second] ∧
      first.space = space alike false ∧ second.space = space alike true ∧
      (alike = true →
        { name := docName, content := docText false } ∈ first.files ∧
        { name := docName, content := docText true } ∈ second.files) := by
  rcases outcome_ok alike false with ⟨first, isFirst, firstSpace, firstDoc⟩
  rcases outcome_ok alike true with ⟨second, isSecond, secondSpace, secondDoc⟩
  have run := generateLoaded_eq (merges alike)
  rw [outcomesOf_loaded] at run
  -- What the outcomes are in full does not matter from here on.
  generalize outcome alike false = earlier at run isFirst
  generalize outcome alike true = later at run isSecond
  have noFaults : [earlier, later].filterMap Outcome.fault? = [] := by
    simp [Outcome.fault?, Outcome.cause?, isFirst, isSecond]
  have packages : [earlier, later].filterMap Outcome.package? = [first, second] := by
    simp [Outcome.package?, isFirst, isSecond, Except.toOption]
  have noFailure (result : GenerateResult) : failureOf {} [earlier, later] result = none := by
    unfold failureOf
    rw [noFaults]
    rfl
  simp only [noFailure] at run
  refine ⟨_, first, second, run, packages, firstSpace, secondSpace, ?_⟩
  intro isAlike
  exact ⟨firstDoc isAlike, secondDoc isAlike⟩

def tree : FileTree where
  entries := [(["out"], .directory)]

theorem isEmptyDirectory_tree : IsEmptyDirectory tree (Path.place "out") := by
  have place : Path.place "out" = ["out"] := by decide
  rw [place]
  constructor
  · constructor
    · intro init isInit shorter
      rcases List.prefix_cons_iff.mp isInit with rfl | ⟨rest, rfl, isRest⟩
      · rfl
      · rw [List.prefix_nil.mp isRest] at shorter
        exact absurd rfl shorter
    · decide
  · intro below some
    have deeper : (["out"] == ["out"] ++ below) = false := by
      simpa using some
    simp [FileTree.isGiven, tree, some, FileTree.entry?]

end Market

open Market in
theorem packages_written_market :
    ∃ result failure after,
      generateLoaded {} (loaded false) = .ok (result, failure) ∧
      result.packages.map (·.space) = ["market.stall", "shop"] ∧
      Disk.on tree (writePackages "out" result.packages) = (.ok (), after) ∧
      ∀ package ∈ result.packages, ∀ file ∈ package.files,
        after.readFile (Path.join ["out", package.dir, file.name]) = .ok file.content := by
  rcases generated false with ⟨result, first, second, run, packages, isFirst, isSecond, -⟩
  rcases packages_written (obtained_loaded false) run (by decide) isEmptyDirectory_tree with
    ⟨after, written, -, kept⟩
  have spaces : result.packages.map (·.space) = ["market.stall", "shop"] := by
    rw [packages, List.map_cons, isFirst, List.map_cons, isSecond]
    rfl
  refine ⟨result, none, after, run, spaces, written, ?_⟩
  intro package isPackage file isFile
  refine kept package isPackage file isFile fun other isOther follows alike => ?_
  have isSpace := List.mem_map_of_mem (f := (·.space)) isPackage
  have isOtherSpace := List.mem_map_of_mem (f := (·.space)) isOther
  rw [spaces] at isSpace isOtherSpace
  have apart : ∀ space ∈ ["market.stall", "shop"], ∀ other ∈ ["market.stall", "shop"],
      space < other → Text.lower other ≠ Text.lower space := by
    decide
  exact absurd alike (apart _ isSpace _ isOtherSpace follows)

open Market in
/-- The packages of two namespaces that differ in case, where the comment of the first is lost. -/
theorem packages_overwritten_market :
    (loaded true).model.Obtained ∧ IsEmptyDirectory tree (Path.place "out") ∧
    ∃ result after,
      generateLoaded {} (loaded true) = .ok (result, none) ∧
      Disk.on tree (writePackages "out" result.packages) = (.ok (), after) ∧
      ∃ package ∈ result.packages, ∃ file ∈ package.files,
        after.readFile (Path.join ["out", package.dir, file.name]) ≠ .ok file.content := by
  rcases generated true with ⟨result, first, second, run, packages, isFirst, isSecond, docs⟩
  rcases docs rfl with ⟨firstDoc, secondDoc⟩
  rcases placed_of_generated (obtained_loaded true) run with ⟨placed, -⟩
  rcases run_writePackages placed isEmptyDirectory_tree.tidy with ⟨after, ran, -, -⟩
  have ofFirst : first.Placed := placed first (by simp [packages])
  have ofSecond : second.Placed := placed second (by simp [packages])
  have written := (run_writePackages_of_holds (by decide) isEmptyDirectory_tree.holds).trans ran
  refine ⟨obtained_loaded true, isEmptyDirectory_tree, result, after, run, written,
    first, by simp [packages], _, firstDoc, ?_⟩
  have last : result.packages = [first] ++ second :: [] := packages
  have held := holds_of_run last placed isEmptyDirectory_tree.tidy ran secondDoc nofun
  have shared : first.place "out" = second.place "out" := by
    rw [ofFirst.place_eq_iff ofSecond "out", isFirst, isSecond]
    decide
  have isClean : Path.IsClean (Path.join ["out", first.dir, docName]) :=
    Path.isClean_join "out" List.mem_cons_self (by decide)
  intro read
  rw [FileTree.readFile_of_clean isClean, ofFirst.place_file "out" firstDoc, shared] at read
  have same := FileEntry.file.inj (read.unique held)
  exact absurd same (by decide)

end ShapeForge.Emit
