import ShapeForge.Proofs.Files.Writing
import ShapeForge.Proofs.Publishing.Versions
import ShapeForge.Publisher

/-!
# Published versions

A publication goes into a directory of its own: under the package, named for a version that comes
after all that are there.  Whatever becomes of it, no earlier version is touched, and the next one
goes elsewhere.
-/

namespace ShapeForge.Publisher

variable {publisher : Publisher} {tree : FileTree} {space : String} {version : Version}
variable {files : List Emit.PackageFile}

/-! ## Directories of versions -/

theorem text_ne_empty (version : Version) : version.text ≠ "" := by
  intro empty
  have chars := congrArg String.toList empty
  simp [Version.text] at chars

theorem isClean_versionDir (publisher : Publisher) (space : String) (version : Version) :
    Path.IsClean (publisher.versionDir space version) :=
  Path.isClean_join version.text (by simp) (text_ne_empty version)

theorem isClean_packageDir (registry : Registry) {package : String} (name : String)
    (given : package ≠ "") :
    Path.IsClean (registry.packageDir package name) :=
  Path.isClean_join package (by simp) given

theorem isPlain_text (isRelease : version.IsRelease) : Path.IsPlain version.text := by
  have chars := Version.toList_text isRelease
  have digits (value : Nat) : ∀ c ∈ Nat.toDigits 10 value, c.isDigit = true := fun c isDigit =>
    Nat.isDigit_of_mem_toDigits (by decide) (by decide) isDigit
  have starts : ∃ c ∈ version.text.toList, c.isDigit = true := by
    cases first : Nat.toDigits 10 version.major with
    | nil => exact absurd first Nat.toDigits_ne_nil
    | cons c rest =>
      exact ⟨c, by simp [chars, first], digits version.major c (by simp [first])⟩
  rcases starts with ⟨c, isChar, isDigit⟩
  have notDot : c ≠ '.' := by
    rintro rfl
    cases isDigit
  refine ⟨text_ne_empty version, ?_, ?_, ?_⟩
  · intro here
    rw [here] at isChar
    exact notDot (by simpa using isChar)
  · intro up
    rw [up] at isChar
    exact notDot (by simpa using isChar)
  · intro isSlash
    rw [chars] at isSlash
    simp only [List.mem_append, List.mem_cons] at isSlash
    rcases isSlash with isMajor | isDot | isMinor | isDot | isPatch
    · exact absurd (digits _ _ isMajor) (by decide)
    · exact absurd isDot (by decide)
    · exact absurd (digits _ _ isMinor) (by decide)
    · exact absurd isDot (by decide)
    · exact absurd (digits _ _ isPatch) (by decide)

theorem place_versionDir (publisher : Publisher) (space : String) (isRelease : version.IsRelease) :
    Path.place (publisher.versionDir space version) =
      Path.place (publisher.registry.packageDir space publisher.name) ++ [version.text] :=
  Path.place_join _ (isPlain_text isRelease)

theorem place_packageDir (registry : Registry) {package : String} (name : String)
    (plain : Path.IsPlain package) :
    Path.place (registry.packageDir package name) =
      Path.place (Path.join [registry.root, name]) ++ [package] := by
  have whole := Text.split_of_not_mem plain.whole
  have elements : ∀ element ∈ Text.split '/' package, Path.IsPlain element := by
    simpa [whole] using plain
  have joined := Path.place_join_concat [registry.root, name] elements
  rw [whole] at joined
  exact joined

/-! ## Publishing -/

def alreadyPublished (publisher : Publisher) (space : String) (version : Version) : Fault :=
  .hinted ("remove " ++ publisher.versionDir space version ++ " or publish a new version")
    (.plain ("pipeline: " ++ space ++ " " ++ version.text ++ " is already published"))

theorem run_publish
    (publisher : Publisher) (space : String) (files : List Emit.PackageFile) (version : Version)
    (tree : FileTree) :
    (publisher.publish space files version).run tree =
      if tree.exists? (publisher.versionDir space version) then
        (.error (publisher.alreadyPublished space version), tree)
      else
        (Disk.within (.context ("pipeline: publishing " ++ space ++ " " ++ version.text))
          (Emit.writeDir (publisher.versionDir space version) files)).run tree := by
  unfold publish
  rw [Recording.run_bind]
  show (if tree.exists? (publisher.versionDir space version) then
    throw (publisher.alreadyPublished space version) >>= fun _ => _ else _ : Disk Unit).run tree = _
  split <;> rfl

/-- Publishing is refused where the version is there, and else ends like writing its files. -/
theorem publish_cases
    (publisher : Publisher) (space : String) (files : List Emit.PackageFile) (version : Version)
    (tree : FileTree) :
    let dir := publisher.versionDir space version
    let run := (publisher.publish space files version).run tree
    (tree.exists? dir = true ∧ run = (.error (publisher.alreadyPublished space version), tree)) ∨
    tree.exists? dir = false ∧ ∃ outcome, Emit.Leaves tree (Path.place dir) files outcome ∧
      run = (outcome.1.mapError
        (.context ("pipeline: publishing " ++ space ++ " " ++ version.text)), outcome.2) := by
  intro dir run
  simp only [run, run_publish]
  cases present : tree.exists? dir with
  | true => exact .inl ⟨rfl, if_pos rfl⟩
  | false =>
    have leaves := Emit.leaves_writeDir (publisher.isClean_versionDir space version) files tree
    refine .inr ⟨rfl, _, leaves, ?_⟩
    rw [if_neg Bool.false_ne_true, Disk.run_within]
    cases (Emit.writeDir dir files).run tree with
    | mk outcome after => cases outcome <;> rfl

/-- Publishing loses nothing, whatever becomes of it. -/
theorem extends_publish
    (publisher : Publisher) (space : String) (files : List Emit.PackageFile) (version : Version)
    (tree : FileTree) :
    tree.Extends ((publisher.publish space files version).run tree).2 := by
  rcases publish_cases publisher space files version tree with
    ⟨-, run⟩ | ⟨absent, outcome, leaves, run⟩
  · rw [run]
    exact .refl tree
  · rw [run]
    apply leaves.extends_of_absent
    intro entry holds
    have present := (FileTree.exists?_of_clean (publisher.isClean_versionDir space version)).mpr
      ⟨entry, holds⟩
    rw [absent] at present
    cases present

end ShapeForge.Publisher

namespace ShapeForge.Registry

variable {registry : Registry} {tree : FileTree} {package name : String} {version : Version}
variable {versions : List Version}

/-! ## The versions of a package -/

theorem versions_eq_ok :
    registry.versions tree package name = .ok versions ↔
      (∃ entries, tree.readDir (registry.packageDir package name) = .ok entries ∧
        versions = Version.sort (entries.filterMap version?)) ∨
      tree.readDir (registry.packageDir package name) = .error .missing ∧ versions = [] := by
  unfold Registry.versions
  cases listed : tree.readDir (registry.packageDir package name) with
  | ok entries => simp [listed, eq_comm]
  | error problem => cases problem <;> simp [listed, eq_comm]

theorem wellFormed_versions (listed : registry.versions tree package name = .ok versions) :
    ∀ version ∈ versions, version.WellFormed := by
  rcases versions_eq_ok.mp listed with ⟨entries, -, rfl⟩ | ⟨-, rfl⟩
  · intro version isVersion
    rw [Version.mem_sort, List.mem_filterMap] at isVersion
    rcases isVersion with ⟨⟨name, entry⟩, -, read⟩
    cases entry with
    | file text => cases read
    | directory => exact Version.wellFormed_of_parse? read
  · nofun

/-- A package that cannot be read is told apart from one that has no versions. -/
theorem is_noVersions_of_versions {fault : Fault}
    (failed : registry.versions tree package name = .error fault) :
    fault.is .noVersions = false := by
  unfold Registry.versions at failed
  cases listed : tree.readDir (registry.packageDir package name) with
  | ok entries => simp [listed] at failed
  | error problem =>
    cases problem <;> simp only [listed] at failed <;> cases failed <;> rfl

theorem latest_of_versions (listed : registry.versions tree package name = .ok versions) :
    registry.latest tree package name =
      match versions.getLast? with
      | some version => .ok version
      | none => .error (.noVersions package name) := by
  unfold latest
  rw [listed]
  show (match versions.getLast? with
    | some version => pure version
    | none => throw (.noVersions package name) : Except Fault Version) = _
  cases versions.getLast? <;> rfl

/-- The next version is the one after the latest, or the first. -/
theorem next_eq_ok :
    registry.next tree package name = .ok version ↔
      ∃ versions, registry.versions tree package name = .ok versions ∧
        version = (versions.getLast?.map Version.nextPatch).getD Version.initial := by
  cases listed : registry.versions tree package name with
  | error fault =>
    have failed : registry.next tree package name = .error fault := by
      unfold next latest
      rw [listed]
      exact if_neg (Bool.eq_false_iff.mp (is_noVersions_of_versions listed))
    rw [failed]
    exact iff_of_false nofun nofun
  | ok versions =>
    have computed : registry.next tree package name =
        .ok ((versions.getLast?.map Version.nextPatch).getD Version.initial) := by
      unfold next
      rw [latest_of_versions listed]
      cases versions.getLast? <;> rfl
    simp [computed, eq_comm]

theorem isRelease_next (computed : registry.next tree package name = .ok version) :
    version.IsRelease := by
  rcases next_eq_ok.mp computed with ⟨versions, listed, rfl⟩
  cases last : versions.getLast? with
  | none => exact Version.isRelease_initial
  | some latest =>
    exact Version.isRelease_nextPatch
      (wellFormed_versions listed latest (List.mem_of_getLast? last))

/-- The next version comes after every version of the package. -/
theorem precedence_next (listed : registry.versions tree package name = .ok versions)
    (room : ∀ older ∈ versions, older.patch + 1 < Version.limit)
    (computed : registry.next tree package name = .ok version) :
    ∀ older ∈ versions, Version.precedence older version = .lt := by
  rcases next_eq_ok.mp computed with ⟨same, also, rfl⟩
  rw [listed] at also
  cases also
  intro older isOlder
  cases last : versions.getLast? with
  | none =>
    rw [List.getLast?_eq_none_iff.mp last] at isOlder
    cases isOlder
  | some latest =>
    have isLatest := List.mem_of_getLast? last
    have wellFormed := wellFormed_versions listed
    have bounded : Version.precedence older latest ≠ .gt := by
      rcases versions_eq_ok.mp listed with ⟨entries, -, rfl⟩ | ⟨-, rfl⟩
      · simp only [Version.mem_sort] at wellFormed isOlder
        exact Version.precedence_latest wellFormed last older isOlder
      · cases isOlder
    exact Version.precedence_trans_of_le (wellFormed older isOlder) (wellFormed latest isLatest)
      (Version.isRelease_nextPatch (wellFormed latest isLatest)).wellFormed bounded
      (Version.precedence_nextPatch (room latest isLatest))

/-- A directory that is named for a version is one of the versions. -/
theorem mem_versions {directory : String} {older : Version} (given : package ≠ "")
    (listed : registry.versions tree package name = .ok versions)
    (read : Version.parse? directory = some older)
    (holds : tree.Holds (Path.place (registry.packageDir package name) ++ [directory]) .directory) :
    older ∈ versions := by
  have isClean := Publisher.isClean_packageDir registry name given
  have made : FileTree.isGiven
      (Path.place (registry.packageDir package name) ++ [directory]) = false := by
    have notRoot : directory ≠ "/" := by
      rintro rfl
      rw [show Version.parse? "/" = none by decide] at read
      cases read
    have notUp : directory ≠ ".." := by
      rintro rfl
      rw [show Version.parse? ".." = none by decide] at read
      cases read
    simp [FileTree.isGiven, List.append_eq_singleton_iff, notRoot, notUp]
  have present := (FileTree.status_of_clean isClean).mpr holds.parent
  rcases versions_eq_ok.mp listed with ⟨entries, readDir, rfl⟩ | ⟨missing, -⟩
  · rw [Version.mem_sort, List.mem_filterMap]
    exact ⟨(directory, .directory), FileTree.mem_readDir isClean readDir holds made, read⟩
  · rw [FileTree.readDir, present] at missing
    cases missing

end ShapeForge.Registry

namespace ShapeForge.Publisher

/-! ## Attempts -/

/-- A package that is to be published. -/
structure Attempt where
  space : String
  files : List Emit.PackageFile

def next (publisher : Publisher) (tree : FileTree) (space : String) : Except Fault Version :=
  publisher.registry.next tree space publisher.name

def attempt (publisher : Publisher) (attempt : Attempt) : Disk Unit := do
  let version ← Disk.ask (publisher.next · attempt.space)
  publisher.publish attempt.space attempt.files version

/-- The tree after some attempts, which may have failed at any point. -/
def after (publisher : Publisher) (tree : FileTree) (attempts : List Attempt) : FileTree :=
  attempts.foldl (fun tree attempt => (Disk.on tree (publisher.attempt attempt)).2) tree

/-- The place of a directory in the directory of a package. -/
def placeOf (publisher : Publisher) (space directory : String) : List String :=
  Path.place (publisher.registry.packageDir space publisher.name) ++ [directory]

/-- Everything stands in a directory, and what is named for a version is one. -/
structure Orderly (publisher : Publisher) (tree : FileTree) : Prop where
  closed : tree.Closed
  directories : ∀ space directory version text, Path.IsPlain space →
    Version.parse? directory = some version →
    tree.entry? (publisher.placeOf space directory) ≠ some (.file text)

/-- No version of a namespace has the last patch that there can be. -/
def HasRoom (publisher : Publisher) (tree : FileTree) (space : String) : Prop :=
  ∀ versions, publisher.registry.versions tree space publisher.name = .ok versions →
    ∀ version ∈ versions, version.patch + 1 < Version.limit

section Attempts

variable {publisher : Publisher} {tree : FileTree} {space : String} {version : Version}

theorem hasRoom_of_versions {versions : List Version}
    (listed : publisher.registry.versions tree space publisher.name = .ok versions)
    (room : ∀ version ∈ versions, version.patch + 1 < Version.limit) :
    publisher.HasRoom tree space := by
  intro same also
  rw [listed] at also
  cases also
  exact room

theorem run_attempt (publisher : Publisher) (attempt : Attempt) (tree : FileTree) :
    (publisher.attempt attempt).run tree =
      match publisher.next tree attempt.space with
      | .ok version => (publisher.publish attempt.space attempt.files version).run tree
      | .error fault => (.error fault, tree) := by
  rw [Publisher.attempt, Recording.run_bind, Disk.run_ask]
  cases publisher.next tree attempt.space <;> rfl

theorem extends_attempt (publisher : Publisher) (attempt : Attempt) (tree : FileTree) :
    tree.Extends (Disk.on tree (publisher.attempt attempt)).2 := by
  show tree.Extends ((publisher.attempt attempt).run tree).2
  rw [run_attempt]
  cases publisher.next tree attempt.space with
  | error fault => exact .refl tree
  | ok version => exact extends_publish publisher attempt.space attempt.files version tree

theorem after_append (publisher : Publisher) (tree : FileTree) (first second : List Attempt) :
    publisher.after tree (first ++ second) =
      publisher.after (publisher.after tree first) second :=
  List.foldl_append

theorem extends_after (publisher : Publisher) (tree : FileTree) (attempts : List Attempt) :
    tree.Extends (publisher.after tree attempts) := by
  induction attempts generalizing tree with
  | nil => exact .refl tree
  | cons attempt rest ih => exact (publisher.extends_attempt attempt tree).trans (ih _)

/-- The versions that are there come before the next one. -/
theorem precedence_of_holds {directory : String} {older : Version}
    (given : space ≠ "") (room : publisher.HasRoom tree space)
    (computed : publisher.next tree space = .ok version)
    (read : Version.parse? directory = some older)
    (holds : tree.Holds (publisher.placeOf space directory) .directory) :
    Version.precedence older version = .lt := by
  rcases Registry.next_eq_ok.mp computed with ⟨versions, listed, -⟩
  exact Registry.precedence_next listed (room versions listed) computed older
    (Registry.mem_versions given listed read holds)

/-- So the next one is not there. -/
theorem absent_next (orderly : publisher.Orderly tree) (plain : Path.IsPlain space)
    (room : publisher.HasRoom tree space) (computed : publisher.next tree space = .ok version) :
    tree.exists? (publisher.versionDir space version) = false := by
  rw [← Bool.not_eq_true, FileTree.exists?_of_clean (publisher.isClean_versionDir space version)]
  rintro ⟨entry, holds⟩
  have isRelease := Registry.isRelease_next computed
  rw [place_versionDir publisher space isRelease] at holds
  rcases Version.parse?_text isRelease with ⟨older, read, same⟩
  cases entry with
  | file text => exact orderly.directories space version.text older text plain read holds.here
  | directory =>
    have less := precedence_of_holds plain.given room computed read holds
    rw [same] at less
    cases less

/-- Nothing is in the way of the next one. -/
theorem isFree_next (orderly : publisher.Orderly tree) (plain : Path.IsPlain space)
    (computed : publisher.next tree space = .ok version) :
    tree.IsFree (Path.place (publisher.versionDir space version)) := by
  have isClean := isClean_packageDir publisher.registry publisher.name plain.given
  have isRelease := Registry.isRelease_next computed
  rcases Version.parse?_text isRelease with ⟨older, read, -⟩
  rw [place_versionDir publisher space isRelease]
  apply FileTree.IsFree.child
  · rcases Registry.next_eq_ok.mp computed with ⟨versions, listed, -⟩
    rcases Registry.versions_eq_ok.mp listed with ⟨entries, readDir, -⟩ | ⟨missing, -⟩
    · exact (FileTree.holds_of_readDir isClean readDir).isFree
    · exact orderly.closed.isFree_of_missing
        (FileTree.walk_of_readDir_missing isClean.ne_empty missing)
  · intro text
    exact orderly.directories space version.text older text plain read

/-- What an attempt does once it has a version: it leaves a directory of that version with some of
the files, where there was none. -/
structure Placed (publisher : Publisher) (tree : FileTree) (attempt : Attempt) (version : Version) :
    Prop where
  absent : tree.exists? (publisher.versionDir attempt.space version) = false
  accepted : (Disk.on tree (publisher.attempt attempt)).1 ≠
    .error (publisher.alreadyPublished attempt.space version)
  wrote : ∃ done, Emit.Wrote tree (Disk.on tree (publisher.attempt attempt)).2
    (Path.place (publisher.versionDir attempt.space version)) done

theorem placed_attempt {attempt : Attempt}
    (orderly : publisher.Orderly tree) (plain : Path.IsPlain attempt.space)
    (room : publisher.HasRoom tree attempt.space)
    (computed : publisher.next tree attempt.space = .ok version) :
    publisher.Placed tree attempt version := by
  have absent := absent_next orderly plain room computed
  have free := isFree_next orderly plain computed
  have run : Disk.on tree (publisher.attempt attempt) =
      (publisher.publish attempt.space attempt.files version).run tree := by
    have ran := run_attempt publisher attempt tree
    rwa [computed] at ran
  rcases publish_cases publisher attempt.space attempt.files version tree with
    ⟨present, -⟩ | ⟨-, outcome, leaves, ended⟩
  · rw [absent] at present
    cases present
  · refine ⟨absent, ?_, ?_⟩
    · rw [run, ended]
      cases outcome.1 <;> nofun
    · rw [run, ended]
      exact leaves.exists_wrote free

/-- An attempt keeps the tree in order. -/
theorem orderly_attempt {attempt : Attempt}
    (orderly : publisher.Orderly tree) (plain : Path.IsPlain attempt.space)
    (room : publisher.HasRoom tree attempt.space) :
    publisher.Orderly (Disk.on tree (publisher.attempt attempt)).2 := by
  cases computed : publisher.next tree attempt.space with
  | error fault =>
    have ran := run_attempt publisher attempt tree
    rw [computed] at ran
    have same : (Disk.on tree (publisher.attempt attempt)).2 = tree := congrArg Prod.snd ran
    rwa [same]
  | ok version =>
    rcases (placed_attempt orderly plain room computed).wrote with ⟨done, wrote⟩
    refine ⟨wrote.closed orderly.closed, ?_⟩
    intro space directory older text isSpace read listed
    rcases wrote.entry?_cases listed with ⟨file, -, same, -⟩ | ⟨-, isDirectory⟩ | old
    · -- The files of a version stand one deeper than the versions do.
      have isRelease := Registry.isRelease_next computed
      have deeper := congrArg List.length same
      simp [placeOf, place_versionDir publisher attempt.space isRelease,
        place_packageDir _ _ isSpace, place_packageDir _ _ plain] at deeper
    · cases isDirectory
    · exact orderly.directories space directory older text isSpace read old

/-- So do attempts one after another. -/
theorem orderly_after {attempts earlier later : List Attempt} (orderly : publisher.Orderly tree)
    (plain : ∀ attempt ∈ attempts, Path.IsPlain attempt.space)
    (room : ∀ before attempt rest, attempts = before ++ attempt :: rest →
      publisher.HasRoom (publisher.after tree before) attempt.space)
    (cut : attempts = earlier ++ later) :
    publisher.Orderly (publisher.after tree earlier) := by
  induction earlier using List.reverseRecOn generalizing later with
  | nil => exact orderly
  | append_singleton before attempt ih =>
    rw [List.append_assoc, List.singleton_append] at cut
    rw [after_append]
    exact orderly_attempt (ih cut) (plain attempt (by simp [cut])) (room before attempt later cut)

/-- The directories of two attempts are apart: the first is there when the second has its
version. -/
theorem placed_apart {first rest : List Attempt} {other attempt : Attempt} {used : Version}
    (otherPlaced : publisher.Placed (publisher.after tree first) other used)
    (placed : publisher.Placed (publisher.after tree (first ++ other :: rest)) attempt version) :
    Path.place (publisher.versionDir other.space used) ≠
      Path.place (publisher.versionDir attempt.space version) := by
  intro same
  rcases otherPlaced.wrote with ⟨done, wrote⟩
  have kept := publisher.extends_after _ rest _ _ wrote.holds_base
  have isClean := publisher.isClean_versionDir attempt.space version
  have absent := placed.absent
  rw [after_append, ← Bool.not_eq_true, FileTree.exists?_of_clean isClean, ← same] at absent
  exact absent ⟨.directory, kept⟩

end Attempts

/-! ## Versions move forward -/

/-- However attempts end, each has a version after all that are there: it is not refused, goes to
a directory that none before it had, and changes no file that there was.  A namespace names one
directory, which is all that its dotted identifiers can do. -/
theorem published_versions_advance
    {publisher : Publisher} {tree : FileTree} {attempts : List Attempt}
    (orderly : publisher.Orderly tree)
    (plain : ∀ attempt ∈ attempts, Path.IsPlain attempt.space)
    (room : ∀ before attempt rest, attempts = before ++ attempt :: rest →
      publisher.HasRoom (publisher.after tree before) attempt.space)
    {earlier later : List Attempt} {attempt : Attempt} {version : Version}
    (cut : attempts = earlier ++ attempt :: later)
    (computed : publisher.next (publisher.after tree earlier) attempt.space = .ok version) :
    let before := publisher.after tree earlier
    let run := Disk.on before (publisher.attempt attempt)
    let dir := publisher.versionDir attempt.space version
    (∀ directory older, Version.parse? directory = some older →
      before.Holds (publisher.placeOf attempt.space directory) .directory →
      Version.precedence older version = .lt) ∧
    run.1 ≠ .error (publisher.alreadyPublished attempt.space version) ∧
    run.2.Holds (Path.place dir) .directory ∧
    (∀ first other rest used, earlier = first ++ other :: rest →
      publisher.next (publisher.after tree first) other.space = .ok used →
      Path.place (publisher.versionDir other.space used) ≠ Path.place dir) ∧
    ∀ path text, before.readFile path = .ok text → run.2.readFile path = .ok text := by
  have placed : ∀ {first rest other used}, attempts = first ++ other :: rest →
      publisher.next (publisher.after tree first) other.space = .ok used →
      publisher.Placed (publisher.after tree first) other used := by
    intro first rest other used isCut chosen
    exact placed_attempt (orderly_after orderly plain room isCut) (plain other (by simp [isCut]))
      (room first other rest isCut) chosen
  intro before run dir
  rcases (placed cut computed).wrote with ⟨done, wrote⟩
  refine ⟨?_, (placed cut computed).accepted, wrote.holds_base, ?_, ?_⟩
  · intro directory older read holds
    exact precedence_of_holds (plain attempt (by simp [cut])).given (room earlier attempt later cut)
      computed read holds
  · rintro first other rest used rfl chosen
    have cutFirst : attempts = first ++ other :: (rest ++ attempt :: later) := by simp [cut]
    exact placed_apart (placed cutFirst chosen) (placed cut computed)
  · intro path text read
    exact (publisher.extends_attempt attempt before).readFile read

namespace Shop

def publisher : Publisher where
  registry := { root := "registry" }
  name := "local"

def dir : String := publisher.registry.packageDir "shop" "local"

def tree : FileTree where
  entries :=
    [(["registry"], .directory), (["registry", "local"], .directory),
      (["registry", "local", "shop"], .directory),
      (["registry", "local", "shop", "1.3.0-rc.1"], .directory),
      (["registry", "local", "shop", "1.3.0-rc.1", "model.json"], .file "")]

/-- An attempt that fails at its second file. -/
def spoiled : Attempt where
  space := "shop"
  files := [{ name := "doc.go", content := "" }, { name := "a/b", content := "" }]

def whole : Attempt where
  space := "shop"
  files := [{ name := "doc.go", content := "" }]

def between : FileTree where
  entries := tree.entries ++
    [(["registry", "local", "shop", "1.3.0"], .directory),
      (["registry", "local", "shop", "1.3.0", "doc.go"], .file "")]
  stamps :=
    [(["registry", "local", "shop", "1.3.0", "doc.go"], 2),
      (["registry", "local", "shop", "1.3.0"], 1)]
  changes := 2

def candidate : Version where
  major := 1
  minor := 3
  patch := 0
  preRelease := ["rc", "1"]
  original := "1.3.0-rc.1"

def release (patch : Nat) (text : String) : Version where
  major := 1
  minor := 3
  patch := patch
  original := text

theorem on_spoiled :
    (Disk.on tree (publisher.attempt spoiled)).map Except.toOption id = (none, between) := by
  decide +kernel

theorem after_spoiled : publisher.after tree [spoiled] = between :=
  congrArg Prod.snd on_spoiled

theorem versions_tree : publisher.registry.versions tree "shop" "local" = .ok [candidate] := by
  have listed : tree.readDir dir = .ok [("1.3.0-rc.1", .directory)] := by decide +kernel
  refine Registry.versions_eq_ok.mpr (.inl ⟨_, listed, ?_⟩)
  decide +kernel

-- The entries stand in the order of their making, and are sorted by name and then by version.
theorem readDir_between :
    between.readDir dir = .ok [("1.3.0", .directory), ("1.3.0-rc.1", .directory)] := by
  have isDirectory : between.status dir = .ok .directory := by decide
  have inside : between.entries.filterMap (fun listed =>
      if listed.1.dropLast == Path.place dir then listed.1.getLast?.map (·, listed.2) else none) =
      [("1.3.0-rc.1", .directory), ("1.3.0", .directory)] := by
    decide
  rw [FileTree.readDir, isDirectory]
  apply congrArg Except.ok
  refine (congrArg (List.mergeSort · _) inside).trans ?_
  simp [List.mergeSort]

theorem versions_between :
    publisher.registry.versions between "shop" "local" = .ok [candidate, release 0 "1.3.0"] := by
  refine Registry.versions_eq_ok.mpr (.inl ⟨_, readDir_between, ?_⟩)
  have read : [("1.3.0", .directory), ("1.3.0-rc.1", .directory)].filterMap Registry.version? =
      [release 0 "1.3.0", candidate] := by
    decide
  have order : Version.precedence (release 0 "1.3.0") candidate = .gt := by decide
  simp [read, Version.sort, List.mergeSort, order]

theorem orderly_tree : publisher.Orderly tree where
  closed := FileTree.closed_of_entries (by decide)
  directories := by
    intro space directory version text isPlain _ listed
    have isEntry := (FileTree.mem_entries listed).resolve_left (by simp)
    have root : Path.place (Path.join [publisher.registry.root, publisher.name]) =
        ["registry", "local"] := by
      decide
    simp [tree, placeOf, place_packageDir _ _ isPlain, root] at isEntry

end Shop

open Shop in
theorem published_versions_advance_shop :
    (Disk.on tree (publisher.attempt spoiled)).1.toOption = none ∧
    publisher.next between "shop" = .ok (release 1 "1.3.1") ∧
    Version.precedence (release 0 "1.3.0") (release 1 "1.3.1") = .lt ∧
    (Disk.on between (publisher.attempt whole)).1 ≠
      .error (publisher.alreadyPublished "shop" (release 1 "1.3.1")) := by
  have plain : ∀ attempt ∈ [spoiled, whole], Path.IsPlain attempt.space := by decide
  have room : ∀ before attempt rest, [spoiled, whole] = before ++ attempt :: rest →
      publisher.HasRoom (publisher.after tree before) attempt.space := by
    intro before attempt rest cut
    rcases List.cons_eq_append_iff.mp cut with ⟨rfl, same⟩ | ⟨others, rfl, second⟩
    · cases same
      exact hasRoom_of_versions versions_tree (by decide)
    · rcases List.cons_eq_append_iff.mp second with ⟨rfl, same⟩ | ⟨others, rfl, third⟩
      · cases same
        rw [after_spoiled]
        exact hasRoom_of_versions versions_between (by decide)
      · simp at third
  have computed : publisher.next between "shop" = .ok (release 1 "1.3.1") :=
    Registry.next_eq_ok.mpr ⟨_, versions_between, by decide +kernel⟩
  have holds : between.Holds (publisher.placeOf "shop" "1.3.0") .directory :=
    FileTree.Closed.holds (FileTree.closed_of_entries (by decide)) (by decide)
  have advance := published_versions_advance orderly_tree plain room
    (show _ = [spoiled] ++ _ from rfl) (after_spoiled ▸ computed)
  rw [after_spoiled] at advance
  rcases advance with ⟨after, accepted, -⟩
  have read : Version.parse? "1.3.0" = some (release 0 "1.3.0") := by decide
  exact ⟨congrArg Prod.fst on_spoiled, computed, after "1.3.0" _ read holds, accepted⟩

end ShapeForge.Publisher
