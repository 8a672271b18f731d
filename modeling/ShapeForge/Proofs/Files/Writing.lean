import Mathlib.Data.List.Nodup
import ShapeForge.Emit.Write
import ShapeForge.Proofs.Files.Tree
import ShapeForge.Proofs.Recording

/-!
# What writing files leaves

Files are written into a directory one after another.  However that ends, the tree then has the
directory with the files up to the first that could not be written, and is otherwise the same.
-/

namespace ShapeForge.Disk

theorem run_ask {α : Type} (question : FileTree → Except Fault α) (tree : FileTree) :
    (ask question).run tree = (question tree, tree) := by
  unfold ask
  rw [Recording.run_bind]
  show (_ : Disk α).run tree = _
  cases question tree <;> rfl

theorem run_change (step : FileTree → Except Fault FileTree) (tree : FileTree) :
    (change step).run tree =
      match step tree with
      | .ok after => (.ok (), after)
      | .error fault => (.error fault, tree) := by
  unfold change
  rw [Recording.run_bind]
  show (_ : Disk Unit).run tree = _
  cases step tree <;> rfl

theorem run_within {α : Type} (wider : Fault → Fault) (work : Disk α) (tree : FileTree) :
    (within wider work).run tree =
      match work.run tree with
      | (.ok result, after) => (.ok result, after)
      | (.error fault, after) => (.error (wider fault), after) := by
  unfold within
  simp only [ExceptT.run_mk, bind, StateT.bind]
  cases work.run tree with
  | mk outcome after => cases outcome <;> rfl

theorem run_each_append {α : Type} {step : α → Disk Unit} {first : List α} {tree after : FileTree}
    (done : (each step first).run tree = (.ok (), after)) (second : List α) :
    (each step (first ++ second)).run tree = (each step second).run after := by
  induction first generalizing tree with
  | nil =>
    cases done
    rfl
  | cons item rest ih =>
    rw [each, Recording.run_bind] at done
    rw [List.cons_append, each, Recording.run_bind]
    cases ran : (step item).run tree with
    | mk outcome between =>
      rw [ran] at done
      cases outcome with
      | error fault => cases done
      | ok value => exact ih done

end ShapeForge.Disk

namespace ShapeForge.Emit

variable {tree after : FileTree} {place base : List String} {entry : FileEntry}
variable {files done : List PackageFile} {file : PackageFile}

/-- A file is written, or the tree stays as it is. -/
theorem run_writePackageFile (dir : String) (file : PackageFile) (tree : FileTree) :
    let path := Path.join [dir, file.name]
    let run := (writePackageFile dir file).run tree
    (run = (.ok (), tree.put (Path.place path) (.file file.content)) ∧
      Path.base file.name = file.name ∧ tree.TakesFile path) ∨
    (∃ fault, run = (.error fault, tree)) ∧
      (Path.base file.name ≠ file.name ∨ ¬ tree.TakesFile path) := by
  intro path run
  by_cases own : Path.base file.name = file.name
  · have accepted : (Path.base file.name != file.name) = false := by simp [own]
    have isRun : run = (Disk.within (.context ("failed to write file " ++ file.name))
        (Disk.change (·.writeFile path file.content))).run tree := by
      simp only [run, writePackageFile, accepted]
      rfl
    rw [isRun, Disk.run_within, Disk.run_change]
    rcases tree.writeFile_cases path file.content with ⟨written, takes⟩ | ⟨⟨fault, failed⟩, unfit⟩
    · rw [written]
      exact .inl ⟨rfl, own, takes⟩
    · rw [failed]
      exact .inr ⟨⟨_, rfl⟩, .inr unfit⟩
  · have refused : (Path.base file.name != file.name) = true := by simp [own]
    refine .inr ⟨?_, .inl own⟩
    simp only [run, writePackageFile, refused]
    exact ⟨_, rfl⟩

/-! ## Files in a directory -/

/-- The tree has a directory with files, the last one of each name, and is otherwise the same. -/
structure Wrote (tree after : FileTree) (base : List String) (files : List PackageFile) :
    Prop where
  free : tree.IsFree base
  named : ∀ file ∈ files, Path.IsPlain file.name
  absent : ∀ file ∈ files, tree.entry? (base ++ [file.name]) ≠ some .directory
  entries : ∀ place, after.entry? place =
    match files.reverse.find? (base ++ [·.name] == place) with
    | some file => some (.file file.content)
    | none => if place <+: base then some .directory else tree.entry? place

theorem wrote_nil (leads : tree.LeadsTo after base) (free : tree.IsFree base) :
    Wrote tree after base [] :=
  ⟨free, nofun, nofun, leads⟩

namespace Wrote

variable (wrote : Wrote tree after base files)

include wrote

theorem entry?_other (other : ∀ file ∈ files, place ≠ base ++ [file.name]) :
    after.entry? place = if place <+: base then some .directory else tree.entry? place := by
  have none : files.reverse.find? (base ++ [·.name] == place) = none := by
    rw [List.find?_eq_none]
    intro file isFile
    simpa using Ne.symm (other file (List.mem_reverse.mp isFile))
  rw [wrote.entries, none]

theorem entry?_prefix (isInit : place <+: base) : after.entry? place = some .directory := by
  have shorter : ∀ file ∈ files, place ≠ base ++ [file.name] := by
    rintro file - rfl
    exact FileTree.not_concat_prefix base file.name isInit
  rw [wrote.entry?_other shorter, if_pos isInit]

theorem holds_base : after.Holds base .directory :=
  FileTree.holds_directory.mpr fun _ => wrote.entry?_prefix

theorem directory_kept (isDirectory : tree.entry? place = some .directory) :
    after.entry? place = some .directory := by
  have other : ∀ file ∈ files, place ≠ base ++ [file.name] := by
    rintro file isFile rfl
    exact wrote.absent file isFile isDirectory
  rw [wrote.entry?_other other, isDirectory, ite_self]

/-- What is there afterwards is one of the files, leads to them or was there before. -/
theorem entry?_cases (listed : after.entry? place = some entry) :
    (∃ file ∈ files, place = base ++ [file.name] ∧ entry = .file file.content) ∨
      (place <+: base ∧ entry = .directory) ∨ tree.entry? place = some entry := by
  rw [wrote.entries] at listed
  split at listed
  · next file found =>
      have isFile := List.mem_reverse.mp (List.mem_of_find?_eq_some found)
      have same : base ++ [file.name] = place := by simpa using List.find?_some found
      exact .inl ⟨file, isFile, same.symm, (Option.some.inj listed).symm⟩
  · split at listed
    · next isInit => exact .inr (.inl ⟨isInit, (Option.some.inj listed).symm⟩)
    · exact .inr (.inr listed)

/-- What was there before is still there, unless one of the files is in its place. -/
theorem holds_other
    (holds : tree.Holds place entry) (other : ∀ file ∈ files, place ≠ base ++ [file.name]) :
    after.Holds place entry := by
  apply holds.imp fun _ => wrote.directory_kept
  rw [wrote.entry?_other other]
  split
  · next isInit =>
      cases entry with
      | directory => rfl
      | file text => exact absurd holds.here (wrote.free place isInit text)
  · exact holds.here

theorem holds_last (last : files.getLast? = some file) :
    after.Holds (base ++ [file.name]) (.file file.content) := by
  apply wrote.holds_base.child
  have first : files.reverse.find? (base ++ [·.name] == base ++ [file.name]) = some file := by
    rw [List.getLast?_eq_head?_reverse] at last
    cases reversed : files.reverse with
    | nil => simp [reversed] at last
    | cons head tail =>
      rw [reversed, List.head?_cons, Option.some.injEq] at last
      simp [last]
  rw [wrote.entries, first]

theorem holds_file (distinct : (files.map (·.name)).Nodup) (isFile : file ∈ files) :
    after.Holds (base ++ [file.name]) (.file file.content) := by
  apply wrote.holds_base.child
  cases found : files.reverse.find? (base ++ [·.name] == base ++ [file.name]) with
  | none =>
    have missing := List.find?_eq_none.mp found file (List.mem_reverse.mpr isFile)
    simp at missing
  | some other =>
    have isOther : other ∈ files := List.mem_reverse.mp (List.mem_of_find?_eq_some found)
    have named : other.name = file.name := by simpa using List.find?_some found
    have same : other = file := List.inj_on_of_nodup_map distinct isOther isFile named
    rw [wrote.entries, found, same]

theorem closed (closed : tree.Closed) : after.Closed := by
  intro place name entry listed
  rcases wrote.entry?_cases listed with ⟨file, -, same, -⟩ | ⟨isInit, -⟩ | before
  · rw [(List.append_inj' same rfl).1]
    exact wrote.entry?_prefix (List.prefix_refl base)
  · exact wrote.entry?_prefix ((List.prefix_append place [name]).trans isInit)
  · exact wrote.directory_kept (closed place name entry before)

/-- Where nothing was, nothing can be lost. -/
theorem extends_of_absent (absent : ∀ entry, ¬ tree.Holds base entry) : tree.Extends after := by
  intro place entry holds
  apply wrote.holds_other holds
  rintro file - rfl
  exact absent .directory holds.parent

theorem concat (named : Path.IsPlain file.name)
    (absent : after.entry? (base ++ [file.name]) ≠ some .directory) :
    Wrote tree (after.put (base ++ [file.name]) (.file file.content)) base (files ++ [file]) where
  free := wrote.free
  named := by
    intro other isOther
    rcases List.mem_append.mp isOther with isOld | isNew
    · exact wrote.named other isOld
    · rwa [List.mem_singleton.mp isNew]
  absent := by
    intro other isOther
    rcases List.mem_append.mp isOther with isOld | isNew
    · exact wrote.absent other isOld
    · rw [List.mem_singleton.mp isNew]
      exact mt wrote.directory_kept absent
  entries := by
    intro place
    rw [FileTree.entry?_put absent, wrote.entries, List.reverse_append, List.reverse_singleton,
      List.singleton_append, List.find?_cons]
    by_cases same : place = base ++ [file.name]
    · simp [same]
    · have differs : (base ++ [file.name] == place) = false := beq_false_of_ne (Ne.symm same)
      rw [if_neg same, differs]

end Wrote

/-! ## How writing ends -/

/-- A file cannot be written into a directory. -/
def IsRefused (tree : FileTree) (base : List String) (file : PackageFile) : Prop :=
  ¬ Path.IsPlain file.name ∨ tree.entry? (base ++ [file.name]) = some .directory

/-- The next file is written unless its name is no name or that of a directory. -/
theorem writePackageFile_cases {dir : String}
    (given : dir ≠ "") (wrote : Wrote tree after (Path.place dir) done) (file : PackageFile) :
    (∃ next, (writePackageFile dir file).run after = (.ok (), next) ∧
      Wrote tree next (Path.place dir) (done ++ [file])) ∨
    (∃ fault, (writePackageFile dir file).run after = (.error fault, after)) ∧
      IsRefused tree (Path.place dir) file := by
  by_cases plain : Path.IsPlain file.name
  · have place := Path.place_join dir plain
    rcases run_writePackageFile dir file after with ⟨run, -, takes⟩ | ⟨failed, reason⟩
    · rw [place] at run
      have absent := takes.2.2.2
      rw [place] at absent
      exact .inl ⟨_, run, wrote.concat plain absent⟩
    · refine .inr ⟨failed, .inr ?_⟩
      rcases reason with notOwn | refused
      · exact absurd (Path.base_of_plain plain) notOwn
      · have isDirectory : after.entry? (Path.place dir ++ [file.name]) = some .directory := by
          by_contra absent
          exact refused (FileTree.takesFile_join wrote.holds_base plain absent)
        rcases wrote.entry?_cases isDirectory with ⟨_, -, -, same⟩ | ⟨isInit, -⟩ | before
        · cases same
        · exact absurd isInit (FileTree.not_concat_prefix _ _)
        · exact before
  · refine .inr ⟨?_, .inl plain⟩
    rcases run_writePackageFile dir file after with ⟨-, own, takes⟩ | ⟨failed, -⟩
    · have isDirectory : after.entry? (Path.place (Path.join [dir, file.name])) =
          some .directory := by
        rcases Path.place_join_unnamed given ((Path.plain_of_base own).resolve_left plain) with
          above | ⟨count, up⟩
        · exact wrote.entry?_prefix above
        · rw [up, FileTree.entry?, if_pos]
          simp [FileTree.isGiven]
      exact absurd isDirectory takes.2.2.2
    · exact failed

/-- How writing files into a directory may end, and what it leaves. -/
inductive Leaves (tree : FileTree) (base : List String) (files : List PackageFile) :
    Except Fault Unit × FileTree → Prop where
  | written
      {after : FileTree}
      (wrote : Wrote tree after base files) :
      Leaves tree base files (.ok (), after)
  | blocked
      (fault : Fault) (blocked : ¬ tree.IsFree base) :
      Leaves tree base files (.error fault, tree)
  | stopped
      {after : FileTree} {done rest : List PackageFile} {file : PackageFile}
      (fault : Fault) (upTo : files = done ++ file :: rest) (wrote : Wrote tree after base done)
      (refused : IsRefused tree base file) :
      Leaves tree base files (.error fault, after)

theorem leaves_each {dir : String}
    (given : dir ≠ "") (wrote : Wrote tree after (Path.place dir) done) (files : List PackageFile) :
    Leaves tree (Path.place dir) (done ++ files)
      ((Disk.each (writePackageFile dir) files).run after) := by
  induction files generalizing after done with
  | nil =>
    rw [List.append_nil]
    exact .written wrote
  | cons file rest ih =>
    rw [Disk.each, Recording.run_bind]
    rcases writePackageFile_cases given wrote file with
      ⟨next, run, wrote⟩ | ⟨⟨fault, failed⟩, refused⟩
    · rw [run, List.append_cons]
      exact ih wrote
    · rw [failed]
      exact .stopped fault rfl wrote refused

theorem leaves_writeDir {dir : String}
    (isClean : Path.IsClean dir) (files : List PackageFile) (tree : FileTree) :
    Leaves tree (Path.place dir) files ((writeDir dir files).run tree) := by
  rw [writeDir, Recording.run_bind, Disk.run_within, Disk.run_change]
  rcases FileTree.makeDirs_cases isClean tree with
    ⟨after, made, leads, free⟩ | ⟨⟨fault, failed⟩, blocked⟩
  · rw [made]
    exact leaves_each isClean.ne_empty (wrote_nil leads free) files
  · rw [failed]
    exact .blocked _ blocked

variable {outcome : Except Fault Unit × FileTree}

/-- Where nothing is in the way, the directory is there afterwards with some of the files. -/
theorem Leaves.exists_wrote (leaves : Leaves tree base files outcome) (free : tree.IsFree base) :
    ∃ done, Wrote tree outcome.2 base done := by
  cases leaves with
  | written wrote => exact ⟨files, wrote⟩
  | blocked fault blocked => exact absurd free blocked
  | stopped fault upTo wrote refused => exact ⟨_, wrote⟩

/-- Where nothing was, nothing is lost however writing ends. -/
theorem Leaves.extends_of_absent
    (leaves : Leaves tree base files outcome) (absent : ∀ entry, ¬ tree.Holds base entry) :
    tree.Extends outcome.2 := by
  cases leaves with
  | written wrote => exact wrote.extends_of_absent absent
  | blocked fault blocked => exact .refl tree
  | stopped fault upTo wrote refused => exact wrote.extends_of_absent absent

/-- Files with names of their own can be written where nothing is in the way. -/
theorem Leaves.wrote (leaves : Leaves tree base files outcome)
    (free : tree.IsFree base) (accepted : ∀ file ∈ files, ¬ IsRefused tree base file) :
    outcome.1 = .ok () ∧ Wrote tree outcome.2 base files := by
  cases leaves with
  | written wrote => exact ⟨rfl, wrote⟩
  | blocked fault blocked => exact absurd free blocked
  | stopped fault upTo wrote refused => exact absurd refused (accepted _ (by simp [upTo]))

end ShapeForge.Emit
