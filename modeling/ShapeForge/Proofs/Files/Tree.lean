import Mathlib.Data.List.Induction
import ShapeForge.Files.Tree
import ShapeForge.Proofs.Files.Path

/-!
# What file trees hold

A tree holds an entry at a place if the entry is listed there and everything above the place is a
directory; that is what looking a path up finds.  Every operation is described by what it does to
the entries, and what a change keeps follows from that.
-/

namespace ShapeForge.FileTree

variable {tree after : FileTree} {place other : List String} {entry : FileEntry}

/-! ## Entries -/

theorem not_given_of_entry? (absent : tree.entry? place ≠ some .directory) :
    isGiven place = false := by
  rw [← Bool.not_eq_true]
  intro given
  exact absent (by rw [ entry?, if_pos given])

/-- Putting an entry at a place where no directory is changes that place only. -/
theorem entry?_put
    (absent : tree.entry? place ≠ some .directory) (entry : FileEntry) (other : List String) :
    entry? (tree.put place entry) other =
      if other = place then some entry else tree.entry? other := by
  have fresh := not_given_of_entry? absent
  by_cases given : isGiven other = true
  · have distinct : other ≠ place := by
      rintro rfl
      exact Bool.false_ne_true (fresh.symm.trans given)
    rw [if_neg distinct, entry?, entry?, if_pos given, if_pos given]
  rw [ entry?, entry?, if_neg given, if_neg given, put]
  by_cases listed : (tree.entries.any (·.1 == place)) = true
  · have keys : ((fun listing : List String × FileEntry => listing.1 == other) ∘
        fun (key, old) => (key, if key == place then entry else old)) =
        fun listing => listing.1 == other := by
      rfl
    simp only [listed, if_true, List.find?_map, keys, Option.map_map]
    by_cases same : other = place
    · subst same
      rcases List.any_eq_true.mp listed with ⟨listing, isListing, isKey⟩
      cases found : tree.entries.find? (·.1 == other) with
      | none => exact absurd isKey (List.find?_eq_none.mp found listing isListing)
      | some first =>
        have isFirst : first.1 = other := by simpa using List.find?_some found
        simp [isFirst]
    · rw [if_neg same]
      cases found : tree.entries.find? (·.1 == other) with
      | none => rfl
      | some first =>
        have isFirst : first.1 = other := by simpa using List.find?_some found
        simp [isFirst, same]
  · have missing : ∀ listing ∈ tree.entries, (listing.1 == place) = false := by
      intro listing isListing
      rw [← Bool.not_eq_true]
      intro isKey
      exact listed (List.any_eq_true.mpr ⟨listing, isListing, isKey⟩)
    simp only [listed, Bool.false_eq_true, if_false, List.find?_append]
    by_cases same : other = place
    · subst same
      have none : tree.entries.find? (·.1 == other) = none := by
        rw [List.find?_eq_none]
        intro listing isListing
        simp [missing listing isListing]
      simp [none]
    · have distinct : (place == other) = false := beq_false_of_ne (Ne.symm same)
      simp [same, distinct]

theorem not_concat_prefix (place : List String) (name : String) : ¬ place ++ [name] <+: place := by
  intro isInit
  have shorter := isInit.length_le
  rw [List.length_append, List.length_singleton] at shorter
  omega

/-! ## Held entries -/

/-- Everything above a place is a directory. -/
abbrev Reaches (tree : FileTree) (place : List String) : Prop :=
  ∀ init, init <+: place → init ≠ place → tree.entry? init = some .directory

/-- An entry is listed at a place, and everything above the place is a directory. -/
structure Holds (tree : FileTree) (place : List String) (entry : FileEntry) : Prop where
  above : ∀ init, init <+: place → init ≠ place → tree.entry? init = some .directory
  here : tree.entry? place = some entry

variable {path text name : String} {rest before init : List String} {rooted : Bool}

theorem Holds.prefix_directory (holds : tree.Holds place entry)
    (isInit : init <+: place) (shorter : init ≠ place) :
    tree.Holds init .directory := by
  refine ⟨?_, holds.above init isInit shorter⟩
  intro first isFirst differs
  apply holds.above first (isFirst.trans isInit)
  rintro rfl
  exact differs (isFirst.eq_of_length_le isInit.length_le)

theorem Holds.parent (holds : tree.Holds (place ++ [name]) entry) : tree.Holds place .directory :=
  holds.prefix_directory (List.prefix_append place [name]) (by simp)

/-- A directory is held if it and everything above it are directories. -/
theorem holds_directory :
    tree.Holds place .directory ↔ ∀ init, init <+: place → tree.entry? init = some .directory := by
  refine ⟨fun holds init isInit => ?_, fun led => ?_⟩
  · by_cases same : init = place
    · rw [same, holds.here]
    · exact holds.above init isInit same
  · exact ⟨fun init isInit _ => led init isInit, led place (List.prefix_refl place)⟩

theorem Holds.above_child (parent : tree.Holds place .directory) (name : String) :
    tree.Reaches (place ++ [name]) := by
  intro init isInit shorter
  rcases List.prefix_concat_iff.mp isInit with rfl | isInit
  · exact absurd rfl shorter
  · exact holds_directory.mp parent init isInit

theorem Holds.child
    (parent : tree.Holds place .directory) (listed : tree.entry? (place ++ [name]) = some entry) :
    tree.Holds (place ++ [name]) entry :=
  ⟨parent.above_child name, listed⟩

theorem Holds.unique {entry other : FileEntry}
    (holds : tree.Holds place entry) (also : tree.Holds place other) :
    entry = other :=
  Option.some.inj (holds.here.symm.trans also.here)

/-- What is above and at a held place stays, so the place still holds its entry. -/
theorem Holds.imp (holds : tree.Holds place entry)
    (directories : ∀ init, tree.entry? init = some .directory →
      after.entry? init = some .directory)
    (here : after.entry? place = some entry) :
    after.Holds place entry :=
  ⟨fun init isInit shorter => directories init (holds.above init isInit shorter), here⟩

theorem walk_eq_ok {reached : List String} :
    tree.walk reached rest = .ok entry ↔
      (∀ init, init <+: rest → init ≠ rest → tree.entry? (reached ++ init) = some .directory) ∧
        tree.entry? (reached ++ rest) = some entry := by
  induction rest generalizing reached with
  | nil =>
    rw [walk, List.append_nil]
    constructor
    · intro walked
      refine ⟨fun init isInit nonempty => absurd (List.prefix_nil.mp isInit) nonempty, ?_⟩
      cases found : tree.entry? reached with
      | none => simp [found] at walked
      | some entry => simpa [found] using walked
    · rintro ⟨-, found⟩
      rw [found]
  | cons element rest ih =>
    have moved (init : List String) : reached ++ [element] ++ init = reached ++ element :: init :=
      by simp
    rw [walk]
    constructor
    · intro walked
      cases found : tree.entry? reached with
      | none => simp [found] at walked
      | some first =>
        cases first with
        | file text => simp [found] at walked
        | directory =>
          simp only [found] at walked
          rcases ih.mp walked with ⟨above, here⟩
          refine ⟨?_, by rwa [moved] at here⟩
          intro init isInit shorter
          cases init with
          | nil => rwa [List.append_nil]
          | cons head tail =>
            rcases List.cons_prefix_cons.mp isInit with ⟨rfl, isTail⟩
            rw [← moved]
            apply above tail isTail
            rintro rfl
            exact shorter rfl
    · rintro ⟨above, here⟩
      have first := above [] List.nil_prefix (List.cons_ne_nil element rest).symm
      rw [List.append_nil] at first
      simp only [first]
      rw [ih, moved]
      refine ⟨?_, here⟩
      intro init isInit shorter
      rw [moved]
      apply above _ (List.cons_prefix_cons.mpr ⟨rfl, isInit⟩)
      intro same
      exact shorter (List.cons.inj same).2

theorem walk_nil_eq_ok : tree.walk [] place = .ok entry ↔ tree.Holds place entry := by
  rw [walk_eq_ok]
  simp only [List.nil_append]
  exact ⟨fun ⟨above, here⟩ => ⟨above, here⟩, fun ⟨above, here⟩ => ⟨above, here⟩⟩

/-- Where something is missing, there is a first place that is not listed. -/
theorem exists_of_walk_missing {reached : List String}
    (missing : tree.walk reached rest = .error .missing) :
    ∃ init, init <+: rest ∧ tree.entry? (reached ++ init) = none ∧
      ∀ shorter, shorter <+: init → shorter ≠ init →
        tree.entry? (reached ++ shorter) = some .directory := by
  induction rest generalizing reached with
  | nil =>
    rw [walk] at missing
    cases found : tree.entry? reached with
    | some entry => simp [found] at missing
    | none =>
      refine ⟨[], List.prefix_refl [], by rwa [List.append_nil], ?_⟩
      intro shorter isShorter nonempty
      exact absurd (List.prefix_nil.mp isShorter) nonempty
  | cons element rest ih =>
    rw [walk] at missing
    cases found : tree.entry? reached with
    | none =>
      refine ⟨[], List.nil_prefix, by rwa [List.append_nil], ?_⟩
      intro shorter isShorter nonempty
      exact absurd (List.prefix_nil.mp isShorter) nonempty
    | some first =>
      cases first with
      | file text => simp [found] at missing
      | directory =>
        simp only [found] at missing
        rcases ih missing with ⟨init, isInit, absent, above⟩
        have moved (init : List String) :
            reached ++ [element] ++ init = reached ++ element :: init := by simp
        rw [moved] at absent
        refine ⟨element :: init, List.cons_prefix_cons.mpr ⟨rfl, isInit⟩, absent, ?_⟩
        intro shorter isShorter differs
        cases shorter with
        | nil => rwa [List.append_nil]
        | cons head tail =>
          rcases List.cons_prefix_cons.mp isShorter with ⟨rfl, isTail⟩
          rw [← moved]
          apply above tail isTail
          rintro rfl
          exact differs rfl

/-! ## Looking up -/

theorem status_eq_ok :
    tree.status path = .ok entry ↔
      path ≠ "" ∧ tree.Holds (Path.place path) entry ∧
        (∀ text, entry = .file text → path.toList.getLast? ≠ some '/') := by
  rw [← walk_nil_eq_ok]
  unfold status
  by_cases empty : path = ""
  · subst empty
    simp
  · have nonempty : path.isEmpty = false := by simpa using empty
    rw [nonempty, if_neg Bool.false_ne_true]
    cases tree.walk [] (Path.place path) with
    | error problem => simp
    | ok found =>
      cases found with
      | directory =>
        simp only [ne_eq, empty, not_false_eq_true, true_and]
        constructor
        · rintro ⟨⟩
          exact ⟨rfl, nofun⟩
        · exact And.left
      | file text =>
        by_cases slash : path.toList.getLast? = some '/'
        · simp only [slash, beq_self_eq_true, if_true]
          constructor
          · nofun
          · rintro ⟨-, ⟨⟩, allowed⟩
            exact absurd rfl (allowed text rfl)
        · simp only [beq_false_of_ne slash, Bool.false_eq_true, if_false]
          constructor
          · rintro ⟨⟩
            exact ⟨empty, rfl, fun _ _ => slash⟩
          · exact fun found => found.2.1

/-! ## Following paths -/

theorem follow_cons {element : String} :
    tree.follow rooted before (element :: rest) = .ok () ↔
      tree.entry? (Path.placeOf rooted before.reverse) = some .directory ∧
        tree.follow rooted (Path.push rooted before element) rest = .ok () := by
  rw [follow]
  cases tree.entry? (Path.placeOf rooted before.reverse) with
  | none => simp
  | some found => cases found <;> simp

/-- An element that is looked up in a held directory leads to a place below directories. -/
theorem Holds.above_push
    (holds : tree.Holds (Path.placeOf rooted before.reverse) .directory) (element : String) :
    tree.Reaches (Path.placeOf rooted (Path.push rooted before element).reverse) := by
  have below (name : String) : tree.Reaches (Path.placeOf rooted (name :: before).reverse) := by
    rw [List.reverse_cons, Path.placeOf_append]
    exact holds.above_child name
  unfold Path.push
  split
  · exact holds.above
  split
  · cases before with
    | nil =>
      cases rooted with
      | true => exact holds.above
      | false => exact below ".."
    | cons last rest =>
      simp only
      split
      · exact below ".."
      · rw [List.reverse_cons, Path.placeOf_append] at holds
        exact holds.parent.above
  · exact below element

/-- Whatever an element of a path is looked up in is held by the tree. -/
theorem holds_of_follow {element : String}
    (above : tree.Reaches (Path.placeOf rooted before.reverse))
    (followed : tree.follow rooted before (init ++ element :: rest) = .ok ()) :
    tree.Holds (Path.placeOf rooted (init.foldl (Path.push rooted) before).reverse)
      .directory := by
  induction init generalizing before with
  | nil => exact ⟨above, (follow_cons.mp followed).1⟩
  | cons first init ih =>
    rcases follow_cons.mp followed with ⟨here, next⟩
    have holds : tree.Holds (Path.placeOf rooted before.reverse) .directory := ⟨above, here⟩
    exact ih (holds.above_push first) next

/-- A path can be followed as it is written. -/
def Passes (tree : FileTree) (path : String) : Prop :=
  tree.follow (Path.isAbsolute path) [] (Text.split '/' path) = .ok ()

/-- The place from which a path is followed is always there. -/
theorem holds_start (tree : FileTree) (rooted : Bool) :
    tree.Holds (Path.placeOf rooted []) .directory := by
  rw [holds_directory]
  intro init isInit
  cases rooted with
  | true =>
    rcases List.prefix_cons_iff.mp isInit with rfl | ⟨rest, rfl, isRest⟩
    · rfl
    · rw [List.prefix_nil.mp isRest]
      rfl
  | false =>
    rw [List.prefix_nil.mp isInit]
    rfl

theorem readFile_eq_ok :
    tree.readFile path = .ok text ↔
      tree.Passes path ∧ path ≠ "" ∧ path.toList.getLast? ≠ some '/' ∧
        tree.Holds (Path.place path) (.file text) := by
  have looked : tree.readFile path = .ok text ↔
      tree.Passes path ∧ tree.status path = .ok (.file text) := by
    unfold readFile Passes
    cases tree.follow (Path.isAbsolute path) [] (Text.split '/' path) with
    | error problem => simp
    | ok _ =>
      cases tree.status path with
      | error problem => simp
      | ok found => cases found <;> simp
  rw [looked, status_eq_ok]
  constructor
  · rintro ⟨passes, nonempty, holds, allowed⟩
    exact ⟨passes, nonempty, allowed text rfl, holds⟩
  · rintro ⟨passes, nonempty, allowed, holds⟩
    exact ⟨passes, nonempty, holds, fun _ _ => allowed⟩

/-- If an element that is looked up in a directory leads to a file, it is the name of the file:
the other elements lead to directories. -/
theorem Holds.push_of_file {element : String}
    (parent : tree.Holds (Path.placeOf rooted before.reverse) .directory)
    (normal : Path.IsNormal rooted (Path.push rooted before element).reverse)
    (found : tree.entry? (Path.placeOf rooted (Path.push rooted before element).reverse) =
      some (.file text)) :
    Path.push rooted before element = element :: before := by
  have notUp (rest : List String) (normal : Path.IsNormal rooted (".." :: rest).reverse) :
      tree.entry? (Path.placeOf rooted (".." :: rest).reverse) ≠ some (.file text) := by
    rw [List.reverse_cons] at normal ⊢
    rcases normal.all_up with ⟨rfl, up⟩
    have given : isGiven (Path.placeOf false (rest.reverse ++ [".."])) = true := by
      rw [isGiven, Bool.or_eq_true]
      exact .inr (List.all_eq_true.mpr fun part isPart => beq_iff_eq.mpr (up part isPart))
    rw [ entry?, if_pos given]
    nofun
  have notHere : tree.entry? (Path.placeOf rooted before.reverse) ≠ some (.file text) := by
    rw [parent.here]
    nofun
  unfold Path.push at normal found ⊢
  split at found
  · exact absurd found notHere
  next named =>
    rw [if_neg named] at normal ⊢
    split at found
    · next isUp =>
        rw [if_pos isUp] at normal
        cases before with
        | nil =>
          cases rooted with
          | true => exact absurd found notHere
          | false => exact absurd found (notUp [] normal)
        | cons last rest =>
          simp only at normal found
          split at found
          · next again =>
              rw [if_pos again] at normal
              exact absurd found (notUp (last :: rest) normal)
          · rw [List.reverse_cons, Path.placeOf_append] at parent
            rw [parent.parent.here] at found
            cases found
    · next notUp => rw [if_neg notUp]

/-- The last element of a path at which a file is read is the name of the file. -/
theorem ext_of_readFile (read : tree.readFile path = .ok text) :
    ∃ last, (Path.place path).getLast? = some last ∧ Path.ext path = Path.ext last := by
  rcases readFile_eq_ok.mp read with ⟨passes, -, -, holds⟩
  rcases List.eq_nil_or_concat (Text.split '/' path) with none | ⟨init, last, pieces⟩
  · exact absurd (List.map_eq_nil_iff.mp none) (Text.splitWhere_ne_nil _ _)
  rw [List.concat_eq_append] at pieces
  rw [Passes, pieces] at passes
  have parent := holds_of_follow (tree.holds_start _).above passes
  have normal := Path.normal_elements path
  have found := holds.here
  rw [Path.place_eq] at found ⊢
  rw [Path.elements, pieces, List.foldl_append] at normal found ⊢
  rw [List.foldl_cons, List.foldl_nil] at normal found ⊢
  rw [parent.push_of_file normal found, List.reverse_cons, Path.placeOf_append]
  exact ⟨last, List.getLast?_concat, Path.ext_of_split pieces⟩

theorem follow_of_normal {done : List String} (normal : Path.IsNormal rooted (done ++ rest))
    (above : tree.Reaches (Path.placeOf rooted (done ++ rest))) :
    tree.follow rooted done.reverse rest = .ok () := by
  induction rest generalizing done with
  | nil => rfl
  | cons element rest ih =>
    have moved : done ++ element :: rest = (done ++ [element]) ++ rest := by simp
    have pushed : Path.push rooted done.reverse element = (done ++ [element]).reverse := by
      have first := (normal.of_prefix (List.prefix_append done _)).foldl_push
      rw [moved] at normal
      have both := (normal.of_prefix (List.prefix_append (done ++ [element]) rest)).foldl_push
      rwa [List.foldl_append, first] at both
    rw [follow_cons, pushed, List.reverse_reverse]
    refine ⟨above _ ?_ ?_, ih (moved ▸ normal) (moved ▸ above)⟩
    · rw [Path.placeOf_append]
      exact List.prefix_append _ _
    · rw [Path.placeOf_append]
      simp

/-- A clean path passes the places above its own and no other. -/
theorem passes_of_clean (isClean : Path.IsClean path) (above : tree.Reaches (Path.place path)) :
    tree.Passes path := by
  rcases isClean with ⟨rooted, parts, normal, rfl⟩
  rw [Path.place_ofElements normal] at above
  rw [Passes, Path.isAbsolute_ofElements normal]
  by_cases empty : parts = []
  · subst empty
    cases rooted <;> rfl
  · rw [Path.split_ofElements normal empty]
    have followed : tree.follow rooted [] parts = .ok () :=
      @follow_of_normal tree parts rooted [] normal above
    cases rooted with
    | false => exact followed
    | true => exact follow_cons.mpr ⟨rfl, followed⟩

/-- A clean path ends in a slash only if it is that of the root, which is a directory. -/
theorem getLast?_of_clean
    (isClean : Path.IsClean path) (absent : tree.entry? (Path.place path) ≠ some .directory) :
    path.toList.getLast? ≠ some '/' := by
  rcases isClean with ⟨rooted, parts, normal, rfl⟩
  rcases List.eq_nil_or_concat parts with rfl | ⟨init, last, rfl⟩
  · rw [Path.place_ofElements normal] at absent
    cases rooted <;> exact absurd rfl absent
  · rw [List.concat_eq_append] at normal ⊢
    rcases normal.ne_empty last (by simp) with ⟨nonempty, whole⟩
    exact Path.getLast?_ofElements rooted init nonempty whole

theorem status_of_clean (isClean : Path.IsClean path) :
    tree.status path = .ok entry ↔ tree.Holds (Path.place path) entry := by
  rw [status_eq_ok]
  refine ⟨fun found => found.2.1, fun holds => ⟨isClean.ne_empty, holds, ?_⟩⟩
  rintro text rfl
  have absent : tree.entry? (Path.place path) ≠ some .directory := by simp [holds.here]
  exact getLast?_of_clean isClean absent

theorem readFile_of_clean (isClean : Path.IsClean path) :
    tree.readFile path = .ok text ↔ tree.Holds (Path.place path) (.file text) := by
  rw [readFile_eq_ok]
  refine ⟨fun found => found.2.2.2, fun holds => ?_⟩
  have absent : tree.entry? (Path.place path) ≠ some .directory := by simp [holds.here]
  exact ⟨passes_of_clean isClean holds.above, isClean.ne_empty,
    getLast?_of_clean isClean absent, holds⟩

theorem exists?_of_clean (isClean : Path.IsClean path) :
    tree.exists? path = true ↔ ∃ entry, tree.Holds (Path.place path) entry := by
  unfold exists?
  constructor
  · intro found
    cases looked : tree.status path with
    | error problem => simp [looked, Except.toOption] at found
    | ok entry => exact ⟨entry, (status_of_clean isClean).mp looked⟩
  · rintro ⟨entry, holds⟩
    rw [(status_of_clean isClean).mpr holds]
    rfl

/-! ## Making directories -/

/-- There is no file at a place nor above it. -/
def IsFree (tree : FileTree) (place : List String) : Prop :=
  ∀ init, init <+: place → ∀ text, tree.entry? init ≠ some (.file text)

theorem Holds.isFree (holds : tree.Holds place .directory) : tree.IsFree place := by
  intro init isInit text
  simp [holds_directory.mp holds init isInit]

theorem IsFree.child (free : tree.IsFree place)
    (absent : ∀ text, tree.entry? (place ++ [name]) ≠ some (.file text)) :
    tree.IsFree (place ++ [name]) := by
  intro init isInit text
  rcases List.prefix_concat_iff.mp isInit with same | isInit
  · rw [same]
    exact absent text
  · exact free init isInit text

/-- The tree has the directories that lead to a place, and is otherwise the same. -/
def LeadsTo (tree after : FileTree) (place : List String) : Prop :=
  ∀ other, after.entry? other =
    if other <+: place then some .directory else tree.entry? other

theorem makeDir_of_above (isClean : Path.IsClean path) (above : tree.Reaches (Path.place path)) :
    tree.makeDir path =
      match tree.entry? (Path.place path) with
      | some .directory => .ok tree
      | some (.file _) => .error (FileProblem.notDirectory.fault "mkdir" path)
      | none => .ok (tree.put (Path.place path) .directory) := by
  have nonempty : path.isEmpty = false := by simpa using isClean.ne_empty
  unfold makeDir
  cases listed : tree.entry? (Path.place path) with
  | some entry =>
    rw [(status_of_clean isClean).mpr ⟨above, listed⟩]
    cases entry <;> rfl
  | none =>
    cases looked : tree.status path with
    | ok entry =>
      have holds := (status_of_clean isClean).mp looked
      rw [holds.here] at listed
      cases listed
    | error problem => simp [nonempty]

theorem Holds.leadsTo (holds : tree.Holds place .directory) : LeadsTo tree tree place := by
  intro other
  split
  · next isInit => exact holds_directory.mp holds other isInit
  · rfl

theorem LeadsTo.holds (leads : LeadsTo tree after place) : after.Holds place .directory :=
  holds_directory.mpr fun init isInit => by rw [leads init, if_pos isInit]

theorem LeadsTo.trans {between : FileTree} {more : List String}
    (first : LeadsTo tree between place) (second : LeadsTo between after (place ++ more)) :
    LeadsTo tree after (place ++ more) := by
  intro other
  rw [second other, first other]
  by_cases within : other <+: place
  · have longer : other <+: place ++ more := within.trans (List.prefix_append place more)
    rw [if_pos within, if_pos longer, if_pos longer]
  · rw [if_neg within]

theorem LeadsTo.isFree_iff
    (leads : LeadsTo tree after place) (free : tree.IsFree place) (other : List String) :
    after.IsFree other ↔ tree.IsFree other := by
  have same (init : List String) (text : String) :
      after.entry? init = some (.file text) ↔ tree.entry? init = some (.file text) := by
    rw [leads init]
    split
    · next isInit => simp [free init isInit text]
    · rfl
  simp only [IsFree, ne_eq, same]

theorem IsFree.of_prefix (free : tree.IsFree place) (isInit : init <+: place) : tree.IsFree init :=
  fun first isFirst => free first (isFirst.trans isInit)

/-- One more directory below those that are there: it is made unless a file is in its place. -/
theorem makeDir_next {part : String}
    (isClean : Path.IsClean path) (leads : Path.place path = place ++ [part])
    (parent : tree.Holds place .directory) :
    (∃ after, tree.makeDir path = .ok after ∧ LeadsTo tree after (place ++ [part]) ∧
      tree.IsFree (place ++ [part])) ∨
    (∃ fault, tree.makeDir path = .error fault) ∧ ¬ tree.IsFree (place ++ [part]) := by
  have above := parent.above_child part
  have made := makeDir_of_above isClean (leads ▸ above)
  rw [leads] at made
  cases listed : tree.entry? (place ++ [part]) with
  | none =>
    rw [listed] at made
    refine .inl ⟨_, made, ?_, parent.isFree.child (by simp [listed])⟩
    intro other
    rw [entry?_put (by simp [listed])]
    by_cases same : other = place ++ [part]
    · rw [if_pos same, if_pos (same ▸ List.prefix_refl other)]
    · rw [if_neg same]
      split
      · next isInit => exact above other isInit same
      · rfl
  | some entry =>
    rw [listed] at made
    cases entry with
    | file text =>
      exact .inr ⟨⟨_, made⟩, fun free => free _ (List.prefix_refl _) text listed⟩
    | directory =>
      have holds := parent.child listed
      exact .inl ⟨tree, made, holds.leadsTo, holds.isFree⟩

/-- The directories are made from the outermost on; those of `done` are there already. -/
theorem foldlM_makeDir {done : List String} (normal : Path.IsNormal rooted (done ++ rest))
    (led : tree.Holds (Path.placeOf rooted done) .directory) :
    let place := Path.placeOf rooted (done ++ rest)
    let made := ((Path.leading rest).map fun init => Path.ofElements rooted (done ++ init)).foldlM
      makeDir tree
    (∃ after, made = .ok after ∧ LeadsTo tree after place ∧ tree.IsFree place) ∨
      (∃ fault, made = .error fault) ∧ ¬ tree.IsFree place := by
  induction rest generalizing tree done with
  | nil =>
    rw [List.append_nil]
    exact .inl ⟨tree, rfl, led.leadsTo, led.isFree⟩
  | cons part rest ih =>
    have shifted : done ++ part :: rest = done ++ [part] ++ rest := by simp
    have shorter : done ++ [part] <+: done ++ part :: rest := by
      rw [shifted]
      exact List.prefix_append _ rest
    have normalHere := normal.of_prefix shorter
    have leads := Path.place_ofElements normalHere
    rw [Path.placeOf_append] at leads
    have paths : (Path.leading (part :: rest)).map
          (fun init => Path.ofElements rooted (done ++ init)) =
        Path.ofElements rooted (done ++ [part]) ::
          (Path.leading rest).map fun init =>
            Path.ofElements rooted (done ++ [part] ++ init) := by
      rw [Path.leading, List.map_cons, List.map_map]
      simp [Function.comp_def]
    rw [shifted] at normal
    simp only [paths, List.foldlM_cons, shifted]
    rcases makeDir_next ⟨rooted, _, normalHere, rfl⟩ leads led with
      ⟨between, isMade, first, free⟩ | ⟨⟨fault, failed⟩, blocked⟩
    · rw [← Path.placeOf_append] at first free
      have onward := ih normal first.holds
      simp only [first.isFree_iff free] at onward
      rw [isMade]
      rcases onward with ⟨after, made, second, free⟩ | failed
      · rw [Path.placeOf_append] at second
        have whole := first.trans second
        rw [← Path.placeOf_append] at whole
        exact .inl ⟨after, made, whole, free⟩
      · exact .inr failed
    · rw [failed]
      refine .inr ⟨⟨fault, rfl⟩, fun free => blocked (free.of_prefix ?_)⟩
      rw [← Path.placeOf_append, Path.placeOf_append rooted (done ++ [part])]
      exact List.prefix_append _ rest

/-- The directories to a place are made exactly if no file is in the way. -/
theorem makeDirs_cases (isClean : Path.IsClean path) (tree : FileTree) :
    (∃ after, tree.makeDirs path = .ok after ∧ LeadsTo tree after (Path.place path) ∧
      tree.IsFree (Path.place path)) ∨
    (∃ fault, tree.makeDirs path = .error fault) ∧ ¬ tree.IsFree (Path.place path) := by
  by_cases present : tree.Holds (Path.place path) .directory
  · have made : tree.makeDirs path = .ok tree := by
      rw [makeDirs, (status_of_clean isClean).mpr present]
    exact .inl ⟨tree, made, present.leadsTo, present.isFree⟩
  · have folded : tree.makeDirs path =
        (Path.ancestors [] path.toList).foldlM makeDir tree := by
      rw [makeDirs]
      split
      · next looked => exact absurd ((status_of_clean isClean).mp looked) present
      · rfl
    rcases isClean with ⟨rooted, parts, normal, rfl⟩
    have some : parts ≠ [] := by
      rintro rfl
      apply present
      rw [Path.place_ofElements normal]
      exact tree.holds_start rooted
    rw [folded, Path.ancestors_ofElements normal some, Path.place_ofElements normal]
    exact foldlM_makeDir normal (tree.holds_start rooted)

/-! ## Writing files -/

/-- A file can be written where no directory is, into a directory that is there. -/
def TakesFile (tree : FileTree) (path : String) : Prop :=
  path ≠ "" ∧ path.toList.getLast? ≠ some '/' ∧
    tree.Holds (Path.place path).dropLast .directory ∧
    tree.entry? (Path.place path) ≠ some .directory

theorem takesFile_of_status (looked : tree.status path = .ok (.file text)) :
    tree.TakesFile path := by
  rcases status_eq_ok.mp looked with ⟨nonempty, holds, noSlash⟩
  refine ⟨nonempty, noSlash text rfl, ?_, by simp [holds.here]⟩
  apply holds.prefix_directory (List.dropLast_prefix _)
  intro same
  rcases List.eq_nil_or_concat (Path.place path) with empty | ⟨init, name, whole⟩
  · rw [empty] at holds
    cases holds.here
  · simp [whole] at same

theorem writeFile_eq_ok :
    tree.writeFile path text = .ok after ↔
      tree.TakesFile path ∧ after = tree.put (Path.place path) (.file text) := by
  unfold writeFile
  cases looked : tree.status path with
  | ok found =>
    cases found with
    | file old =>
      simp only [takesFile_of_status looked, true_and, Except.ok.injEq]
      exact eq_comm
    | directory =>
      refine ⟨nofun, ?_⟩
      rintro ⟨⟨-, -, -, absent⟩, -⟩
      exact absurd (status_eq_ok.mp looked).2.1.here absent
  | error problem =>
    by_cases unfit : path = "" ∨ path.toList.getLast? = some '/'
    · have refused : (path.isEmpty || path.toList.getLast? == some '/') = true := by
        simpa using unfit
      simp only [refused, if_true]
      refine ⟨nofun, ?_⟩
      rintro ⟨⟨nonempty, noSlash, -, -⟩, -⟩
      exact absurd unfit (not_or.mpr ⟨nonempty, noSlash⟩)
    · rcases not_or.mp unfit with ⟨nonempty, noSlash⟩
      have fit : (path.isEmpty || path.toList.getLast? == some '/') = false := by
        simp [nonempty, noSlash]
      simp only [fit, Bool.false_eq_true, if_false]
      by_cases parent : tree.Holds (Path.place path).dropLast .directory
      · have absent : tree.entry? (Path.place path) ≠ some .directory := by
          intro listed
          -- A listed place below a held directory is held, so looking the path up finds it.
          have holds : tree.Holds (Path.place path) .directory := by
            rcases List.eq_nil_or_concat (Path.place path) with empty | ⟨init, name, whole⟩
            · rwa [empty] at parent ⊢
            · rw [whole, List.concat_eq_append] at parent listed ⊢
              rw [List.dropLast_concat] at parent
              exact parent.child listed
          have found := status_eq_ok.mpr ⟨nonempty, holds, nofun⟩
          rw [looked] at found
          cases found
        rw [walk_nil_eq_ok.mpr parent]
        simp only [Except.ok.injEq]
        constructor
        · rintro rfl
          exact ⟨⟨nonempty, noSlash, parent, absent⟩, rfl⟩
        · exact fun written => written.2.symm
      · refine ⟨?_, fun written => absurd written.1.2.2.1 parent⟩
        intro written
        split at written
        · next walked => exact absurd (walk_nil_eq_ok.mp walked) parent
        · cases written
        · cases written

theorem writeFile_cases (tree : FileTree) (path text : String) :
    tree.writeFile path text = .ok (tree.put (Path.place path) (.file text)) ∧
        tree.TakesFile path ∨
      (∃ fault, tree.writeFile path text = .error fault) ∧ ¬ tree.TakesFile path := by
  cases written : tree.writeFile path text with
  | error fault =>
    refine .inr ⟨⟨fault, rfl⟩, fun takes => ?_⟩
    rw [writeFile_eq_ok.mpr ⟨takes, rfl⟩] at written
    cases written
  | ok after =>
    rcases writeFile_eq_ok.mp written with ⟨takes, rfl⟩
    exact .inl ⟨rfl, takes⟩

/-- A name that is joined to the path of a directory takes a file unless it is that of a
directory. -/
theorem takesFile_join {dir : String}
    (parent : tree.Holds (Path.place dir) .directory) (plain : Path.IsPlain name)
    (absent : tree.entry? (Path.place dir ++ [name]) ≠ some .directory) :
    tree.TakesFile (Path.join [dir, name]) := by
  have isClean : Path.IsClean (Path.join [dir, name]) :=
    Path.isClean_join name (by simp) plain.given
  rw [← Path.place_join dir plain] at absent
  refine ⟨isClean.ne_empty, getLast?_of_clean isClean absent, ?_, absent⟩
  rw [Path.place_join dir plain, List.dropLast_concat]
  exact parent

/-! ## Growing trees -/

/-- Another tree holds all that a tree holds. -/
def Extends (tree after : FileTree) : Prop :=
  ∀ place entry, tree.Holds place entry → after.Holds place entry

theorem Extends.refl (tree : FileTree) : tree.Extends tree :=
  fun _ _ holds => holds

theorem Extends.trans {between : FileTree}
    (first : tree.Extends between) (second : between.Extends after) :
    tree.Extends after :=
  fun place entry holds => second place entry (first place entry holds)

theorem Extends.follow (grown : tree.Extends after)
    (above : tree.Reaches (Path.placeOf rooted before.reverse))
    (followed : tree.follow rooted before rest = .ok ()) :
    after.follow rooted before rest = .ok () := by
  induction rest generalizing before with
  | nil => rfl
  | cons element rest ih =>
    rcases follow_cons.mp followed with ⟨here, next⟩
    have holds : tree.Holds (Path.placeOf rooted before.reverse) .directory := ⟨above, here⟩
    exact follow_cons.mpr ⟨(grown _ _ holds).here, ih (holds.above_push element) next⟩

theorem Extends.readFile (grown : tree.Extends after) (read : tree.readFile path = .ok text) :
    after.readFile path = .ok text := by
  rw [readFile_eq_ok] at read ⊢
  rcases read with ⟨passes, nonempty, noSlash, holds⟩
  exact ⟨grown.follow (tree.holds_start _).above passes, nonempty, noSlash, grown _ _ holds⟩

/-! ## Closed trees -/

/-- Everything that is listed stands in a directory. -/
def Closed (tree : FileTree) : Prop :=
  ∀ place name entry, tree.entry? (place ++ [name]) = some entry →
    tree.entry? place = some .directory

/-- What is listed is given, as a directory, or is an entry. -/
theorem mem_entries (listed : tree.entry? place = some entry) :
    isGiven place = true ∧ entry = .directory ∨ (place, entry) ∈ tree.entries := by
  unfold entry? at listed
  split at listed
  · next given => exact .inl ⟨given, (Option.some.inj listed).symm⟩
  · rcases Option.map_eq_some_iff.mp listed with ⟨⟨found, _⟩, isFound, rfl⟩
    have isPlace : found = place := by simpa using List.find?_some isFound
    exact .inr (isPlace ▸ List.mem_of_find?_eq_some isFound)

theorem closed_of_entries
    (inside : ∀ listed ∈ tree.entries, tree.entry? listed.1.dropLast = some .directory) :
    tree.Closed := by
  intro place name entry listed
  rcases mem_entries listed with ⟨given, -⟩ | isEntry
  · have given : isGiven place = true := by
      simp only [isGiven, Bool.or_eq_true, beq_iff_eq, List.append_eq_singleton_iff,
        List.all_append, Bool.and_eq_true] at given ⊢
      rcases given with (⟨rfl, -⟩ | ⟨-, isNil⟩) | ⟨up, -⟩
      · exact .inr rfl
      · cases isNil
      · exact .inr up
    rw [ entry?, if_pos given]
  · simpa using inside _ isEntry

theorem Closed.holds (closed : tree.Closed) (listed : tree.entry? place = some entry) :
    tree.Holds place entry := by
  induction place using List.reverseRecOn generalizing entry with
  | nil => exact ⟨fun init isInit shorter => absurd (List.prefix_nil.mp isInit) shorter, listed⟩
  | append_singleton init name ih => exact (ih (closed init name entry listed)).child listed

/-- Where a closed tree has nothing, no file is in the way. -/
theorem Closed.isFree_of_missing
    (closed : tree.Closed) (missing : tree.walk [] place = .error .missing) :
    tree.IsFree place := by
  rcases exists_of_walk_missing missing with ⟨init, isInit, absent, above⟩
  intro first isFirst text isFile
  simp only [List.nil_append] at absent above
  rcases List.prefix_or_prefix_of_prefix isFirst isInit with shorter | longer
  · by_cases same : first = init
    · rw [same, absent] at isFile
      cases isFile
    · rw [above first shorter same] at isFile
      cases isFile
  · by_cases same : init = first
    · rw [← same, absent] at isFile
      cases isFile
    · rw [(closed.holds isFile).above init longer same] at absent
      cases absent

/-! ## Listing directories -/

/-- What a directory holds under a name is listed. -/
theorem mem_readDir {inside : List (String × FileEntry)}
    (isClean : Path.IsClean path) (listed : tree.readDir path = .ok inside)
    (holds : tree.Holds (Path.place path ++ [name]) entry)
    (made : isGiven (Path.place path ++ [name]) = false) :
    (name, entry) ∈ inside := by
  have isEntry := (mem_entries holds.here).resolve_left (by simp [made])
  rw [readDir, (status_of_clean isClean).mpr holds.parent] at listed
  cases listed
  rw [(List.mergeSort_perm _ _).mem_iff, List.mem_filterMap]
  exact ⟨_, isEntry, by simp⟩

theorem holds_of_readDir {inside : List (String × FileEntry)}
    (isClean : Path.IsClean path) (listed : tree.readDir path = .ok inside) :
    tree.Holds (Path.place path) .directory := by
  rw [← status_of_clean isClean]
  unfold readDir at listed
  cases looked : tree.status path with
  | error problem => simp [looked] at listed
  | ok found =>
    cases found with
    | directory => rfl
    | file text => simp [looked] at listed

theorem walk_of_readDir_missing
    (given : path ≠ "") (missing : tree.readDir path = .error .missing) :
    tree.walk [] (Path.place path) = .error .missing := by
  have nonempty : path.isEmpty = false := by simpa using given
  have looked : tree.status path = .error .missing := by
    unfold readDir at missing
    cases looked : tree.status path with
    | error problem => simpa [looked] using missing
    | ok found => cases found <;> simp [looked] at missing
  rw [status, nonempty, if_neg Bool.false_ne_true] at looked
  cases walked : tree.walk [] (Path.place path) with
  | error problem => simpa [walked] using looked
  | ok found =>
    simp only [walked] at looked
    cases found with
    | directory => cases looked
    | file text =>
      simp only at looked
      split at looked <;> cases looked

end ShapeForge.FileTree
