import Mathlib.Algebra.BigOperators.Group.List.Lemmas
import Mathlib.Algebra.GroupWithZero.Nat
import Mathlib.Data.List.Dedup
import Mathlib.Data.String.Basic
import ShapeForge.Proofs.Model.Reachability
import ShapeForge.Proofs.Recording
import ShapeForge.Tools.Call

/-!
# Pages and groups

A page is a block of a list, and the pages that are asked for one after another cover the list.  Its
bounds can be computed in machine words.  The groups of a list are counted one item at a time; their
order depends on the items alone, since no two groups have the same key.
-/

namespace ShapeForge.Listing

/-! ## Pages -/

section Pages

variable {α : Type} {limits : Limits} {items page : List α} {pages : List (List α)}
  {offset limit : Int}

/-- How many of the remaining items a page has. -/
def pageLength (limits : Limits) (limit remaining : Int) : Int :=
  min (min (if limit ≤ 0 then (limits.usual : Int) else limit) limits.greatest) remaining

/-- The items between two places, if these lie in the list in this order. -/
def slice? (items : List α) (first last : Int) : Option (List α) :=
  if 0 ≤ first ∧ first ≤ last ∧ last ≤ items.length then
    some ((items.drop first.toNat).take (last - first).toNat)
  else none

/-- A page that is computed in machine words.  There is no result if a sum or a difference leaves
the words, or if a bound of the page leaves the list. -/
def wordPage? (limits : Limits) (items : List α) (offset limit : Int) :
    Option (Option (List α)) :=
  if offset < 0 ∨ items.length ≤ offset then some none
  else do
    let remaining ← (some (items.length - offset)).filter Word.fitsSigned
    let last ← (some (offset + pageLength limits limit remaining)).filter Word.fitsSigned
    let page ← slice? items offset last
    some (some page)

theorem page?_eq_none :
    page? limits items offset limit = none ↔ offset < 0 ∨ items.length ≤ offset := by
  rw [page?, ite_eq_left_iff, Bool.or_eq_true, decide_eq_true_eq, decide_eq_true_eq]
  simp only [reduceCtorEq, imp_false, not_not]

theorem page?_of_inside (inside : ¬(offset < 0 ∨ items.length ≤ offset)) :
    page? limits items offset limit =
      some ((items.drop offset.toNat).take
        (pageLength limits limit (items.length - offset)).toNat) := by
  rw [page?, if_neg (by simpa using inside), pageLength]
  apply congrArg some
  rw [List.take_eq_take_iff, List.length_drop]
  split <;> omega

/-- A page is the block that follows the items in front of its offset. -/
theorem page?_eq_some (turned : page? limits items offset limit = some page) :
    (0 ≤ offset ∧ offset < items.length) ∧
      page.length = (pageLength limits limit (items.length - offset)).toNat ∧
      items.drop offset.toNat = page ++ items.drop (offset + page.length).toNat := by
  by_cases outside : offset < 0 ∨ items.length ≤ offset
  · cases turned.symm.trans (page?_eq_none.mpr outside)
  · cases turned.symm.trans (page?_of_inside outside)
    have length : ((items.drop offset.toNat).take
        (pageLength limits limit (items.length - offset)).toNat).length =
          (pageLength limits limit (items.length - offset)).toNat := by
      rw [List.length_take, List.length_drop]
      unfold pageLength
      omega
    refine ⟨by omega, length, ?_⟩
    rw [length, Int.toNat_add (by omega) (Int.natCast_nonneg _), Int.toNat_natCast,
      ← List.drop_drop, List.take_append_drop]

section Positive

variable (usual : 0 < limits.usual) (greatest : 0 < limits.greatest)

include usual greatest

theorem pageLength_pos {remaining : Int} (some : 0 < remaining) (limit : Int) :
    0 < pageLength limits limit remaining := by
  unfold pageLength
  split <;> omega

theorem ne_nil_of_page? (turned : page? limits items offset limit = some page) : page ≠ [] := by
  rcases page?_eq_some turned with ⟨inside, length, -⟩
  have positive := pageLength_pos usual greatest
    (show 0 < (items.length : Int) - offset by omega) limit
  rintro rfl
  rw [List.length_nil] at length
  omega

/-- No bound of a page leaves the list, and nothing on the way to it leaves the words. -/
theorem wordPage?_eq (fits : items.length < Word.signedCount) (offset limit : Int) :
    wordPage? limits items offset limit = some (page? limits items offset limit) := by
  unfold wordPage?
  split
  next outside => rw [page?_eq_none.mpr outside]
  next inside =>
    have positive := pageLength_pos usual greatest
      (show 0 < (items.length : Int) - offset by omega) limit
    have bounded : pageLength limits limit (items.length - offset) ≤ items.length - offset :=
      min_le_right _ _
    have isWord (value : Int) (above : 0 ≤ value) (below : value ≤ items.length) :
        (some value).filter Word.fitsSigned = some value := by
      have fitsSigned : Word.fitsSigned value = true := by
        unfold Word.fitsSigned
        simp only [Bool.and_eq_true, decide_eq_true_eq]
        omega
      rw [Option.filter_some, if_pos fitsSigned]
    rw [page?_of_inside inside, isWord _ (by omega) (by omega), Option.bind_eq_bind,
      Option.bind_some, isWord _ (by omega) (by omega), Option.bind_eq_bind, Option.bind_some, slice?,
      if_pos (by omega), add_sub_cancel_left]
    rfl

end Positive

/-- The pages that are turned from an offset on, each behind the one before, until there is none. -/
inductive Turned (limits : Limits) (items : List α) (limit : Int) : Int → List (List α) → Prop where
  | done {offset : Int}
      (none : page? limits items offset limit = none) :
      Turned limits items limit offset []
  | next {offset : Int} {page : List α} {pages : List (List α)}
      (turned : page? limits items offset limit = some page)
      (later : Turned limits items limit (offset + page.length) pages) :
      Turned limits items limit offset (page :: pages)

theorem Turned.flatten_eq (turned : Turned limits items limit offset pages) (above : 0 ≤ offset) :
    pages.flatten = items.drop offset.toNat := by
  induction turned with
  | done none =>
    have behind := page?_eq_none.mp none
    rw [List.flatten_nil, List.drop_eq_nil_of_le (by omega)]
  | next turned _ ih =>
    rcases page?_eq_some turned with ⟨-, -, block⟩
    rw [List.flatten_cons, ih (by omega), block]

/-- No page is empty, so that each leaves fewer items. -/
theorem exists_turned (usual : 0 < limits.usual) (greatest : 0 < limits.greatest)
    (items : List α) (limit offset : Int) :
    ∃ pages, Turned limits items limit offset pages := by
  induction left : (items.length - offset).toNat using Nat.strong_induction_on generalizing offset
    with
  | _ left ih =>
    cases turned : page? limits items offset limit with
    | none => exact ⟨[], .done turned⟩
    | some page =>
      have inside := (page?_eq_some turned).1
      have nonempty := List.length_pos_iff.mpr (ne_nil_of_page? usual greatest turned)
      rcases ih _ (by omega) (offset + page.length) rfl with ⟨pages, later⟩
      exact ⟨page :: pages, .next turned later⟩

end Pages

end ShapeForge.Listing

namespace ShapeForge.Tools.Settings

/-- A number that has to be positive is, whatever the environment. -/
theorem read_pos (environment : List (String × String)) (name : String) {default : Nat}
    (positive : 0 < default) :
    0 < read environment name default positive? := by
  unfold read
  split
  next text _ =>
    cases converted : positive? text with
    | none => exact positive
    | some value =>
      rcases Option.map_eq_some_iff.mp converted with ⟨number, kept, rfl⟩
      have above : 0 < number := by simpa using (Option.filter_eq_some_iff.mp kept).2
      rw [Option.getD_some]
      omega
  next => exact positive

end ShapeForge.Tools.Settings

namespace ShapeForge.Listing

/-- Pages never fail and cover a list once: whatever offset and limit are asked for, no bound leaves
the list and no number the machine words; there is no page outside the list, and inside there is the
block from the offset on, as long as the limits and the list allow; and turning the pages from the
first on comes to an end, with the whole list in them.  The limits of every environment are
positive. -/
theorem pages_cover {α : Type} (limits : Limits) (items : List α) (usual : 0 < limits.usual)
    (greatest : 0 < limits.greatest) (fits : items.length < Word.signedCount) :
    (∀ offset limit,
      wordPage? limits items offset limit = some (page? limits items offset limit) ∧
      (page? limits items offset limit = none ↔ offset < 0 ∨ items.length ≤ offset) ∧
      ∀ page, page? limits items offset limit = some page →
        page ≠ [] ∧
        (page.length : Int) = pageLength limits limit (items.length - offset) ∧
        ∃ before after, items = before ++ page ++ after ∧ before.length = offset) ∧
    (∀ limit,
      (∃ pages, Turned limits items limit 0 pages) ∧
      ∀ pages, Turned limits items limit 0 pages → pages.flatten = items) ∧
    ∀ environment,
      0 < (Tools.Settings.ofEnvironment environment).limits.usual ∧
      0 < (Tools.Settings.ofEnvironment environment).limits.greatest := by
  refine ⟨fun offset limit => ⟨wordPage?_eq usual greatest fits offset limit, page?_eq_none, ?_⟩,
    fun limit => ⟨exists_turned usual greatest items limit 0, ?_⟩, fun environment =>
      ⟨Tools.Settings.read_pos _ _ (by decide), Tools.Settings.read_pos _ _ (by decide)⟩⟩
  · intro page turned
    rcases page?_eq_some turned with ⟨inside, length, block⟩
    have positive := pageLength_pos usual greatest
      (show 0 < (items.length : Int) - offset by omega) limit
    refine ⟨ne_nil_of_page? usual greatest turned, ?_, items.take offset.toNat,
      items.drop (offset + page.length).toNat, ?_, ?_⟩
    · rw [length]
      omega
    · rw [List.append_assoc, ← block, List.take_append_drop]
    · rw [List.length_take]
      omega
  · intro pages turned
    exact turned.flatten_eq le_rfl

/-- A limit above the greatest page: five items are turned in pages of three. -/
theorem pages_cover_five :
    page? ⟨2, 3⟩ [1, 2, 3, 4, 5] 3 9223372036854775807 = some [4, 5] ∧
      wordPage? ⟨2, 3⟩ [1, 2, 3, 4, 5] 3 9223372036854775807 = some (some [4, 5]) ∧
      ∃ pages, Turned ⟨2, 3⟩ [1, 2, 3, 4, 5] 9223372036854775807 0 pages ∧
        pages.flatten = [1, 2, 3, 4, 5] := by
  have cover := pages_cover ⟨2, 3⟩ [1, 2, 3, 4, 5] (by decide) (by decide) (by decide)
  rcases cover.2.1 9223372036854775807 with ⟨⟨pages, turned⟩, whole⟩
  exact ⟨rfl, (cover.1 3 9223372036854775807).1, pages, turned, whole pages turned⟩

/-! ## Groups -/

section Groups

variable {keys others : List String} {groups sorted : List Group} {key : String}

/-- The groups of keys, in any order: each key has one, with the number of its occurrences. -/
structure Counts (keys : List String) (groups : List Group) : Prop where
  distinct : (groups.map (·.key)).Nodup
  covered : ∀ key, key ∈ groups.map (·.key) ↔ key ∈ keys
  exact : ∀ group ∈ groups, group.count = keys.count group.key

theorem keys_addKey (key : String) (groups : List Group) :
    (addKey key groups).map (·.key) =
      if key ∈ groups.map (·.key) then groups.map (·.key) else groups.map (·.key) ++ [key] := by
  induction groups with
  | nil => rfl
  | cons group rest ih =>
    rw [addKey]
    by_cases same : group.key = key
    · simp [same]
    · rw [if_neg (by simpa using same), List.map_cons, ih]
      simp only [List.map_cons, List.mem_cons, Ne.symm same, false_or]
      split <;> rfl

theorem mem_addKey {group : Group} (distinct : (groups.map (·.key)).Nodup)
    (isGroup : group ∈ addKey key groups) :
    (group ∈ groups ∧ group.key ≠ key) ∨ (key ∉ groups.map (·.key) ∧ group = { key, count := 1 }) ∨
      ∃ old ∈ groups, old.key = key ∧ group = { key, count := old.count + 1 } := by
  induction groups with
  | nil => simpa [addKey] using isGroup
  | cons first rest ih =>
    rcases List.nodup_cons.mp distinct with ⟨fresh, distinctRest⟩
    rw [addKey] at isGroup
    split at isGroup
    next same =>
      rw [beq_iff_eq] at same
      rcases List.mem_cons.mp isGroup with rfl | isRest
      · exact .inr (.inr ⟨first, List.mem_cons_self, same, by rw [same]⟩)
      · refine .inl ⟨List.mem_cons_of_mem _ isRest, ?_⟩
        rintro rfl
        exact fresh (List.mem_map.mpr ⟨group, isRest, same.symm⟩)
    next other =>
      grind

theorem Counts.addKey (counted : Counts keys groups) (key : String) :
    Counts (keys ++ [key]) (addKey key groups) := by
  constructor
  · rw [keys_addKey]
    split
    · exact counted.distinct
    next fresh =>
      rw [List.nodup_append]
      exact ⟨counted.distinct, List.nodup_singleton key, by simpa using fresh⟩
  · intro other
    rw [keys_addKey, List.mem_append, List.mem_singleton, ← counted.covered]
    grind
  · intro group isGroup
    rw [List.count_append, List.count_singleton]
    rcases mem_addKey counted.distinct isGroup with ⟨isOld, differs⟩ | ⟨fresh, rfl⟩ |
      ⟨old, isOld, rfl, rfl⟩
    · simp [counted.exact group isOld, Ne.symm differs]
    · rw [counted.covered] at fresh
      simp [List.count_eq_zero_of_not_mem fresh]
    · simp [counted.exact old isOld]

theorem Counts.foldl {seen : List String} (counted : Counts seen groups) (keys : List String) :
    Counts (seen ++ keys) (keys.foldl (fun groups key => Listing.addKey key groups) groups) := by
  induction keys generalizing seen groups with
  | nil => simpa using counted
  | cons key rest ih =>
    rw [List.append_cons]
    exact ih (counted.addKey key)

theorem Counts.perm_groups (counted : Counts keys groups) (perm : sorted.Perm groups) :
    Counts keys sorted where
  distinct := ((perm.map _).nodup_iff).mpr counted.distinct
  covered key := by rw [← counted.covered, (perm.map _).mem_iff]
  exact group isGroup := counted.exact group (perm.mem_iff.mp isGroup)

theorem counts_groups (keys : List String) : Counts keys (Listing.groups keys) := by
  have none : Counts [] [] := ⟨List.nodup_nil, by simp, by simp⟩
  exact (none.foldl keys).perm_groups (List.mergeSort_perm _ _)

theorem Counts.mem_iff {group : Group} (counted : Counts keys groups) :
    group ∈ groups ↔ group.key ∈ keys ∧ group.count = keys.count group.key := by
  constructor
  · intro isGroup
    exact ⟨(counted.covered _).mp (List.mem_map_of_mem isGroup), counted.exact group isGroup⟩
  · rintro ⟨isKey, count⟩
    rcases List.mem_map.mp ((counted.covered _).mpr isKey) with ⟨other, isGroup, same⟩
    have equal : other = group := by
      rcases group with ⟨key, number⟩
      rcases other with ⟨otherKey, otherNumber⟩
      have exact := counted.exact _ isGroup
      simp_all
    exact equal ▸ isGroup

/-- The keys determine their groups up to the order of both. -/
theorem Counts.perm (counted : Counts keys groups) (also : Counts others sorted)
    (perm : keys.Perm others) :
    groups.Perm sorted := by
  apply (List.perm_ext_iff_of_nodup counted.distinct.of_map also.distinct.of_map).mpr
  intro group
  rw [counted.mem_iff, also.mem_iff, perm.mem_iff, perm.count_eq]

theorem Counts.sum_eq (counted : Counts keys groups) :
    (groups.map (·.count)).sum = keys.length := by
  have same : groups.map (·.count) = (groups.map (·.key)).map keys.count := by
    rw [List.map_map]
    exact List.map_congr_left counted.exact
  have perm : (groups.map (·.key)).Perm keys.dedup := by
    apply (List.perm_ext_iff_of_nodup counted.distinct keys.nodup_dedup).mpr
    simp only [List.mem_dedup]
    exact counted.covered
  rw [same, (perm.map _).sum_eq, List.sum_map_count_dedup_eq_length]

/-! ## The order of groups -/

/-- A larger group, or one of the same size with a smaller key. -/
def Group.Above (left right : Group) : Prop :=
  right.count < left.count ∨ left.count = right.count ∧ left.key < right.key

theorem Group.before_iff {left right : Group} :
    left.before right = true ↔
      right.count < left.count ∨ left.count = right.count ∧ left.key ≤ right.key := by
  unfold before
  split <;> simp_all

theorem pairwise_groups (keys : List String) :
    (Listing.groups keys).Pairwise fun left right => left.before right = true := by
  apply List.pairwise_mergeSort
  · intro left middle right
    simp only [Group.before_iff]
    grind [le_trans]
  · intro left right
    simp only [Bool.or_eq_true, Group.before_iff]
    grind [le_total]

/-- However the groups of a map are listed and sorted, there is one result. -/
theorem Counts.eq_groups (counted : Counts others groups) (perm : keys.Perm others)
    (reordered : sorted.Perm groups)
    (inOrder : sorted.Pairwise fun left right => left.before right = true) :
    sorted = Listing.groups keys := by
  have same : sorted.Perm (Listing.groups keys) :=
    reordered.trans (counted.perm (counts_groups keys) perm.symm)
  refine same.eq_of_pairwise (fun left right _ _ first second => ?_) inOrder (pairwise_groups keys)
  rw [Group.before_iff] at first second
  rcases left with ⟨key, count⟩
  rcases right with ⟨otherKey, otherCount⟩
  simp only [Group.mk.injEq]
  grind [le_antisymm]

end Groups

end ShapeForge.Listing

namespace ShapeForge.Tools

open Recording

theorem ensures_check {α : Type} (result : Except Fault α) :
    Ensures (Work.check result) fun value => result = .ok value := by
  intro desk value succeeded
  cases result with
  | error fault => cases succeeded
  | ok other => exact succeeded

/-- Groups are counted of all shapes that were asked for. -/
theorem ensures_inspect (settings : Settings) (now : Moment) {arguments : InspectArguments}
    (grouped : arguments.groupBy ≠ "") :
    Ensures (inspect settings now arguments) fun answer => ∃ found, answer = .inspect found ∧
      ∃ matched : List ShapeSummary, found.matched = matched.length ∧
        found.groups = Listing.countBy matched (groupKey arguments.groupBy) := by
  refine ensures_bind fun _ => ensures_bind fun _ =>
    ensures_bind fun loaded => ?_
  refine (ensures_check _).bind fun found inspected => ensures_pure ⟨found, rfl, ?_⟩
  rcases bind_eq_ok.mp inspected with ⟨services, -, inspected⟩
  rw [if_neg (by simpa using grouped)] at inspected
  cases inspected
  exact ⟨_, rfl, rfl⟩

end ShapeForge.Tools

namespace ShapeForge.Listing

/-- Items are counted exactly: every key has one group, with the number of its items; larger groups
come first, and of equal ones that with the smaller key.  Neither the order of the items nor that in
which the groups are listed before they are sorted matters.  So the groups that a model is inspected
by add up to the shapes that were asked for. -/
theorem groups_counted {α : Type} (items : List α) (key : α → String) :
    (∀ group, group ∈ countBy items key ↔
      group.key ∈ items.map key ∧ group.count = (items.map key).count group.key) ∧
    ((countBy items key).map (·.key)).Nodup ∧
    (∀ group ∈ countBy items key, 0 < group.count) ∧
    ((countBy items key).map (·.count)).sum = items.length ∧
    (countBy items key).Pairwise Group.Above ∧
    (∀ others, items.Perm others → countBy others key = countBy items key) ∧
    (∀ counted sorted, Counts (items.map key) counted → sorted.Perm counted →
      (sorted.Pairwise fun left right => left.before right = true) →
      sorted = countBy items key) ∧
    ∀ settings now desk arguments answer, arguments.groupBy ≠ "" →
      ((Tools.inspect settings now arguments).run desk).1 = .ok (.inspect answer) →
      (answer.groups.map (·.count)).sum = answer.matched := by
  have counts := counts_groups (items.map key)
  refine ⟨fun _ => counts.mem_iff, counts.distinct, ?_, ?_, ?_, ?_, ?_, ?_⟩
  · intro group isGroup
    rw [(counts.mem_iff.mp isGroup).2]
    exact List.count_pos_iff.mpr (counts.mem_iff.mp isGroup).1
  · rw [countBy, counts.sum_eq, List.length_map]
  · have apart := List.pairwise_map.mp counts.distinct
    refine ((pairwise_groups _).and apart).imp fun {left right} both => ?_
    rcases Group.before_iff.mp both.1 with larger | ⟨same, below⟩
    · exact .inl larger
    · exact .inr ⟨same, lt_of_le_of_ne below both.2⟩
  · intro others perm
    exact (counts_groups _).eq_groups (perm.map key) .rfl (pairwise_groups _)
  · intro counted sorted isCounted reordered inOrder
    exact isCounted.eq_groups .rfl reordered inOrder
  · intro settings now desk arguments answer grouped inspected
    rcases Tools.ensures_inspect settings now grouped desk _ inspected with
      ⟨found, same, matched, count, groups⟩
    cases same
    rw [groups, count, countBy, (counts_groups _).sum_eq, List.length_map]

end ShapeForge.Listing
