import ShapeForge.Files.Path
import ShapeForge.Proofs.Text.Lines

/-!
# Places of paths

The place of a path is the list of elements that lead to it: steps up first, then names.  Cleaning a
path keeps its place, and joining a name to a path adds the name to the place.
-/

namespace ShapeForge.Text

/-! ## Splitting -/

theorem splitWhere_append (cut : Char → Bool) {c : Char}
    (isCut : cut c = true) (before rest : List Char) :
    splitWhere cut (before ++ c :: rest) = splitWhere cut before ++ splitWhere cut rest := by
  induction before with
  | nil =>
    rw [List.nil_append, splitWhere.eq_2, if_pos isCut]
    rfl
  | cons first before ih =>
    rw [List.cons_append, splitWhere, splitWhere, ih]
    split
    · rfl
    · cases pieces : splitWhere cut before with
      | nil => exact absurd pieces (splitWhere_ne_nil cut before)
      | cons piece others => rfl

theorem split_append (separator : Char) (before after : String) :
    split separator (before ++ String.singleton separator ++ after) =
      split separator before ++ split separator after := by
  have chars : (before ++ String.singleton separator ++ after).toList =
      before.toList ++ separator :: after.toList := by
    simp
  rw [split, chars, splitWhere_append (· == separator) (beq_self_eq_true separator),
    List.map_append]
  rfl

theorem intercalate_splitWhere (separator : Char) (chars : List Char) :
    [separator].intercalate (splitWhere (· == separator) chars) = chars := by
  induction chars with
  | nil => rfl
  | cons first rest ih =>
    rw [splitWhere]
    cases pieces : splitWhere (· == separator) rest with
    | nil => exact absurd pieces (splitWhere_ne_nil _ rest)
    | cons piece others =>
      rw [pieces] at ih
      split
      · next isCut =>
          rw [List.intercalate_cons_cons, ih, beq_iff_eq.mp isCut]
          rfl
      · cases others with
        | nil => simpa using ih
        | cons next others =>
          rw [List.intercalate_cons_cons] at ih ⊢
          rw [← ih]
          rfl

variable {separator : Char}

theorem split_inj {left right : String} :
    split separator left = split separator right ↔ left = right := by
  refine ⟨fun same => ?_, fun same => by rw [same]⟩
  have pieces :
      splitWhere (· == separator) left.toList = splitWhere (· == separator) right.toList := by
    have chars := congrArg (List.map String.toList) same
    simpa [split, Function.comp_def] using chars
  rw [← String.toList_inj, ← intercalate_splitWhere separator left.toList, pieces,
    intercalate_splitWhere]

theorem split_of_not_mem {text : String} (absent : separator ∉ text.toList) :
    split separator text = [text] := by
  have uncut (chars : List Char) (absent : separator ∉ chars) :
      splitWhere (· == separator) chars = [chars] := by
    induction chars with
    | nil => rfl
    | cons first rest ih =>
      rcases not_or.mp (mt List.mem_cons.mpr absent) with ⟨other, absent⟩
      have kept : (first == separator) = false := beq_false_of_ne (Ne.symm other)
      rw [splitWhere, ih absent, kept]
      rfl
  rw [split, uncut _ absent, List.map_singleton, String.ofList_toList]

theorem split_intercalate {parts : List String} (some : parts ≠ [])
    (uncut : ∀ part ∈ parts, separator ∉ part.toList) :
    split separator ((String.singleton separator).intercalate parts) = parts := by
  induction parts with
  | nil => exact absurd rfl some
  | cons part rest ih =>
    rcases List.forall_mem_cons.mp uncut with ⟨first, others⟩
    cases rest with
    | nil => rw [String.intercalate_singleton, split_of_not_mem first]
    | cons next rest =>
      rw [String.intercalate_cons_cons, split_append, split_of_not_mem first,
        ih (List.cons_ne_nil _ _) others]
      rfl

theorem not_mem_of_mem_split {text piece : String} (isPiece : piece ∈ split separator text) :
    separator ∉ piece.toList := by
  rcases List.mem_map.mp isPiece with ⟨chars, isChars, rfl⟩
  intro isIn
  rw [String.toList_ofList] at isIn
  simpa using not_cut_of_splitWhere isChars isIn

end ShapeForge.Text

namespace ShapeForge.Path

/-! ## Elements -/

/-- An element that names something below the place before it. -/
structure IsPlain (element : String) : Prop where
  given : element ≠ ""
  notHere : element ≠ "."
  notUp : element ≠ ".."
  whole : '/' ∉ element.toList

instance (element : String) : Decidable (IsPlain element) :=
  decidable_of_iff (element ≠ "" ∧ element ≠ "." ∧ element ≠ ".." ∧ '/' ∉ element.toList)
    ⟨fun ⟨given, notHere, notUp, whole⟩ => ⟨given, notHere, notUp, whole⟩,
      fun plain => ⟨plain.given, plain.notHere, plain.notUp, plain.whole⟩⟩

/-- Steps up, which a path from the root does not have, and then plain elements. -/
def IsNormal (rooted : Bool) (parts : List String) : Prop :=
  ∃ (up : Nat) (rest : List String), parts = List.replicate up ".." ++ rest ∧
    (∀ element ∈ rest, IsPlain element) ∧ (rooted = true → up = 0)

theorem push_of_plain {element : String}
    (plain : IsPlain element) (rooted : Bool) (before : List String) :
    push rooted before element = element :: before := by
  unfold push
  simp [plain.given, plain.notHere, plain.notUp]

variable {parts init paths : List String} {rooted : Bool} {path name : String}

theorem foldl_push_of_plain
    (plain : ∀ element ∈ parts, IsPlain element) (rooted : Bool) (before : List String) :
    parts.foldl (push rooted) before = parts.reverse ++ before := by
  induction parts generalizing before with
  | nil => rfl
  | cons element rest ih =>
    rcases List.forall_mem_cons.mp plain with ⟨first, others⟩
    rw [List.foldl_cons, push_of_plain first, ih others, List.reverse_cons, List.append_assoc]
    rfl

theorem push_up (count : Nat) :
    push false (List.replicate count "..") ".." = List.replicate (count + 1) ".." := by
  cases count <;> rfl

theorem foldl_push_up (count : Nat) (before : Nat) :
    (List.replicate count "..").foldl (push false) (List.replicate before "..") =
      List.replicate (count + before) ".." := by
  induction count generalizing before with
  | zero => simp
  | succ count ih =>
    rw [List.replicate_succ, List.foldl_cons, push_up, ih]
    congr 1
    omega

theorem IsNormal.foldl_push (normal : IsNormal rooted parts) :
    parts.foldl (push rooted) [] = parts.reverse := by
  rcases normal with ⟨up, rest, rfl, plain, rootedUp⟩
  rw [List.foldl_append, List.reverse_append, List.reverse_replicate, ← foldl_push_of_plain plain]
  congr 1
  cases rooted with
  | true =>
    rw [rootedUp rfl]
    rfl
  | false => simpa using foldl_push_up up 0

theorem IsNormal.of_prefix (normal : IsNormal rooted parts) (isInit : init <+: parts) :
    IsNormal rooted init := by
  rcases normal with ⟨up, rest, rfl, plain, rootedUp⟩
  rw [List.prefix_iff_eq_take.mp isInit, List.take_append, List.take_replicate]
  refine ⟨_, _, rfl, fun element isIn => plain element (List.mem_of_mem_take isIn), ?_⟩
  intro isRooted
  simp [rootedUp isRooted]

theorem IsNormal.append {more : List String} (normal : IsNormal rooted parts)
    (plain : ∀ element ∈ more, IsPlain element) :
    IsNormal rooted (parts ++ more) := by
  rcases normal with ⟨up, rest, rfl, areRest, rootedUp⟩
  refine ⟨up, rest ++ more, List.append_assoc _ _ _, ?_, rootedUp⟩
  intro element isIn
  rcases List.mem_append.mp isIn with isRest | isMore
  · exact areRest element isRest
  · exact plain element isMore

/-- A step up cancels a last plain element, which follows all steps up, or leads further up. -/
theorem IsNormal.push_up {before : List String} (normal : IsNormal rooted before.reverse) :
    (push rooted before "..").reverse <+: before.reverse ∨ rooted = false ∧
      ∃ count, (push rooted before "..").reverse = List.replicate count ".." := by
  rcases normal with ⟨up, rest, parts, plain, rootedUp⟩
  rcases List.eq_nil_or_concat rest with rfl | ⟨init, last, rfl⟩
  · rw [List.append_nil, List.reverse_eq_iff, List.reverse_replicate] at parts
    subst parts
    cases rooted with
    | true =>
      rw [rootedUp rfl]
      exact .inl (List.prefix_refl _)
    | false =>
      refine .inr ⟨rfl, up + 1, ?_⟩
      rw [Path.push_up, List.reverse_replicate]
  · have reversed : before = last :: (List.replicate up ".." ++ init).reverse := by
      rw [← List.reverse_inj, parts]
      simp
    have named : IsPlain last := plain last (by simp)
    left
    rw [reversed]
    simp [push, named.notUp]

theorem IsNormal.push {before : List String} {element : String}
    (normal : IsNormal rooted before.reverse) (whole : '/' ∉ element.toList) :
    IsNormal rooted (push rooted before element).reverse := by
  by_cases empty : element = ""
  · subst empty
    exact normal
  by_cases here : element = "."
  · subst here
    exact normal
  by_cases isUp : element = ".."
  · subst isUp
    rcases normal.push_up with isInit | ⟨rfl, count, same⟩
    · exact normal.of_prefix isInit
    · rw [same]
      exact ⟨count, [], by simp, by simp, nofun⟩
  · have plain : IsPlain element := ⟨empty, here, isUp, whole⟩
    rw [push_of_plain plain, List.reverse_cons]
    exact normal.append (by simpa using plain)

theorem normal_elements (path : String) : IsNormal (isAbsolute path) (elements path) := by
  have pieces (parts before : List String)
      (whole : ∀ part ∈ parts, '/' ∉ part.toList)
      (normal : IsNormal (isAbsolute path) before.reverse) :
      IsNormal (isAbsolute path) (parts.foldl (push (isAbsolute path)) before).reverse := by
    induction parts generalizing before with
    | nil => exact normal
    | cons part rest ih =>
      rcases List.forall_mem_cons.mp whole with ⟨first, others⟩
      exact ih _ others (normal.push first)
  exact pieces _ [] (fun _ => Text.not_mem_of_mem_split) ⟨0, [], rfl, by simp, fun _ => rfl⟩

theorem IsNormal.ne_empty (normal : IsNormal rooted parts) :
    ∀ part ∈ parts, part ≠ "" ∧ '/' ∉ part.toList := by
  rcases normal with ⟨up, rest, rfl, plain, -⟩
  intro part isPart
  rcases List.mem_append.mp isPart with isUp | isRest
  · rw [List.eq_of_mem_replicate isUp]
    decide
  · exact ⟨(plain part isRest).given, (plain part isRest).whole⟩

/-- If elements that lead to a place end with a step up, all of them are steps up. -/
theorem IsNormal.all_up (normal : IsNormal rooted (parts ++ [".."])) :
    rooted = false ∧ ∀ part ∈ parts ++ [".."], part = ".." := by
  rcases normal with ⟨up, rest, same, plain, rootedUp⟩
  rcases List.eq_nil_or_concat rest with rfl | ⟨init, last, rfl⟩
  · rw [List.append_nil] at same
    constructor
    · cases rooted with
      | false => rfl
      | true => simp [rootedUp rfl] at same
    · rw [same]
      exact fun _ => List.eq_of_mem_replicate
  · rw [List.concat_eq_append, ← List.append_assoc] at same
    have isLast : ".." = last := by simpa using (List.append_inj' same rfl).2
    exact absurd isLast.symm (plain last (by simp)).notUp

/-! ## Paths of elements -/

theorem head?_intercalate {part : String} (rest : List String)
    (given : part ≠ "") (whole : '/' ∉ part.toList) :
    ∃ c chars, ("/".intercalate (part :: rest)).toList = c :: chars ∧ c ≠ '/' := by
  cases first : part.toList with
  | nil => exact absurd (String.toList_eq_nil_iff.mp first) given
  | cons c chars =>
    have other : c ≠ '/' := by
      rintro rfl
      exact whole (by simp [first])
    cases rest with
    | nil =>
      rw [String.intercalate_singleton]
      exact ⟨c, chars, first, other⟩
    | cons next rest =>
      rw [String.intercalate_cons_cons, String.toList_append, String.toList_append, first]
      exact ⟨c, _, rfl, other⟩

theorem isAbsolute_of_toList {c : Char} {chars : List Char} (starts : path.toList = c :: chars) :
    isAbsolute path = (c == '/') := by
  rw [isAbsolute, starts]
  rfl

theorem intercalate_ne_empty (some : paths ≠ []) (given : ∀ path ∈ paths, path ≠ "") :
    "/".intercalate paths ≠ "" := by
  cases paths with
  | nil => exact absurd rfl some
  | cons path rest =>
    have first := given path List.mem_cons_self
    cases rest with
    | nil => simpa using first
    | cons next rest =>
      rw [String.intercalate_cons_cons]
      simp

theorem ofElements_false (normal : IsNormal false parts) (some : parts ≠ []) :
    ofElements false parts = "/".intercalate parts := by
  have nonempty := intercalate_ne_empty some fun part isPart => (normal.ne_empty part isPart).1
  simp [ofElements, nonempty]

theorem isAbsolute_ofElements (normal : IsNormal rooted parts) :
    isAbsolute (ofElements rooted parts) = rooted := by
  cases rooted with
  | true =>
    rw [ofElements, if_pos rfl]
    exact isAbsolute_of_toList (c := '/') (by rw [String.toList_append]; rfl)
  | false =>
    cases parts with
    | nil => rfl
    | cons part rest =>
      rcases normal.ne_empty part List.mem_cons_self with ⟨given, whole⟩
      rcases head?_intercalate rest given whole with ⟨c, chars, starts, other⟩
      rw [ofElements_false normal (List.cons_ne_nil part rest), isAbsolute_of_toList starts]
      exact beq_false_of_ne other

/-- The elements of a path stand between its slashes, behind the one of the root. -/
theorem split_ofElements (normal : IsNormal rooted parts) (nonempty : parts ≠ []) :
    Text.split '/' (ofElements rooted parts) = if rooted then "" :: parts else parts := by
  have uncut : ∀ element ∈ parts, '/' ∉ element.toList :=
    fun element isIn => (normal.ne_empty element isIn).2
  have pieces : Text.split '/' ("/".intercalate parts) = parts :=
    Text.split_intercalate nonempty uncut
  cases rooted with
  | true =>
    have behind := Text.split_append '/' "" ("/".intercalate parts)
    rw [pieces] at behind
    rw [ofElements, if_pos rfl, if_pos rfl]
    exact behind
  | false => rw [ofElements_false normal nonempty, pieces, if_neg Bool.false_ne_true]

theorem elements_ofElements (normal : IsNormal rooted parts) :
    elements (ofElements rooted parts) = parts := by
  rw [elements, isAbsolute_ofElements normal]
  by_cases empty : parts = []
  · subst empty
    cases rooted <;> rfl
  · have reversed := congrArg List.reverse normal.foldl_push
    rw [List.reverse_reverse] at reversed
    rw [split_ofElements normal empty]
    cases rooted <;> exact reversed

theorem place_eq (path : String) : place path = placeOf (isAbsolute path) (elements path) :=
  rfl

theorem placeOf_append (rooted : Bool) (parts more : List String) :
    placeOf rooted (parts ++ more) = placeOf rooted parts ++ more := by
  cases rooted <;> rfl

theorem place_ofElements (normal : IsNormal rooted parts) :
    place (ofElements rooted parts) = placeOf rooted parts := by
  rw [place_eq, isAbsolute_ofElements normal, elements_ofElements normal]

theorem place_clean (path : String) : place (clean path) = place path := by
  rw [clean, place_ofElements (normal_elements path), place_eq]

/-! ## Joining -/

theorem isAbsolute_append (given : path ≠ "") (more : String) :
    isAbsolute (path ++ more) = isAbsolute path := by
  cases chars : path.toList with
  | nil => exact absurd (String.toList_eq_nil_iff.mp chars) given
  | cons c rest =>
    have longer : (path ++ more).toList = c :: (rest ++ more.toList) := by
      rw [String.toList_append, chars, List.cons_append]
    rw [isAbsolute_of_toList longer, isAbsolute_of_toList chars]

theorem place_append_eq (given : path ≠ "") (more : String) :
    place (path ++ "/" ++ more) =
      placeOf (isAbsolute path)
        ((Text.split '/' more).foldl (push (isAbsolute path)) (elements path).reverse).reverse := by
  have pieces : Text.split '/' (path ++ "/" ++ more) =
      Text.split '/' path ++ Text.split '/' more :=
    Text.split_append '/' path more
  rw [place_eq, String.append_assoc, isAbsolute_append given, elements, isAbsolute_append given,
    ← String.append_assoc, pieces, List.foldl_append, elements, List.reverse_reverse]

/-- A relative path of plain elements behind another path leads on from its place. -/
theorem place_append {more : String} (given : path ≠ "")
    (plain : ∀ element ∈ Text.split '/' more, IsPlain element) :
    place (path ++ "/" ++ more) = place path ++ Text.split '/' more := by
  rw [place_append_eq given, foldl_push_of_plain plain, List.reverse_append, List.reverse_reverse,
    List.reverse_reverse, placeOf_append, place_eq]

theorem place_of_plain (plain : ∀ element ∈ Text.split '/' path, IsPlain element) :
    place path = Text.split '/' path := by
  have relative : isAbsolute path = false := by
    cases chars : path.toList with
    | nil => rw [isAbsolute, chars]; rfl
    | cons c rest =>
      rw [isAbsolute_of_toList chars]
      apply beq_false_of_ne
      rintro rfl
      -- A leading slash makes the first element empty.
      have first : "" ∈ Text.split '/' path := by
        rw [Text.split, chars]
        exact List.mem_cons_self
      exact (plain "" first).given rfl
  rw [place_eq, relative, elements, relative, foldl_push_of_plain plain, List.append_nil,
    List.reverse_reverse]
  rfl

theorem intercalate_concat (some : paths ≠ []) (last : String) :
    "/".intercalate (paths ++ [last]) = "/".intercalate paths ++ "/" ++ last := by
  induction paths with
  | nil => exact absurd rfl some
  | cons path rest ih =>
    cases rest with
    | nil => simp [String.intercalate_cons_cons]
    | cons next rest =>
      have inner := ih (List.cons_ne_nil next rest)
      rw [List.cons_append] at inner
      rw [List.cons_append, List.cons_append, String.intercalate_cons_cons, inner,
        String.intercalate_cons_cons]
      simp only [String.append_assoc]

theorem place_join_concat (paths : List String) {last : String}
    (plain : ∀ element ∈ Text.split '/' last, IsPlain element) :
    place (join (paths ++ [last])) = place (join paths) ++ Text.split '/' last := by
  have given : last.isEmpty = false := by
    rw [← Bool.not_eq_true, String.isEmpty_iff]
    rintro rfl
    exact (plain "" List.mem_cons_self).given rfl
  unfold join
  simp only [List.filter_append, List.filter_cons, given, Bool.not_false, if_true, List.filter_nil]
  cases before : paths.filter (!·.isEmpty) with
  | nil =>
    rw [List.nil_append, List.isEmpty_cons, if_neg Bool.false_ne_true, place_clean,
      String.intercalate_singleton, place_of_plain plain]
    rfl
  | cons path rest =>
    have areGiven : ∀ part ∈ path :: rest, part ≠ "" := by
      intro part isPart
      rw [← before] at isPart
      simpa using (List.mem_filter.mp isPart).2
    have nonempty := intercalate_ne_empty (List.cons_ne_nil path rest) areGiven
    rw [List.isEmpty_cons, if_neg Bool.false_ne_true, List.cons_append, List.isEmpty_cons,
      if_neg Bool.false_ne_true, place_clean, place_clean, ← List.cons_append,
      intercalate_concat (List.cons_ne_nil path rest), place_append nonempty plain]

theorem place_join_singleton (path : String) : place (join [path]) = place path := by
  by_cases given : path = ""
  · subst given
    rfl
  · simp [join, given, place_clean]

/-- A name joined to a path stands at the place of the path, under the name. -/
theorem place_join (path : String) (plain : IsPlain name) :
    place (join [path, name]) = place path ++ [name] := by
  have whole := Text.split_of_not_mem plain.whole
  have elements : ∀ element ∈ Text.split '/' name, IsPlain element := by
    simpa [whole] using plain
  have joined := place_join_concat [path] elements
  rw [place_join_singleton, whole] at joined
  exact joined

theorem placeOf_inj {other : Bool} {others : List String}
    (normal : IsNormal rooted parts) (otherNormal : IsNormal other others)
    (same : placeOf rooted parts = placeOf other others) :
    rooted = other ∧ parts = others := by
  have noRoot {rooted : Bool} {parts : List String} (normal : IsNormal rooted parts) :
      "/" ∉ parts := by
    intro isRoot
    exact (normal.ne_empty "/" isRoot).2 (by decide)
  cases rooted with
  | true =>
    cases other with
    | true => exact ⟨rfl, List.tail_eq_of_cons_eq same⟩
    | false =>
      have isRoot : "/" ∈ others := by
        rw [show others = "/" :: parts from same.symm]
        exact List.mem_cons_self
      exact absurd isRoot (noRoot otherNormal)
  | false =>
    cases other with
    | true =>
      have isRoot : "/" ∈ parts := by
        rw [show parts = "/" :: others from same]
        exact List.mem_cons_self
      exact absurd isRoot (noRoot normal)
    | false => exact ⟨rfl, same⟩

theorem dropShared_append (shared more : List String) :
    dropShared shared (shared ++ more) = ([], more) := by
  induction shared with
  | nil => cases more <;> rfl
  | cons part rest ih => simp [dropShared, ih]

/-- From a directory to what is joined to it, the path is what is joined. -/
theorem rel?_join (path : String) {more : String}
    (plain : ∀ element ∈ Text.split '/' more, IsPlain element) :
    rel? path (join [path, more]) = some (ofElements false (Text.split '/' more)) := by
  have joined := place_join_concat [path] plain
  rw [place_join_singleton, place_eq, place_eq path, ← placeOf_append] at joined
  rcases placeOf_inj (normal_elements _) ((normal_elements path).append plain) joined with
    ⟨rooted, parts⟩
  unfold rel?
  rw [List.singleton_append] at rooted parts
  simp [rooted, parts, dropShared_append]

/-! ## Last elements -/

theorem takeWhile_whole (whole : '/' ∉ name.toList) :
    name.toList.reverse.takeWhile (· != '/') = name.toList.reverse := by
  rw [List.takeWhile_eq_self_iff]
  intro c isIn
  rw [bne_iff_ne]
  rintro rfl
  exact whole (List.mem_reverse.mp isIn)

theorem base_of_plain (plain : IsPlain name) : base name = name := by
  have nonempty : name.isEmpty = false := by simpa using plain.given
  have unstripped : name.toList.reverse.dropWhile (· == '/') = name.toList.reverse := by
    cases chars : name.toList.reverse with
    | nil => rfl
    | cons c rest =>
      have isIn : c ∈ name.toList := List.mem_reverse.mp (chars ▸ List.mem_cons_self)
      rw [List.dropWhile_cons_of_neg]
      simpa using ne_of_mem_of_not_mem isIn plain.whole
  have some : name.toList.reverse.isEmpty = false := by
    simpa using plain.given
  unfold base
  rw [nonempty, if_neg Bool.false_ne_true]
  simp only [unstripped, some, takeWhile_whole plain.whole, List.reverse_reverse,
    String.ofList_toList, Bool.false_eq_true, if_false]

/-- A text that is its own last element names something, or is one of three texts that do not. -/
theorem plain_of_base (own : base name = name) :
    IsPlain name ∨ name = "." ∨ name = ".." ∨ name = "/" := by
  have given : name ≠ "" := by
    rintro rfl
    exact absurd own (by decide)
  by_cases here : name = "."
  · exact .inr (.inl here)
  by_cases up : name = ".."
  · exact .inr (.inr (.inl up))
  by_cases root : name = "/"
  · exact .inr (.inr (.inr root))
  refine .inl ⟨given, here, up, ?_⟩
  have nonempty : name.isEmpty = false := by simpa using given
  unfold base at own
  rw [nonempty, if_neg Bool.false_ne_true] at own
  simp only at own
  split at own
  · exact absurd own.symm root
  · rw [← own]
    intro isIn
    rw [String.toList_ofList] at isIn
    simpa using (List.mem_takeWhile_imp (List.mem_reverse.mp isIn))

theorem intercalate_split (path : String) : "/".intercalate (Text.split '/' path) = path := by
  rw [← @Text.split_inj '/']
  apply Text.split_intercalate
  · rw [Text.split, ne_eq, List.map_eq_nil_iff]
    exact Text.splitWhere_ne_nil _ _
  · exact fun _ => Text.not_mem_of_mem_split

/-- A path ends as its last element does. -/
theorem ext_of_split {last : String} (pieces : Text.split '/' path = init ++ [last]) :
    ext path = ext last := by
  have isPiece : last ∈ Text.split '/' path := by simp [pieces]
  have whole := Text.not_mem_of_mem_split isPiece
  have own := takeWhile_whole whole
  have joined := intercalate_split path
  rw [pieces] at joined
  by_cases empty : init = []
  · subst empty
    rw [← joined, List.nil_append, String.intercalate_singleton]
  · rw [intercalate_concat empty] at joined
    have chars : path.toList.reverse =
        last.toList.reverse ++ '/' :: ("/".intercalate init).toList.reverse := by
      rw [← joined]
      simp
    have cut : path.toList.reverse.takeWhile (· != '/') = last.toList.reverse := by
      rw [chars, List.takeWhile_append_of_pos (List.takeWhile_eq_self_iff.mp own)]
      simp
    unfold ext
    rw [cut, own]

theorem place_join_eq (given : path ≠ "") (name : String) (some : name ≠ "") :
    place (join [path, name]) =
      placeOf (isAbsolute path)
        ((Text.split '/' name).foldl (push (isAbsolute path)) (elements path).reverse).reverse := by
  have joined : join [path, name] = clean (path ++ "/" ++ name) := by
    simp [join, given, some, String.intercalate_cons_cons]
  rw [joined, place_clean, place_append_eq given]

/-- Where the three texts lead that name nothing: to the path itself, above it, or further up. -/
theorem place_join_unnamed (given : path ≠ "") (unnamed : name = "." ∨ name = ".." ∨ name = "/") :
    place (join [path, name]) <+: place path ∨
      ∃ count, place (join [path, name]) = List.replicate count ".." := by
  rw [place_eq path]
  rcases unnamed with rfl | rfl | rfl
  · rw [place_join_eq given _ (by decide)]
    exact .inl (by simp [show Text.split '/' "." = ["."] from rfl, push])
  · rw [place_join_eq given _ (by decide), show Text.split '/' ".." = [".."] from rfl,
      List.foldl_cons, List.foldl_nil]
    have normal : IsNormal (isAbsolute path) (elements path).reverse.reverse := by
      rw [List.reverse_reverse]
      exact normal_elements path
    rcases normal.push_up with isInit | ⟨relative, count, same⟩
    · rw [List.reverse_reverse] at isInit
      rcases isInit with ⟨last, same⟩
      exact .inl ⟨last, by rw [← placeOf_append, same]⟩
    · rw [same, relative]
      exact .inr ⟨count, rfl⟩
  · rw [place_join_eq given _ (by decide)]
    exact .inl (by simp [show Text.split '/' "/" = ["", ""] from rfl, push])

/-! ## Clean paths -/

/-- The path is the shortest one for its place. -/
def IsClean (path : String) : Prop :=
  ∃ rooted parts, IsNormal rooted parts ∧ path = ofElements rooted parts

theorem isClean_clean (path : String) : IsClean (clean path) :=
  ⟨_, _, normal_elements path, rfl⟩

/-- A place has one clean path. -/
theorem clean_of_place {other : String} (same : place path = place other) :
    clean path = clean other := by
  rcases placeOf_inj (normal_elements path) (normal_elements other) same with ⟨rooted, parts⟩
  rw [clean, clean, rooted, parts]

theorem isClean_join (path : String) (isPath : path ∈ paths) (given : path ≠ "") :
    IsClean (join paths) := by
  have isGiven : path ∈ paths.filter (!·.isEmpty) :=
    List.mem_filter.mpr ⟨isPath, by simpa using given⟩
  have some : (paths.filter (!·.isEmpty)).isEmpty = false := by
    rw [List.isEmpty_eq_false_iff_exists_mem]
    exact ⟨path, isGiven⟩
  refine ⟨_, _, normal_elements ("/".intercalate (paths.filter (!·.isEmpty))), ?_⟩
  simp only [join, some]
  rfl

theorem ofElements_ne_empty (rooted : Bool) (parts : List String) :
    ofElements rooted parts ≠ "" := by
  unfold ofElements
  cases rooted with
  | true => simp
  | false =>
    simp only [Bool.false_eq_true, if_false]
    split
    · decide
    · rename_i nonempty
      simpa using nonempty

theorem IsClean.ne_empty (isClean : IsClean path) : path ≠ "" := by
  rcases isClean with ⟨rooted, parts, -, rfl⟩
  exact ofElements_ne_empty rooted parts

/-- A clean path that ends in an element does not end in a slash. -/
theorem getLast?_ofElements (rooted : Bool) (parts : List String) {last : String}
    (given : last ≠ "") (whole : '/' ∉ last.toList) :
    (ofElements rooted (parts ++ [last])).toList.getLast? ≠ some '/' := by
  have ends : ∃ lead, "/".intercalate (parts ++ [last]) = lead ++ last := by
    cases parts with
    | nil => exact ⟨"", by simp⟩
    | cons part rest =>
      exact ⟨_, intercalate_concat (List.cons_ne_nil part rest) last⟩
  rcases ends with ⟨lead, ends⟩
  have chars (before : String) : (before ++ last).toList.getLast? ≠ some '/' := by
    intro slash
    rw [String.toList_append, List.getLast?_append] at slash
    cases tail : last.toList.getLast? with
    | none => exact given (String.toList_eq_nil_iff.mp (List.getLast?_eq_none_iff.mp tail))
    | some c =>
      rw [tail, Option.some_or, Option.some.injEq] at slash
      rw [slash] at tail
      exact whole (List.mem_of_getLast? tail)
  have nonempty : (lead ++ last).isEmpty = false := by
    simp [given]
  unfold ofElements
  simp only [ends, nonempty]
  cases rooted with
  | true =>
    rw [if_pos rfl, ← String.append_assoc]
    exact chars _
  | false => exact chars lead

/-! ## Ancestors -/

/-- The beginnings of a list that are not empty, shortest first. -/
def leading : List String → List (List String)
  | [] => []
  | part :: rest => [part] :: (leading rest).map (part :: ·)

theorem prefix_of_mem_leading (isInit : init ∈ leading parts) : init ≠ [] ∧ init <+: parts := by
  induction parts generalizing init with
  | nil => cases isInit
  | cons part rest ih =>
    rcases List.mem_cons.mp isInit with rfl | isInit
    · exact ⟨List.cons_ne_nil part [], by simp⟩
    · rcases List.mem_map.mp isInit with ⟨tail, isTail, rfl⟩
      exact ⟨List.cons_ne_nil part tail, (List.prefix_cons_inj part).mpr (ih isTail).2⟩

theorem ancestors_append {chars : List Char} (whole : '/' ∉ chars) (before rest : List Char) :
    ancestors before (chars ++ rest) = ancestors (chars.reverse ++ before) rest := by
  induction chars generalizing before with
  | nil => rfl
  | cons c chars ih =>
    rcases not_or.mp (mt List.mem_cons.mpr whole) with ⟨other, whole⟩
    have kept : (c == '/') = false := beq_false_of_ne (Ne.symm other)
    rw [List.cons_append, ancestors, kept, ih whole, List.reverse_cons, List.append_assoc]
    rfl

theorem ancestors_intercalate (some : parts ≠ [])
    (given : ∀ part ∈ parts, part ≠ "" ∧ '/' ∉ part.toList) (before : List Char) :
    ancestors before ("/".intercalate parts).toList =
      (leading parts).map fun init =>
        String.ofList (before.reverse ++ ("/".intercalate init).toList) := by
  induction parts generalizing before with
  | nil => exact absurd rfl some
  | cons part rest ih =>
    rcases List.forall_mem_cons.mp given with ⟨⟨first, whole⟩, others⟩
    cases rest with
    | nil =>
      have single := ancestors_append whole before []
      rw [List.append_nil] at single
      rw [String.intercalate_singleton, single]
      simp [ancestors, leading]
    | cons next rest =>
      rcases others next List.mem_cons_self with ⟨nextGiven, nextWhole⟩
      rcases head?_intercalate rest nextGiven nextWhole with ⟨c, chars, starts, other⟩
      have step := ih (List.cons_ne_nil next rest) others
        ('/' :: (part.toList.reverse ++ before))
      have nonempty : (part.toList.reverse ++ before).isEmpty = false := by
        simp [String.toList_eq_nil_iff, first]
      have inner : ∀ init ∈ leading (next :: rest),
          "/".intercalate (part :: init) = part ++ "/" ++ "/".intercalate init := by
        intro init isInit
        cases init with
        | nil => exact absurd rfl (prefix_of_mem_leading isInit).1
        | cons head tail => exact String.intercalate_cons_cons
      have cuts : (('/' == '/') &&
          ("/".intercalate (next :: rest)).toList.head?.any (· != '/') &&
          !(part.toList.reverse ++ before).isEmpty) = true := by
        simp [starts, other, nonempty]
      rw [String.intercalate_cons_cons, String.append_assoc, String.toList_append,
        ancestors_append whole, String.toList_append]
      show ancestors _ ('/' :: ("/".intercalate (next :: rest)).toList) = _
      have leads : leading (part :: next :: rest) =
          [part] :: (leading (next :: rest)).map (part :: ·) := rfl
      rw [ancestors, if_pos cuts, step, leads, List.map_cons, List.map_map]
      apply congrArg₂ List.cons
      · simp
      · apply List.map_congr_left
        intro init isInit
        rw [Function.comp_apply, inner init isInit]
        simp

theorem ancestors_ofElements (normal : IsNormal rooted parts) (some : parts ≠ []) :
    ancestors [] (ofElements rooted parts).toList = (leading parts).map (ofElements rooted) := by
  have spread := ancestors_intercalate some normal.ne_empty
  cases rooted with
  | true =>
    have behind : ancestors [] (ofElements true parts).toList =
        ancestors ['/'] ("/".intercalate parts).toList := by
      rw [ofElements, if_pos rfl, String.toList_append]
      show ancestors [] ('/' :: ("/".intercalate parts).toList) = _
      rw [ancestors]
      simp
    rw [behind, spread]
    apply List.map_congr_left
    intro init _
    rw [ofElements, if_pos rfl, ← String.toList_inj]
    simp
  | false =>
    have relative {init : List String} (isInit : init ≠ [] ∧ init <+: parts) :
        ofElements false init = "/".intercalate init :=
      ofElements_false (normal.of_prefix isInit.2) isInit.1
    rw [relative ⟨some, List.prefix_refl parts⟩, spread]
    apply List.map_congr_left
    intro init isInit
    rw [relative (prefix_of_mem_leading isInit), List.reverse_nil, List.nil_append,
      String.ofList_toList]

end ShapeForge.Path
