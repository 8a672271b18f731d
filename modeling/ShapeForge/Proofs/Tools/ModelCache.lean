import ShapeForge.Proofs.Cache
import ShapeForge.Proofs.Files.Tree
import ShapeForge.Proofs.Model.Sources
import ShapeForge.Tools.ModelInput

/-!
# Models through the cache

Calls share a cache of loaded models while time goes on and files change.  Every kept model was
loaded from what its key stands for, so a call gets from the cache what it would load itself, up to
the name of the source.  A key knows the place of a file and not how the path to it is written: a
call whose path cannot be read as it is written may still get the model that stands at the place.
-/

namespace ShapeForge

namespace FileTree

/-- What is at a path is determined by the path and the time of its last change. -/
def Consistent (first second : FileTree) : Prop :=
  ∀ path stamp, first.stamp? path = some stamp → second.stamp? path = some stamp →
    first.entry? (Path.place path) = second.entry? (Path.place path)

theorem Consistent.refl (tree : FileTree) : tree.Consistent tree :=
  fun _ _ _ _ => rfl

theorem Consistent.symm {first second : FileTree} (consistent : first.Consistent second) :
    second.Consistent first :=
  fun path stamp stamped also => (consistent path stamp also stamped).symm

theorem stamp?_eq_some {tree : FileTree} {path : String} {stamp : Nat}
    (stamped : tree.stamp? path = some stamp) :
    tree.exists? path = true ∧
      ((tree.stamps.find? (·.1 == Path.place path)).map (·.2)).getD 0 = stamp := by
  unfold stamp? at stamped
  split at stamped
  · next found => exact ⟨found, Option.some.inj stamped⟩
  · cases stamped

end FileTree

namespace LoadedModel

/-- All of a loaded model but the name of its source. -/
def unnamed (loaded : LoadedModel) : LoadedModel :=
  { loaded with sourcePath := "" }

end LoadedModel

namespace Tools

open FileTree

section

variable {settings : Settings} {tree : FileTree} {now : Int} {cache : ModelCache}
  {input : ModelInput} {key : ModelKey} {loaded : LoadedModel}

namespace ModelInput

def direct (settings : Settings) (tree : FileTree) (input : ModelInput) :
    Except Fault LoadedModel :=
  input.check settings >>= fun _ => input.load tree

theorem direct_of_accepted (accepted : input.check settings = .ok ()) (tree : FileTree) :
    input.direct settings tree = input.load tree := by
  rw [direct, accepted]
  rfl

/-- The input with the shortest path to the same place. -/
def cleaned (input : ModelInput) : ModelInput :=
  { input with file := Path.clean input.file }

/-- The ways in which a call gets its model. -/
inductive Resolved (settings : Settings) (tree : FileTree) (now : Int) (cache : ModelCache)
    (input : ModelInput) : Except Fault LoadedModel × ModelCache → Prop where
  | unkept : Resolved settings tree now cache input (input.direct settings tree, cache)
  | found (key : ModelKey) (loaded : LoadedModel)
      (accepted : input.check settings = .ok ())
      (isKey : input.key? tree = some key)
      (kept : (cache.get now key).1 = some loaded) :
      Resolved settings tree now cache input (.ok loaded, (cache.get now key).2)
  | missed (key : ModelKey) (deadline : Int)
      (accepted : input.check settings = .ok ())
      (isKey : input.key? tree = some key) :
      Resolved settings tree now cache input
        (input.loadInto tree (cache.get now key).2 key deadline)

theorem resolved (settings : Settings) (tree : FileTree) (now : Int) (cache : ModelCache)
    (input : ModelInput) :
    Resolved settings tree now cache input (input.resolve settings tree now cache) := by
  unfold resolve
  cases checked : input.check settings with
  | error fault =>
    have rejected : input.direct settings tree = .error fault := by
      rw [direct, checked]
      rfl
    dsimp only
    rw [← rejected]
    exact .unkept
  | ok _ =>
    dsimp only
    cases keyed : if settings.cacheEnabled then input.key? tree else none with
    | none =>
      rw [← direct_of_accepted checked]
      exact .unkept
    | some key =>
      have isKey : input.key? tree = some key := by
        split at keyed
        · exact keyed
        · cases keyed
      dsimp only
      cases got : cache.get now key with
      | mk kept after =>
        have isAfter : after = (cache.get now key).2 := by rw [got]
        cases kept with
        | some loaded =>
          rw [isAfter]
          exact .found key loaded checked isKey (by rw [got])
        | none =>
          rw [isAfter]
          exact .missed key _ checked isKey

theorem loadInto_fst (tree : FileTree) (input : ModelInput) (cache : ModelCache) (key : ModelKey)
    (deadline : Int) :
    (input.loadInto tree cache key deadline).1 = input.load tree := by
  unfold loadInto
  cases input.load tree <;> rfl

/-- Loading leaves the cache, or puts the loaded model under the key. -/
theorem loadInto_snd (tree : FileTree) (input : ModelInput) (cache : ModelCache) (key : ModelKey)
    (deadline : Int) :
    (input.loadInto tree cache key deadline).2 = cache ∨
      ∃ loaded, input.load tree = .ok loaded ∧
        (input.loadInto tree cache key deadline).2 = cache.put key loaded deadline := by
  unfold loadInto
  cases input.load tree with
  | error fault => exact .inl rfl
  | ok loaded => exact .inr ⟨loaded, rfl, rfl⟩

end ModelInput

/-! ## Runs -/

/-- What calls share, at a time. -/
structure ModelStore where
  tree : FileTree
  now : Int
  cache : ModelCache

/-- What can happen to a store: a call asks for its model, a key is looked up, expired models are
swept out, time goes on, and files change. -/
inductive StoreEvent where
  | resolve (input : ModelInput)
  | get (key : ModelKey)
  | sweep
  | advance (time : Nat)
  | change (tree : FileTree)

/-- The files after an event that changes them. -/
def StoreEvent.tree? : StoreEvent → Option FileTree
  | .change tree => some tree
  | _ => none

namespace ModelStore

def step (settings : Settings) (store : ModelStore) : StoreEvent → ModelStore
  | .resolve input =>
    { store with cache := (input.resolve settings store.tree store.now store.cache).2 }
  | .get key => { store with cache := (store.cache.get store.now key).2 }
  | .sweep => { store with cache := store.cache.sweep store.now }
  | .advance time => { store with now := store.now + time }
  | .change tree => { store with tree }

def run (settings : Settings) (store : ModelStore) (events : List StoreEvent) : ModelStore :=
  events.foldl (step settings) store

end ModelStore

/-- All states of the files while events happen. -/
def treesOf (tree : FileTree) (events : List StoreEvent) : List FileTree :=
  tree :: events.filterMap StoreEvent.tree?

/-- Keys stand for contents: what is at a path is determined by the path and the time of its last
change, and different texts have different digests. -/
structure Determined (tree : FileTree) (events : List StoreEvent) : Prop where
  files : ∀ first ∈ treesOf tree events, ∀ second ∈ treesOf tree events, first.Consistent second
  texts : ∀ first second, .resolve first ∈ events → .resolve second ∈ events →
    first.file = "" → second.file = "" →
    Digest.sha256 first.content = Digest.sha256 second.content → first.content = second.content

/-! ## What is kept -/

/-- A model under a key was loaded for an input that had the key then. -/
def Kept (tree : FileTree) (events : List StoreEvent) (entry : CacheEntry ModelKey LoadedModel) :
    Prop :=
  ∃ before ∈ treesOf tree events, ∃ input, .resolve input ∈ events ∧
    input.key? before = some entry.key ∧ input.load before = .ok entry.value

/-- The invariant of a store while events happen. -/
structure ModelStore.Invariant (tree : FileTree) (events : List StoreEvent) (capacity : Nat)
    (store : ModelStore) : Prop where
  known : store.tree ∈ treesOf tree events
  bound : store.cache.capacity = capacity
  sound : store.cache.Sound
  kept : ∀ entry ∈ store.cache.entries, Kept tree events entry

namespace ModelStore.Invariant

variable {start : FileTree} {events : List StoreEvent} {capacity : Nat} {store : ModelStore}

theorem get (invariant : Invariant start events capacity store) (key : ModelKey) :
    Invariant start events capacity
      { store with cache := (store.cache.get store.now key).2 } where
  known := invariant.known
  bound := (Cache.capacity_get ..).trans invariant.bound
  sound := invariant.sound.get store.now key
  kept := fun entry isEntry => invariant.kept entry (Cache.mem_of_mem_get isEntry)

theorem put {value : LoadedModel}
    (invariant : Invariant start events capacity store) (deadline : Int)
    (isKept : ∀ deadline, Kept start events ⟨key, value, deadline⟩) :
    Invariant start events capacity
      { store with cache := store.cache.put key value deadline } where
  known := invariant.known
  bound := invariant.bound
  sound := invariant.sound.put key value deadline
  kept := by
    intro entry isEntry
    rcases Cache.mem_of_mem_put isEntry with rfl | isOld
    · exact isKept deadline
    · exact invariant.kept entry isOld

theorem resolve
    (invariant : Invariant start events capacity store) (isEvent : .resolve input ∈ events) :
    Invariant start events capacity (store.step settings (.resolve input)) := by
  rw [ModelStore.step]
  have way := ModelInput.resolved settings store.tree store.now store.cache input
  generalize input.resolve settings store.tree store.now store.cache = outcome at way ⊢
  cases way with
  | unkept => exact invariant
  | found key loaded accepted isKey kept => exact invariant.get key
  | missed key deadline accepted isKey =>
    rcases input.loadInto_snd store.tree (store.cache.get store.now key).2 key deadline with
      same | ⟨loaded, loads, put⟩
    · rw [same]
      exact invariant.get key
    · rw [put]
      refine (invariant.get key).put deadline fun _ => ?_
      exact ⟨store.tree, invariant.known, input, isEvent, isKey, loads⟩

theorem step {event : StoreEvent}
    (invariant : Invariant start events capacity store) (isEvent : event ∈ events) :
    Invariant start events capacity (store.step settings event) := by
  cases event with
  | resolve input => exact invariant.resolve isEvent
  | get key => exact invariant.get key
  | sweep =>
    refine ⟨invariant.known, invariant.bound, invariant.sound.sweep store.now, ?_⟩
    exact fun entry isEntry => invariant.kept entry (Cache.mem_sweep.mp isEntry).1
  | advance time => exact ⟨invariant.known, invariant.bound, invariant.sound, invariant.kept⟩
  | change tree =>
    refine ⟨List.mem_cons_of_mem _ ?_, invariant.bound, invariant.sound, invariant.kept⟩
    exact List.mem_filterMap.mpr ⟨.change tree, isEvent, rfl⟩

theorem run {done : List StoreEvent}
    (invariant : Invariant start events capacity store) (areEvents : done ⊆ events) :
    Invariant start events capacity (store.run settings done) := by
  induction done generalizing store with
  | nil => exact invariant
  | cons event rest ih =>
    rcases List.cons_subset.mp areEvents with ⟨isEvent, others⟩
    exact ih (invariant.step isEvent) others

end ModelStore.Invariant

theorem key?_eq_file {place : List String} {stamp : Nat} :
    input.key? tree = some (.file place stamp) ↔
      input.file ≠ "" ∧ tree.stamp? (Path.clean input.file) = some stamp ∧
        Path.place input.file = place := by
  unfold ModelInput.key?
  by_cases empty : input.file = ""
  · rw [empty]
    by_cases absent : input.content = "" <;> simp [absent]
  · simp [empty]

theorem key?_eq_content {digest : String} :
    input.key? tree = some (.content digest) ↔
      input.file = "" ∧ input.content ≠ "" ∧ Digest.sha256 input.content = digest := by
  unfold ModelInput.key?
  by_cases empty : input.file = ""
  · by_cases absent : input.content = "" <;> simp [empty, absent]
  · simp [empty]

/-- Something is at a path that has a time of last change. -/
theorem holds_of_stamp? {path : String} {stamp : Nat}
    (stamped : tree.stamp? (Path.clean path) = some stamp) :
    ∃ entry, tree.Holds (Path.place path) entry := by
  rw [← Path.place_clean]
  exact (exists?_of_clean (Path.isClean_clean path)).mp (stamp?_eq_some stamped).1

theorem ofFile_eq_ok {path : String} :
    LoadedModel.ofFile tree path = .ok loaded ↔
      ∃ text, tree.readFile path = .ok text ∧ LoadedModel.ofText text path = .ok loaded := by
  unfold LoadedModel.ofFile
  simp only [bind_eq_ok, mapError_eq_ok]

/-- A file that was loaded is loaded again at every path that reads the same at its place: the
texts are the same, and so are the endings of the paths. -/
theorem ofFile_again {before : FileTree} {path other text : String}
    (loads : LoadedModel.ofFile before path = .ok loaded)
    (samePlace : Path.place path = Path.place other)
    (sameEntry : before.entry? (Path.place path) = tree.entry? (Path.place path))
    (read : tree.readFile other = .ok text) :
    ∃ again, LoadedModel.ofFile tree other = .ok again ∧ again.unnamed = loaded.unnamed := by
  rcases ofFile_eq_ok.mp loads with ⟨original, readBefore, isModel⟩
  rcases ext_of_readFile readBefore with ⟨last, isLast, ending⟩
  rcases ext_of_readFile read with ⟨name, isName, otherEnding⟩
  have sameEnding : Path.ext path = Path.ext other := by
    rw [samePlace, isName] at isLast
    cases isLast
    rw [ending, otherEnding]
  have sameText : original = text := by
    have here := (readFile_eq_ok.mp readBefore).2.2.2.here
    have there := (readFile_eq_ok.mp read).2.2.2.here
    rw [sameEntry, samePlace, there] at here
    cases here
    rfl
  subst sameText
  exact ⟨_, ofFile_eq_ok.mpr ⟨original, read, LoadedModel.ofText_renamed isModel sameEnding⟩, rfl⟩

/-- A kept model is the one that a call with its key would load, or, if the path of the call cannot
be read as it is written, would load at the shortest path to the same place. -/
theorem Kept.load
    {start : FileTree} {events : List StoreEvent} {entry : CacheEntry ModelKey LoadedModel}
    (kept : Kept start events entry) (determined : Determined start events)
    (isTree : tree ∈ treesOf start events) (isEvent : .resolve input ∈ events)
    (isKey : input.key? tree = some entry.key) :
    (∃ again, input.load tree = .ok again ∧ again.unnamed = entry.value.unnamed) ∨
    (input.file ≠ "" ∧ (∃ fault, tree.readFile input.file = .error fault) ∧
      ∃ again, input.cleaned.load tree = .ok again ∧ again.unnamed = entry.value.unnamed) := by
  rcases kept with ⟨before, wasTree, other, wasEvent, wasKey, loads⟩
  rcases entry with ⟨key, value, deadline⟩
  cases key with
  | content digest =>
    rcases key?_eq_content.mp isKey with ⟨noFile, -, isDigest⟩
    rcases key?_eq_content.mp wasKey with ⟨hadNoFile, -, wasDigest⟩
    have sameText : other.content = input.content :=
      determined.texts other input wasEvent isEvent hadNoFile noFile
        (wasDigest.trans isDigest.symm)
    refine .inl ⟨value, ?_, rfl⟩
    rw [ModelInput.load, hadNoFile, sameText] at loads
    rw [ModelInput.load, noFile]
    exact loads
  | file place stamp =>
    rcases key?_eq_file.mp isKey with ⟨given, stamped, rfl⟩
    rcases key?_eq_file.mp wasKey with ⟨wasGiven, wasStamped, samePlace⟩
    have loadGiven (path : String) (given : path ≠ "") (content : String) (tree : FileTree) :
        ModelInput.load tree ⟨path, content⟩ = LoadedModel.ofFile tree path := by
      have nonempty : path.isEmpty = false := by simpa using given
      simp [ModelInput.load, nonempty]
    rw [loadGiven other.file wasGiven] at loads
    rw [Path.clean_of_place samePlace] at wasStamped
    have sameEntry := determined.files before wasTree tree isTree _ _ wasStamped stamped
    rw [Path.place_clean, ← samePlace] at sameEntry
    cases read : tree.readFile input.file with
    | ok text =>
      rw [loadGiven input.file given]
      exact .inl (ofFile_again loads samePlace sameEntry read)
    | error fault =>
      rcases holds_of_stamp? stamped with ⟨entry, holds⟩
      have cleanPlace := Path.place_clean input.file
      have cleanGiven := (Path.isClean_clean input.file).ne_empty
      rcases ofFile_eq_ok.mp loads with ⟨text, readBefore, -⟩
      have isFile : tree.readFile (Path.clean input.file) = .ok text := by
        have here := (readFile_eq_ok.mp readBefore).2.2.2.here
        rw [sameEntry, samePlace] at here
        rw [readFile_of_clean (Path.isClean_clean _), cleanPlace]
        exact ⟨holds.above, here⟩
      refine .inr ⟨given, ⟨fault, rfl⟩, ?_⟩
      rw [ModelInput.cleaned, loadGiven _ cleanGiven]
      exact ofFile_again loads (samePlace.trans cleanPlace.symm) sameEntry isFile

theorem check_cleaned (given : input.file ≠ "") (settings : Settings) :
    input.cleaned.check settings = input.check settings := by
  have nonempty : input.file.isEmpty = false := by simpa using given
  have cleanNonempty : (Path.clean input.file).isEmpty = false := by
    simpa using (Path.isClean_clean input.file).ne_empty
  unfold ModelInput.check ModelInput.cleaned
  simp only [nonempty, cleanNonempty]

/-- What a call gets is what it gets without cache, unless its path cannot be read as it is
written. -/
theorem ModelStore.Invariant.answer
    {start : FileTree} {events : List StoreEvent} {capacity : Nat} {store : ModelStore}
    (invariant : Invariant start events capacity store) (determined : Determined start events)
    (isEvent : .resolve input ∈ events) :
    let given := (input.resolve settings store.tree store.now store.cache).1
    given.map LoadedModel.unnamed =
        (input.direct settings store.tree).map LoadedModel.unnamed ∨
      (input.file ≠ "" ∧ (∃ fault, store.tree.readFile input.file = .error fault) ∧
        ∃ loaded, input.cleaned.direct settings store.tree = .ok loaded ∧
          given.map LoadedModel.unnamed = .ok loaded.unnamed) := by
  have way := ModelInput.resolved settings store.tree store.now store.cache input
  generalize input.resolve settings store.tree store.now store.cache = outcome at way ⊢
  cases way with
  | unkept => exact .inl rfl
  | missed key deadline accepted isKey =>
    rw [ModelInput.loadInto_fst, ModelInput.direct_of_accepted accepted]
    exact .inl rfl
  | found key loaded accepted isKey isKept =>
    rcases invariant.sound.get_eq_some.mp isKept with ⟨entry, isEntry, rfl, rfl, -⟩
    rcases (invariant.kept entry isEntry).load determined invariant.known isEvent isKey with
      ⟨again, loads, same⟩ | ⟨given, unread, again, loads, same⟩
    · refine .inl ?_
      rw [ModelInput.direct_of_accepted accepted, loads, Except.map, Except.map, same]
    · refine .inr ⟨given, unread, again, ?_, by rw [Except.map, same]⟩
      rw [ModelInput.direct_of_accepted ((check_cleaned given settings).trans accepted), loads]

/-! ## The cache of a run -/

end

/-! ### A file that is edited -/

namespace Shelf

def tree : FileTree where
  entries := [(["model.json"], .file "\x7b\"smithy\": \"1.0\"\x7d")]
  stamps := [(["model.json"], 1)]
  changes := 1

def edited : FileTree :=
  tree.put ["model.json"] (.file "\x7b\"smithy\": \"2.0\"\x7d")

def model : ModelInput :=
  { file := "model.json" }

def text : ModelInput :=
  { content := "\x7b\x7d" }

/-- The model is asked for twice and then edited, and a text is asked for. -/
def events : List StoreEvent :=
  [.resolve model, .advance 60, .sweep, .resolve { file := "./model.json" }, .change edited,
    .resolve text, .get (.file ["model.json"] 1)]

end Shelf

end Tools

end ShapeForge
