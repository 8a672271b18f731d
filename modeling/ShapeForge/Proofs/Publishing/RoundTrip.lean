import ShapeForge.Pipeline
import ShapeForge.Proofs.Emit.Severity
import ShapeForge.Proofs.Model.Sources
import ShapeForge.Proofs.Publishing.Publish

/-!
# Published models

A package is published with the text of the model that it was generated from.  From there the
namespace can be loaded again as it was, and no publication after that changes it.
-/

namespace ShapeForge.Publisher

variable {publisher : Publisher} {tree after : FileTree} {space document : String}
variable {version : Version} {files : List Emit.PackageFile}

/-! ## Models beside packages -/

/-- The file with the model of a published namespace. -/
def modelPath (publisher : Publisher) (space : String) (version : Version) : String :=
  Path.join [publisher.versionDir space version, modelFile]

theorem plain_modelFile : Path.IsPlain modelFile := by
  decide

theorem place_modelPath (publisher : Publisher) (space : String) (version : Version) :
    Path.place (publisher.modelPath space version) =
      Path.place (publisher.versionDir space version) ++ [modelFile] :=
  Path.place_join _ plain_modelFile

theorem isClean_modelPath (publisher : Publisher) (space : String) (version : Version) :
    Path.IsClean (publisher.modelPath space version) :=
  Path.isClean_join modelFile (by simp) plain_modelFile.given

/-- The last file of a publication can be read from it. -/
theorem readFile_publish
    (published : (publisher.publish space (files ++ [{ name := modelFile, content := document }])
      version).run tree = (.ok (), after)) :
    after.readFile (publisher.modelPath space version) = .ok document := by
  rw [FileTree.readFile_of_clean (isClean_modelPath publisher space version), place_modelPath]
  rcases publish_cases publisher space (files ++ [{ name := modelFile, content := document }])
    version tree with ⟨-, run⟩ | ⟨-, outcome, leaves, run⟩
  · rw [run] at published
    cases published
  · rw [run] at published
    cases leaves with
    | written wrote =>
      cases published
      exact wrote.holds_last List.getLast?_concat
    | blocked fault blocked => cases published
    | stopped fault upTo wrote refused => cases published

/-- A namespace is loaded from the text that stands beside its package. -/
theorem load_of_readFile {loaded : LoadedModel}
    (read : tree.readFile (publisher.modelPath space version) = .ok document)
    (loads : LoadedModel.ofBytes document = .ok loaded) :
    publisher.load tree space version = .ok (loaded.model.only [space]) := by
  rcases LoadedModel.ofText_of_ofBytes loads (publisher.modelPath space version) with
    ⟨again, loadsAgain, same⟩
  have ofFile : LoadedModel.ofFile tree (publisher.modelPath space version) = .ok again :=
    bind_eq_ok.mpr ⟨document, mapError_eq_ok.mpr read, loadsAgain⟩
  rw [← same]
  exact bind_eq_ok.mpr ⟨again, mapError_eq_ok.mpr ofFile, rfl⟩

/-! ## Further publications -/

/-- A package that is published under a version. -/
structure Publication where
  publisher : Publisher
  space : String
  files : List Emit.PackageFile
  version : Version

/-- The tree after further publications, of which each may have failed. -/
def afterPublications (tree : FileTree) (further : List Publication) : FileTree :=
  further.foldl (fun tree next =>
    (Disk.on tree (next.publisher.publish next.space next.files next.version)).2) tree

theorem extends_afterPublications (tree : FileTree) (further : List Publication) :
    tree.Extends (afterPublications tree further) := by
  induction further generalizing tree with
  | nil => exact .refl tree
  | cons next rest ih =>
    exact (extends_publish next.publisher next.space next.files next.version tree).trans (ih _)

end ShapeForge.Publisher

namespace ShapeForge.Run

variable {α : Type}

theorem run_check (result : Except Fault α) (state : RunState) :
    (check result).run state = (result, state) := by
  cases result <;> rfl

theorem run_ask (question : FileTree → Except Fault α) (state : RunState) :
    (ask question).run state = (question state.tree, state) := by
  unfold ask
  rw [Recording.run_bind]
  exact run_check _ _

theorem run_disk (work : Disk α) (state : RunState) :
    (disk work).run state =
      ((work.on state.tree).1, { state with tree := (work.on state.tree).2 }) := by
  unfold disk
  rw [Recording.run_bind]
  show (set { state with tree := (work.on state.tree).2 } >>= fun _ =>
    check (work.on state.tree).1 : Run α).run state = _
  rw [Recording.run_bind]
  exact run_check _ _

end ShapeForge.Run

namespace ShapeForge.Pipeline

open Recording

variable {state : RunState} {α : Type} {publisher : Publisher}

/-! ## What a run has published -/

def Unpublished (state : RunState) : Prop :=
  ∀ result, state.result = some result → result.published = []

/-- The text of the model can be read beside everything that is published. -/
def Readable (publisher : Publisher) (document : String) (state : RunState) : Prop :=
  ∀ result, state.result = some result → ∀ published ∈ result.published,
    state.tree.readFile (publisher.modelPath published.1 published.2) = .ok document

theorem Unpublished.readable (unpublished : Unpublished state) (publisher : Publisher)
    (document : String) :
    Readable publisher document state := by
  intro result isResult published isPublished
  rw [unpublished result isResult] at isPublished
  cases isPublished

theorem Unpublished.of_result {other : RunState} (unpublished : Unpublished state)
    (same : other.result = state.result) :
    Unpublished other := by
  intro result isResult
  exact unpublished result (same ▸ isResult)

theorem keeps_note (level : Log.Level) (message : String) (fields : List (String × Log.Value)) :
    Keeps Unpublished (Run.note level message fields) :=
  fun _ unpublished => unpublished.of_result rfl

theorem keeps_ask {invariant : RunState → Prop} (question : FileTree → Except Fault α) :
    Keeps invariant (Run.ask question) := by
  intro state holds
  rwa [Run.run_ask]

theorem keeps_disk (work : Disk α) : Keeps Unpublished (Run.disk work) := by
  intro state unpublished
  rw [Run.run_disk]
  exact unpublished.of_result rfl

theorem keeps_cleanly {step : Run α} (keeps : Keeps Unpublished step) :
    Keeps Unpublished (cleanly step) := by
  intro state unpublished
  have ran := keeps state unpublished
  show Unpublished { (step.run state).2 with tree := (step.run state).2.tree.remove buildDir }
  exact ran.of_result rfl

theorem keeps_tree (tree : FileTree) :
    Keeps Unpublished (modify fun state => { state with tree } : Run Unit) :=
  fun _ unpublished => unpublished.of_result rfl

theorem keeps_runCommand (text source : String) : Keeps Unpublished (runCommand text source) := by
  unfold runCommand
  split
  · refine (keeps_pure _).bind fun words => ?_
    refine Keeps.after_if (keeps_throw _) ?_
    refine Keeps.after_if (keeps_disk _) ?_
    refine (keeps_note _ _ _).bind fun _ => ?_
    refine keeps_get.bind fun state => ?_
    generalize Shell.run _ state.tree _ = ran
    cases ran with
    | ok outcome =>
      refine (keeps_pure _).bind fun outcome => ?_
      refine (keeps_tree _).bind fun _ => ?_
      refine Keeps.after_if (keeps_throw _) ?_
      refine Keeps.ite (keeps_pure _) ?_
      split
      · exact keeps_pure _
      · exact keeps_throw _
    | error problem => exact keeps_throw_bind _ _
  · exact keeps_throw_bind _ _

theorem keeps_build (builder : Builder) (source : String) :
    Keeps Unpublished (build builder source) := by
  cases builder with
  | command text => exact keeps_cleanly (keeps_runCommand text source)
  | given model => exact keeps_pure _

theorem keeps_obtain (pipeline : Pipeline) (input : RunInput) :
    Keeps Unpublished (pipeline.obtain input) := by
  unfold obtain
  refine Keeps.ite ?_ (Keeps.ite ?_ (keeps_throw _))
  · exact (keeps_ask _).bind fun text => keeps_pure _
  · split
    · exact keeps_throw _
    · refine (keeps_note _ _ _).bind fun _ => ?_
      exact (keeps_build _ _).bind fun model => keeps_pure _

theorem keeps_load (input : RunInput) (text : Option String) (name : String) :
    Keeps Unpublished (load input text name) := by
  unfold load
  refine (keeps_ask _).bind fun loaded => ?_
  refine (keeps_note _ _ _).bind fun _ => ?_
  refine (keeps_note _ _ _).bind fun _ => ?_
  exact keeps_pure _

theorem keeps_loadDependencies
    (pipeline : Pipeline) (dependencies : List (String × Option Version)) :
    Keeps Unpublished (pipeline.loadDependencies dependencies) := by
  induction dependencies with
  | nil => exact keeps_pure _
  | cons dependency rest ih =>
    rcases dependency with ⟨space, version⟩
    cases version with
    | none => exact (keeps_note _ _ _).bind fun _ => ih
    | some version =>
      rw [loadDependencies]
      refine (keeps_note _ _ _).bind fun _ => ?_
      have rest (option : List Emit.GenerateOption) : Keeps Unpublished (do
          return option ++ (← pipeline.loadDependencies rest)) :=
        ih.bind fun options => keeps_pure _
      split
      · exact (keeps_pure _).bind rest
      · refine (keeps_ask _).bind fun model => ?_
        exact (keeps_pure _).bind rest

theorem keeps_resolve (pipeline : Pipeline) (loaded : LoadedModel) :
    Keeps Unpublished (pipeline.resolve loaded) := by
  unfold resolve
  split
  · exact keeps_pure _
  · refine Keeps.ite (keeps_pure _) ?_
    refine (keeps_ask _).bind fun dependencies => ?_
    exact (keeps_loadDependencies pipeline _).bind fun options => keeps_pure _

theorem keeps_generated (generated : Option Emit.GenerateResult) :
    Keeps Unpublished
      (modify fun state => { state with result := some { generated } } : Run Unit) := by
  rintro state - result isResult
  cases isResult
  rfl

theorem keeps_noteSpaces (result : Emit.GenerateResult) (spaces : List (String × Option Fault)) :
    Keeps Unpublished (noteSpaces result spaces) := by
  induction spaces with
  | nil => exact keeps_pure _
  | cons space rest ih =>
    rcases space with ⟨space, fault⟩
    cases fault with
    | some fault => exact (keeps_note _ _ _).bind fun _ => ih
    | none =>
      rw [noteSpaces]
      split
      · exact (keeps_note _ _ _).bind fun _ => ih
      · exact ih

/-! ## Publishing in a run -/

theorem Readable.of_extends {document : String} {tree : FileTree}
    (readable : Readable publisher document state) (extended : state.tree.Extends tree) :
    Readable publisher document { state with tree } := by
  intro result isResult published isPublished
  exact extended.readFile (readable result isResult published isPublished)

/-- A publication can be read when it has been made, and changes none before it. -/
theorem keeps_publication {document space : String} {files : List Emit.PackageFile}
    {version : Version} {next : Run Unit} (keeps : Keeps (Readable publisher document) next) :
    Keeps (Readable publisher document) (do
      Run.disk (publisher.publish space
        (files ++ [{ name := Publisher.modelFile, content := document }]) version)
      modify fun state => { state with
        result := state.result.map fun result =>
          { result with published := result.published ++ [(space, version)] } }
      next) := by
  intro state readable
  have still := readable.of_extends (publisher.extends_publish space
    (files ++ [{ name := Publisher.modelFile, content := document }]) version state.tree)
  rw [run_bind, Run.run_disk]
  cases ran : Disk.on state.tree (publisher.publish space
    (files ++ [{ name := Publisher.modelFile, content := document }]) version) with
  | mk outcome tree =>
    have isTree : tree = _ := congrArg Prod.snd ran.symm
    cases outcome with
    | error fault =>
      rw [isTree]
      exact still
    | ok value =>
      apply keeps
      intro result isResult published isPublished
      rcases Option.map_eq_some_iff.mp isResult with ⟨before, isBefore, rfl⟩
      rcases List.mem_append.mp isPublished with isOld | isNew
      · rw [isTree]
        exact still before isBefore published isOld
      · rw [List.mem_singleton.mp isNew]
        exact Publisher.readFile_publish ran

theorem keeps_publishAll
    (pipeline : Pipeline) (publisher : Publisher) (registry : Registry) (document : String)
    (packages : List Emit.Package) :
    Keeps (Readable publisher document)
      (pipeline.publishAll publisher registry document packages) := by
  induction packages with
  | nil => exact keeps_pure _
  | cons package rest ih =>
    have noted (version : Version) : Keeps (Readable publisher document)
        (Run.note .info "published"
          [("namespace", .string package.space), ("version", .string version.text)]) :=
      fun _ readable => readable
    rw [publishAll]
    refine (keeps_ask _).bind fun version => ?_
    exact keeps_publication ((noted version).bind fun _ => ih)

section Leads

variable {document : String} {β : Type}

theorem leadsFrom_bind {step : Run α} {next : α → Run β} (first : Keeps Unpublished step)
    (second : ∀ value, LeadsFrom Unpublished (Readable publisher document) (next value)) :
    LeadsFrom Unpublished (Readable publisher document) (step >>= next) :=
  first.leadsFrom (fun _ unpublished => unpublished.readable publisher document) (.trivial step)
    fun value _ => second value

theorem leadsFrom_of_keeps {step : Run α} (keeps : Keeps Unpublished step) :
    LeadsFrom Unpublished (Readable publisher document) step :=
  fun state unpublished => (keeps state unpublished).readable publisher document

end Leads

theorem leadsFrom_publish {pipeline : Pipeline} (publishes : pipeline.publisher = some publisher)
    (document : String) (packages : List Emit.Package) :
    LeadsFrom Unpublished (Readable publisher document)
      (pipeline.publish document packages) := by
  intro state unpublished
  have readable := unpublished.readable publisher document
  unfold publish
  rw [publishes]
  cases pipeline.resolver with
  | none => exact readable
  | some registry =>
    exact keeps_publishAll pipeline publisher registry document packages state readable

/-- A run that goes on after loading has a text, and the text is that of a model. -/
theorem ensures_load (input : RunInput) (text : Option String) (name : String) :
    Ensures (load input text name) fun _ =>
      ∃ document loaded, text = some document ∧ LoadedModel.ofBytes document = .ok loaded := by
  intro state loaded succeeded
  rw [load, run_bind, Run.run_ask] at succeeded
  split at succeeded
  · next value after asked =>
      rw [Prod.mk.injEq, mapError_eq_ok] at asked
      exact LoadRequest.ofBytes_of_run asked.1
  · cases succeeded

/-- If anything is published, then with a text, which is that of a model. -/
def Faithful (publisher : Publisher) (text : Option String) (state : RunState) : Prop :=
  Unpublished state ∨ ∃ document loaded, text = some document ∧
    LoadedModel.ofBytes document = .ok loaded ∧ Readable publisher document state

theorem faithful_steps {pipeline : Pipeline} (publishes : pipeline.publisher = some publisher)
    (input : RunInput) (tree : FileTree) :
    let final := ((pipeline.steps input).run { tree }).2
    Unpublished final ∨ ∃ text name between,
      (pipeline.obtain input).run { tree } = (.ok (text, name), between) ∧
      Faithful publisher text final := by
  intro final
  have first : Unpublished { tree } := nofun
  have obtained := keeps_obtain pipeline input _ first
  simp only [final, steps]
  rw [run_bind]
  cases ran : (pipeline.obtain input).run { tree } with
  | mk outcome between =>
    rw [ran] at obtained
    cases outcome with
    | error fault => exact .inl obtained
    | ok obtains =>
      rcases obtains with ⟨text, name⟩
      refine .inr ⟨text, name, between, rfl, ?_⟩
      refine (keeps_load input text name).leadsFrom (fun _ => .inl)
        (ensures_load input text name) ?_ between obtained
      rintro loaded ⟨document, unnamed, rfl, loads⟩ state unpublished
      refine .inr ⟨document, unnamed, rfl, loads, ?_⟩
      -- Nothing is published up to the last step, wherever the run fails before that.
      refine leadsFrom_bind (keeps_resolve pipeline loaded) ?_ state unpublished
      rintro ⟨resolved, dependencies⟩
      refine leadsFrom_bind keeps_get fun current => ?_
      refine leadsFrom_bind (keeps_generated _) fun _ => ?_
      generalize Emit.generate current.tree _ = generated
      cases generated with
      | error fault => exact leadsFrom_of_keeps (keeps_throw _)
      | ok generated =>
        rcases generated with ⟨result, failure⟩
        refine leadsFrom_bind (keeps_noteSpaces _ _) fun _ => ?_
        cases failure with
        | some fault => exact leadsFrom_of_keeps (keeps_throw_bind _ _)
        | none =>
          refine leadsFrom_bind (keeps_note _ _ _) fun _ => ?_
          split
          · refine leadsFrom_bind (keeps_disk _) fun _ => ?_
            refine leadsFrom_bind (keeps_note _ _ _) fun _ => ?_
            exact leadsFrom_publish publishes document _
          · exact leadsFrom_publish publishes document _

/-- What a run has published can be loaded: the shapes of a namespace as the text of the run's
model has them, whatever is published after that. -/
theorem published_models_load
    {pipeline : Pipeline} {publisher : Publisher} {tree : FileTree} {input : RunInput}
    {result : RunResult} {space : String} {version : Version}
    (publishes : pipeline.publisher = some publisher)
    (ran : (pipeline.run tree input).result = some result)
    (isPublished : (space, version) ∈ result.published) :
    ∃ document name between loaded,
      (pipeline.obtain input).run { tree } = (.ok (some document, name), between) ∧
      LoadedModel.ofBytes document = .ok loaded ∧
      ∀ further, publisher.load
        (Publisher.afterPublications (pipeline.run tree input).tree further) space version =
          .ok (loaded.model.only [space]) := by
  have unpublished (none : Unpublished ((pipeline.steps input).run { tree }).2) : False := by
    rw [none result ran] at isPublished
    cases isPublished
  rcases faithful_steps publishes input tree with none | ⟨text, name, between, obtained, faithful⟩
  · exact (unpublished none).elim
  rcases faithful with none | ⟨document, loaded, rfl, loads, readable⟩
  · exact (unpublished none).elim
  refine ⟨document, name, between, loaded, obtained, loads, fun further => ?_⟩
  have read := readable result ran (space, version) isPublished
  have extended := Publisher.extends_afterPublications (pipeline.run tree input).tree further
  exact Publisher.load_of_readFile (extended.readFile read) loads

namespace Shop

def store : Publisher where
  registry := { root := "registry" }
  name := "local"

def pipeline : Pipeline where
  resolver := some store.registry
  publisher := some store
  registry := "local"

def document : String :=
  "\x7b\"shapes\":\x7b\"shop#Size\":\x7b\"type\":\"string\"\x7d\x7d\x7d"

def tree : FileTree where
  entries := [(["shop.json"], .file document)]

def input : RunInput where
  model := "shop.json"

def model : Model where
  shapes := [{ id := ⟨"shop#Size"⟩, line := 1, body := .simple .string }]

/-- The same namespace with another text under the same version. -/
def again : Publisher.Publication where
  publisher := store
  space := "shop"
  files := [{ name := Publisher.modelFile, content := "" }]
  version := Version.initial

open Emit in
theorem published_run :
    (pipeline.run tree input).result.map (·.published) = some [("shop", Version.initial)] := by
  suffices ∀ given found start, pipeline = given → tree = found → input = start →
      (given.run found start).result.map (·.published) = some [("shop", Version.initial)] from
    this _ _ _ rfl rfl rfl
  intro given found start isPipeline isTree isInput
  -- What is published does not depend on how the files are formatted, so that is set aside before
  -- the inputs are known and the run is evaluated.
  unfold run steps generate generateLoaded outcomeOf emitPackage buildPackage
  simp only [CodeFile.all, Build.each, codeFile, formatted_eq]
  subst isPipeline isTree isInput
  decide +kernel

theorem model_document : (LoadedModel.ofBytes document).toOption.map (·.model) = some model := by
  decide

theorem obtain_input : (pipeline.obtain input).run { tree } =
    (.ok (some document, "shop.json"), { tree }) := by
  rw [obtain, if_pos (by decide), run_bind, Run.run_ask]
  have read : tree.readFile input.model = .ok document := eq_ok_of_toOption (by decide)
  rw [read]
  rfl

end Shop

open Shop in
theorem published_models_load_shop :
    ∃ result, (pipeline.run tree input).result = some result ∧
      ("shop", Version.initial) ∈ result.published ∧
      store.load (Publisher.afterPublications (pipeline.run tree input).tree [again]) "shop"
        Version.initial = .ok model := by
  rcases Option.map_eq_some_iff.mp published_run with ⟨result, ran, published⟩
  have isPublished : ("shop", Version.initial) ∈ result.published := by simp [published]
  refine ⟨result, ran, isPublished, ?_⟩
  rcases published_models_load rfl ran isPublished with
    ⟨text, name, between, loaded, obtained, loads, still⟩
  rw [obtain_input] at obtained
  cases obtained
  have isModel : loaded.model = model := by
    have found := model_document
    rw [loads] at found
    exact Option.some.inj found
  have whole : model.only ["shop"] = model := by decide
  rw [still [again], isModel, whole]

end ShapeForge.Pipeline
