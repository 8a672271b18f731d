import ShapeForge.Proofs.Model.Reachability
import ShapeForge.Source

/-!
# The name of a source

The name of the source of a model stands in the failures of loading and nowhere else: a document
gives the same model under every name, or none.
-/

namespace ShapeForge

variable {α β : Type}

/-- Both fail, or both succeed with the same. -/
def Alike (first second : Except Fault α) : Prop :=
  first.toOption = second.toOption

namespace Alike

theorem refl (result : Except Fault α) : Alike result result :=
  rfl

theorem failed (fault other : Fault) : Alike (α := α) (.error fault) (.error other) :=
  rfl

theorem bind {first second : Except Fault α} {next other : α → Except Fault β}
    (alike : Alike first second) (follow : ∀ value, Alike (next value) (other value)) :
    Alike (first >>= next) (second >>= other) := by
  cases first with
  | error fault =>
    cases second with
    | error also => exact failed fault also
    | ok value => cases alike
  | ok value =>
    cases second with
    | error fault => cases alike
    | ok same =>
      cases alike
      exact follow value

theorem eq_ok {first second : Except Fault α} {value : α}
    (alike : Alike first second) (succeeded : first = .ok value) :
    second = .ok value := by
  rw [succeeded] at alike
  cases second with
  | error fault => cases alike
  | ok same =>
    cases alike
    rfl

end Alike

namespace Load

open ShapeForge.Document (Value)
open ShapeForge.Yaml (Position)

variable (source other : String)

theorem alike_identifier (position : Position) (text : String) :
    Alike (identifier source position text) (identifier other position text) := by
  unfold identifier
  split
  · exact .refl _
  · exact .failed _ _

theorem alike_traitsOfFields (fields : List Field) :
    Alike (traitsOfFields source fields) (traitsOfFields other fields) := by
  induction fields with
  | nil => exact .refl _
  | cons field rest ih =>
    rcases field with ⟨key, position, value⟩
    rw [traitsOfFields, traitsOfFields]
    refine (alike_identifier source other position key).bind fun id => ?_
    exact ih.bind fun traits => .refl _

theorem alike_traits (value : Option Value) : Alike (traits source value) (traits other value) := by
  unfold traits
  split
  · exact .refl _
  · exact alike_traitsOfFields source other _
  · exact .failed _ _

theorem alike_target (value : Option Value) : Alike (target source value) (target other value) := by
  unfold target
  split
  · exact .refl _
  · split
    · exact .failed _ _
    · exact alike_identifier source other _ _

theorem alike_targetsOfItems (items : List Value) :
    Alike (targetsOfItems source items) (targetsOfItems other items) := by
  induction items with
  | nil => exact .refl _
  | cons item rest ih =>
    rw [targetsOfItems, targetsOfItems]
    refine (alike_target source other item).bind fun id => ?_
    exact ih.bind fun ids => .refl _

theorem alike_targets (value : Option Value) :
    Alike (targets source value) (targets other value) := by
  unfold targets
  split
  · exact .refl _
  · exact alike_targetsOfItems source other _
  · exact .failed _ _

variable (container : ShapeId)

theorem alike_member (name : String) (value : Option Value) :
    Alike (member source container name value) (member other container name value) := by
  unfold member
  split
  · exact .failed _ _
  · refine (alike_target source other _).bind fun type => ?_
    exact (alike_traits source other _).bind fun attached => .refl _

theorem alike_membersOfFields (fields : List Field) :
    Alike (membersOfFields source container fields) (membersOfFields other container fields) := by
  induction fields with
  | nil => exact .refl _
  | cons field rest ih =>
    rcases field with ⟨key, position, value⟩
    rw [membersOfFields, membersOfFields]
    split
    · exact .failed _ _
    · refine (alike_member source other container key value).bind fun first => ?_
      exact ih.bind fun members => .refl _

theorem alike_members (value : Option Value) :
    Alike (members source container value) (members other container value) := by
  unfold members
  split
  · exact .refl _
  · exact alike_membersOfFields source other container _
  · exact .failed _ _

theorem alike_enumMember (numeric : Bool) (index : Nat) (key : String) (value : Value) :
    Alike (enumMember source container numeric index key value)
      (enumMember other container numeric index key value) := by
  unfold enumMember
  refine (alike_traits source other _).bind fun attached => ?_
  split
  · exact .refl _
  · split
    · split
      · exact .refl _
      · exact .failed _ _
    · exact .refl _

theorem alike_enumMembersOfFields (numeric : Bool) (index : Nat) (fields : List Field) :
    Alike (enumMembersOfFields source container numeric index fields)
      (enumMembersOfFields other container numeric index fields) := by
  induction fields generalizing index with
  | nil => exact .refl _
  | cons field rest ih =>
    rcases field with ⟨key, position, value⟩
    rw [enumMembersOfFields, enumMembersOfFields]
    refine (alike_enumMember source other container numeric index key value).bind fun first => ?_
    exact (ih (index + 1)).bind fun members => .refl _

theorem alike_enumMembers (numeric : Bool) (value : Option Value) :
    Alike (enumMembers source container numeric value)
      (enumMembers other container numeric value) := by
  unfold enumMembers
  split
  · exact .refl _
  · exact alike_enumMembersOfFields source other container numeric 0 _
  · exact .failed _ _

theorem alike_identifiersOfFields (fields : List Field) :
    Alike (identifiersOfFields source fields) (identifiersOfFields other fields) := by
  induction fields with
  | nil => exact .refl _
  | cons field rest ih =>
    rcases field with ⟨key, position, value⟩
    rw [identifiersOfFields, identifiersOfFields]
    refine (alike_target source other value).bind fun type => ?_
    exact ih.bind fun identifiers => .refl _

theorem alike_identifiers (value : Option Value) :
    Alike (identifiers source container value) (identifiers other container value) := by
  unfold identifiers
  split
  · exact .refl _
  · exact alike_identifiersOfFields source other _
  · exact .failed _ _

theorem alike_resource (value : Value) :
    Alike (resource source container value) (resource other container value) := by
  unfold resource
  refine (alike_identifiers source other container _).bind fun identifiers => ?_
  iterate 6 refine (alike_target source other _).bind fun id => ?_
  iterate 3 refine (alike_targets source other _).bind fun ids => ?_
  exact .refl _

theorem alike_operation (value : Value) :
    Alike (operation source value) (operation other value) := by
  unfold operation
  refine (alike_target source other _).bind fun input => ?_
  refine (alike_target source other _).bind fun output => ?_
  exact (alike_targets source other _).bind fun errors => .refl _

theorem alike_service (value : Value) : Alike (service source value) (service other value) := by
  unfold service
  refine (alike_targets source other _).bind fun operations => ?_
  refine (alike_targets source other _).bind fun resources => ?_
  exact (alike_targets source other _).bind fun errors => .refl _

theorem alike_body (id : ShapeId) (type : String) (value : Value) :
    Alike (body source id type value) (body other id type value) := by
  unfold body
  split
  · exact .refl _
  · split
    · exact (alike_enumMembers source other id false _).bind fun _ => .refl _
    · exact (alike_enumMembers source other id true _).bind fun _ => .refl _
    · exact (alike_member source other id _ _).bind fun _ => .refl _
    · exact (alike_member source other id _ _).bind fun _ => .refl _
    · refine (alike_member source other id _ _).bind fun key => ?_
      exact (alike_member source other id _ _).bind fun content => .refl _
    · exact (alike_members source other id _).bind fun _ => .refl _
    · exact (alike_operation source other value).bind fun _ => .refl _
    · exact (alike_resource source other id value).bind fun _ => .refl _
    · exact (alike_service source other value).bind fun _ => .refl _
    · exact .failed _ _

theorem alike_shape (id : ShapeId) (value : Value) :
    Alike (shape source id value) (shape other id value) := by
  unfold shape
  by_cases isObject : value.kind != .object
  · rw [if_pos isObject, if_pos isObject]
    exact .failed _ _
  · rw [if_neg isObject, if_neg isObject]
    split
    · exact .failed _ _
    · refine (alike_traits source other _).bind fun attached => ?_
      exact (alike_body source other id _ value).bind fun content => .refl _

theorem alike_shapesOfFields (loaded : List Shape) (fields : List Field) :
    Alike (shapesOfFields source loaded fields) (shapesOfFields other loaded fields) := by
  induction fields generalizing loaded with
  | nil => exact .refl _
  | cons field rest ih =>
    rcases field with ⟨key, position, value⟩
    rw [shapesOfFields, shapesOfFields]
    refine (alike_identifier source other position key).bind fun id => ?_
    split
    · exact .failed _ _
    · refine (alike_shape source other id value).bind fun next => ?_
      exact (Alike.refl (Model.addAll loaded [next])).bind ih

theorem alike_model (root : Value) : Alike (model source root) (model other root) := by
  unfold model
  by_cases isObject : root.kind != .object
  · rw [if_pos isObject, if_pos isObject]
    exact .failed _ _
  · rw [if_neg isObject, if_neg isObject]
    split
    · exact .refl _
    · exact (alike_shapesOfFields source other [] _).bind fun _ => .refl _
    · exact .failed _ _

end Load

namespace LoadedModel

variable {text : String} {loaded : LoadedModel}

theorem ofText_eq_ok {path : String} :
    ofText text path = .ok loaded ↔
      ∃ root model, Document.read text = .ok root ∧ Load.model path root = .ok model ∧
        loaded = { sourcePath := path, format := some (.detect path text), version := model.version,
                   model, size := text.utf8ByteSize } := by
  unfold ofText
  simp only [bind_eq_ok, mapError_eq_ok]
  constructor
  · rintro ⟨root, read, model, isModel, same⟩
    cases same
    exact ⟨root, model, read, isModel, rfl⟩
  · rintro ⟨root, model, read, isModel, rfl⟩
    exact ⟨root, read, model, isModel, rfl⟩

/-- Under another name with the same ending, a text gives the same but for the name. -/
theorem ofText_renamed {path other : String} (loads : ofText text path = .ok loaded)
    (ending : Path.ext path = Path.ext other) :
    ofText text other = .ok { loaded with sourcePath := other } := by
  rcases ofText_eq_ok.mp loads with ⟨root, model, read, isModel, rfl⟩
  have isModelHere := (Load.alike_model path other root).eq_ok isModel
  have sameFormat : SourceFormat.detect path text = SourceFormat.detect other text := by
    unfold SourceFormat.detect
    rw [ending]
  refine ofText_eq_ok.mpr ⟨root, model, read, isModelHere, ?_⟩
  rw [sameFormat]

/-- What can be loaded without a path gives the same model at every path. -/
theorem ofText_of_ofBytes (loads : ofBytes text = .ok loaded) (path : String) :
    ∃ again, ofText text path = .ok again ∧ again.model = loaded.model := by
  rcases bind_eq_ok.mp loads with ⟨unnamed, isText, same⟩
  rcases ofText_eq_ok.mp isText with ⟨root, model, read, isModel, rfl⟩
  cases same
  have isModelAt := (Load.alike_model "" path root).eq_ok isModel
  exact ⟨_, ofText_eq_ok.mpr ⟨root, model, read, isModelAt, rfl⟩, rfl⟩

end LoadedModel

namespace LoadRequest

/-- A request for a text alone succeeds only if there is one, and the text is that of a model. -/
theorem ofBytes_of_run
    {tree : FileTree} {text sourceFile sourceName : Option String} {loaded : LoadedModel}
    (ran : run tree { sources := [.text text], sourceFile, sourceName } = .ok loaded) :
    ∃ document unnamed, text = some document ∧ LoadedModel.ofBytes document = .ok unnamed := by
  rcases bind_eq_ok.mp ran with ⟨source, isSource, rest⟩
  rw [mapError_eq_ok] at isSource
  cases text with
  | none => cases isSource
  | some document =>
    have isText : source = .text (some document) := by
      cases isSource
      rfl
    rcases bind_eq_ok.mp rest with ⟨unnamed, loads, -⟩
    rw [isText] at loads
    exact ⟨document, unnamed, rfl, loads⟩

end LoadRequest

end ShapeForge
