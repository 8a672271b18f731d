import ShapeForge.Proofs.Mock.Rendering
import ShapeForge.Proofs.Validation.Checking

/-!
# Synthesized instances are valid

Synthesis leaves a member out only where its target leads back to a structure that is being
synthesized, or to an empty enumeration.  Every active structure reaches the current target, so a
required member whose target does not lead back to its structure is never left out.  The JSON of
an instance therefore passes the check, at every depth.
-/

namespace ShapeForge

/-- Instances of a root can be complete: among the shapes reached from it, no enumeration is empty,
serialized names are distinct, and no required member leads back to its structure. -/
structure Model.Completable (model : Model) (root : ShapeId) : Prop where
  inhabited : ∀ target shape numeric, model.Reaches root target →
    model.lookup? target = some shape → shape.body ≠ .enumeration numeric []
  distinct : ∀ target shape, model.Reaches root target →
    model.lookup? target = some shape → (shape.members.map Member.jsonName).Nodup
  forward : ∀ target shape, model.Reaches root target →
    model.lookup? target = some shape → ∀ member ∈ shape.members,
      member.traits.isRequired = true → ¬model.Reaches member.target target

namespace MockValue

theorem Renderable.isNull_toJson {value : MockValue}
    (renderable : Renderable value) (now : String) :
    (value.toJson now).isNull = false := by
  cases renderable with
  | enumeration =>
    rw [toJson]
    split <;> rfl
  | string | int | float | bool | timestamp | blob | «structure» | list | map => rfl

end MockValue

namespace Mocks

/-! ## What is left out -/

theorem sublist_map_fst_present (results : List (Member × Option MockValue)) :
    ((present results).map Prod.fst).Sublist (results.map Prod.fst) := by
  induction results with
  | nil => exact List.Sublist.slnil
  | cons result rest ih =>
    rcases result with ⟨member, value | value⟩
    · exact ih.cons member
    · exact ih.cons_cons member

/-- A target that is left out leads back to an active structure. -/
theorem Synthesized.leads_back
    {mocks : Mocks} {root : ShapeId} {active : List ShapeId} {target : ShapeId}
    {result : Option MockValue} (synthesized : Synthesized mocks active target result)
    (completable : mocks.model.Completable root) (reached : mocks.model.Reaches root target)
    (leftOut : result = none) :
    ∃ id ∈ active, mocks.model.Reaches target id := by
  induction synthesized with
  | primitive | simple | enumeration | «structure» | list | map => cases leftOut
  | emptyEnumeration classified =>
    obtain ⟨found, body⟩ := Model.lookup?_of_classify classified rfl
    exact (completable.inhabited _ _ _ reached found (Option.some.inj body).symm).elim
  | @activeStructure active target shape members classified isActive =>
    have sameId : shape.id = target := Model.target_of_classify classified
    exact ⟨shape.id, isActive, sameId ▸ Relation.ReflTransGen.refl⟩
  | @activeElement active target shape item type classified element isStructure isActive =>
    have sameId : type.target = item.target := Model.target_of_classify element
    have refers := Model.refers_of_classify classified rfl List.mem_cons_self
    exact ⟨type.target, isActive, sameId ▸ refers.reaches⟩
  | withoutValue classified content ih =>
    have refers := Model.refers_of_classify classified rfl
      (List.mem_cons_of_mem _ List.mem_cons_self)
    obtain ⟨id, isActive, back⟩ := ih (reached.tail refers) rfl
    exact ⟨id, isActive, back.head refers⟩
  | withoutKey classified entry ih =>
    have refers := Model.refers_of_classify classified rfl List.mem_cons_self
    obtain ⟨id, isActive, back⟩ := ih (reached.tail refers) rfl
    exact ⟨id, isActive, back.head refers⟩

theorem Synthesized.classified
    {mocks : Mocks} {active : List ShapeId} {target : ShapeId} {result : Option MockValue}
    (synthesized : Synthesized mocks active target result) :
    ∃ type, mocks.model.classify target = .ok type := by
  cases synthesized <;> exact ⟨_, by assumption⟩

/-! ## Instances pass the check -/

section Checked

open Validation

variable {mocks : Mocks} {root : ShapeId} (now : String)

/-- An instance passes the check of its target at every depth and path. -/
def Passes (mocks : Mocks) (now : String) (target : ShapeId) (value : MockValue) : Prop :=
  ∀ type, mocks.model.classify target = .ok type → ∀ depth path,
    checkNested mocks.model (checkStructure mocks.model depth) type (value.toJson now) path = .ok ()

/-- The fields of a structure pass if each of them does: required members are among them. -/
theorem checkStructure_present {active : List ShapeId} {id : ShapeId} {shape : Shape}
    {results : List (Member × Option MockValue)} (completable : mocks.model.Completable root)
    (reached : mocks.model.Reaches root id) (found : mocks.model.lookup? id = some shape)
    (aligned : results.map Prod.fst = shape.members)
    (above : ∀ other ∈ active, mocks.model.Reaches other id)
    (refers : ∀ member ∈ shape.members, mocks.model.Refers id member.target)
    (parts : ∀ result ∈ results, Synthesized mocks active result.1.target result.2)
    (passes : ∀ result ∈ results, ∀ value ∈ result.2, Passes mocks now result.1.target value)
    (depth : Nat) (path : String) :
    checkStructure mocks.model depth shape shape.members
      (.object (MockValue.toJsonFields now (present results))) path = .ok () := by
  have distinct := completable.distinct id shape reached found
  have isMember {field : Member × MockValue} (isField : field ∈ present results) :
      field.1 ∈ shape.members := by
    rw [← aligned]
    exact List.mem_map.mpr ⟨_, mem_present.mp isField, rfl⟩
  have renderable {field : Member × MockValue} (isField : field ∈ present results) :
      field.2.Renderable := (parts _ (mem_present.mp isField)).renderable field.2 rfl
  have distinctKeys :
      ((MockValue.toJsonFields now (present results)).map Prod.fst).Nodup := by
    have names := (sublist_map_fst_present results).map Member.jsonName
    rw [aligned, List.map_map] at names
    rw [MockValue.toJsonFields_eq, List.map_map]
    exact distinct.sublist names
  cases depth with
  | zero => rfl
  | succ depth =>
    refine checkStructure_eq_ok distinct ?_ ?_
    · intro member isMember isRequired absent
      rw [← aligned] at isMember
      obtain ⟨⟨member, value | value⟩, isResult, rfl⟩ := List.mem_map.mp isMember
      · obtain ⟨other, isActive, back⟩ :=
          (parts _ isResult).leads_back completable
            (reached.tail (refers member (aligned ▸ isMember))) rfl
        exact completable.forward id shape reached found member (aligned ▸ isMember) isRequired
          (back.trans (above other isActive))
      · have isField : (member, value) ∈ present results := mem_present.mpr isResult
        have given : given? (MockValue.toJsonFields now (present results)) member.jsonName =
            some (value.toJson now) := by
          rw [given?_eq_some distinctKeys, MockValue.toJsonFields_eq]
          exact ⟨List.mem_map.mpr ⟨_, isField, rfl⟩, (renderable isField).isNull_toJson now⟩
        rw [given] at absent
        cases absent
    · intro member isMember' value given
      rw [given?_eq_some distinctKeys, MockValue.toJsonFields_eq] at given
      obtain ⟨⟨other, content⟩, isField, same⟩ := List.mem_map.mp given.1
      have sameName : other.jsonName = member.jsonName := (Prod.mk.inj same).1
      cases List.inj_on_of_nodup_map distinct (isMember isField) isMember' sameName
      cases (Prod.mk.inj same).2
      have isResult := mem_present.mp isField
      obtain ⟨type, classified⟩ := (parts _ isResult).classified
      exact ⟨type, classified, fun path => passes _ isResult content rfl type classified depth path⟩

theorem Synthesized.passes {active : List ShapeId} {target : ShapeId} {result : Option MockValue}
    (synthesized : Synthesized mocks active target result)
    (completable : mocks.model.Completable root) (reached : mocks.model.Reaches root target)
    (above : ∀ id ∈ active, mocks.model.Reaches id target) :
    ∀ value ∈ result, Passes mocks now target value := by
  induction synthesized with
  | primitive classified | simple classified | enumeration classified =>
    rintro value ⟨⟩ type sameTarget depth path
    cases classified.symm.trans sameTarget
    rfl
  | emptyEnumeration | activeStructure | activeElement | withoutValue | withoutKey =>
    rintro value ⟨⟩
  | @«structure» active target shape members results classified inactive aligned parts ih =>
    rintro value ⟨⟩ type sameTarget depth path
    cases classified.symm.trans sameTarget
    obtain ⟨found, body⟩ := Model.lookup?_of_classify classified rfl
    have sameId : shape.id = target := Model.target_of_classify classified
    have sameMembers : shape.members = members :=
      Shape.members_of_body (Option.some.inj body).symm
    have refers (member : Member) (isMember : member ∈ members) :
        mocks.model.Refers target member.target :=
      Model.refers_of_classify classified rfl isMember
    have aboveParts : ∀ id ∈ shape.id :: active, mocks.model.Reaches id target := by
      intro id isActive
      rcases List.mem_cons.mp isActive with rfl | outer
      · exact sameId ▸ Relation.ReflTransGen.refl
      · exact above id outer
    cases sameMembers
    refine checkStructure_present now completable reached found aligned aboveParts refers parts
      ?_ depth path
    intro result isResult
    have edge := refers result.1 (aligned ▸ List.mem_map.mpr ⟨result, isResult, rfl⟩)
    exact ih result isResult (reached.tail edge) fun id isActive =>
      (aboveParts id isActive).tail edge
  | @list active target shape item element results classified isElement inactive size parts ih =>
    rintro value ⟨⟩ type sameTarget depth path
    cases classified.symm.trans sameTarget
    have edge := Model.refers_of_classify classified rfl List.mem_cons_self
    rw [MockValue.toJson, MockValue.toJsonItems_eq]
    refine checkNested_array_eq_ok isElement (fun value isItem path => ?_) path
    obtain ⟨source, isSource, rfl⟩ := List.mem_map.mp isItem
    obtain ⟨result, isResult, rfl⟩ := List.mem_filterMap.mp isSource
    exact ih _ isResult (reached.tail edge) (fun id isActive => (above id isActive).tail edge)
      source rfl element isElement depth path
  | @map active target shape key value entry content classified valuePart keyPart valueIH keyIH =>
    rintro found ⟨⟩ type sameTarget depth path
    cases classified.symm.trans sameTarget
    have edge := Model.refers_of_classify classified rfl
      (List.mem_cons_of_mem key List.mem_cons_self)
    obtain ⟨element, isElement⟩ := valuePart.classified
    rw [MockValue.toJson, MockValue.toJsonEntries_eq]
    refine checkNested_object_eq_ok isElement (fun field isField path => ?_) path
    cases List.mem_singleton.mp isField
    exact valueIH (reached.tail edge) (fun id isActive => (above id isActive).tail edge)
      content rfl element isElement depth path

end Checked

/-- The JSON text of a synthesized instance is read as a value that passes the check, whatever the
seed, the size of lists and the time. -/
theorem synthesized_instance_valid
    (mocks : Mocks) (id : ShapeId) (value : MockValue) (now : String)
    (completable : mocks.model.Completable id)
    (synthesized : mocks.ofStructure id = .ok value) :
    ∃ decoded, Json.read? (value.json now) = some decoded ∧
      Validation.checkInstance mocks.model id decoded = .ok () := by
  obtain ⟨shape, fields, resolved, rfl, results, aligned, rfl, parts⟩ :=
    synthesized_of_ofStructure synthesized
  obtain ⟨found, body⟩ := Model.resolveStructure_eq_ok resolved
  have refers (member : Member) (isMember : member ∈ shape.members) :
      mocks.model.Refers id member.target :=
    ⟨shape, found, member, by rw [body]; exact isMember, rfl⟩
  have above : ∀ other ∈ [id], mocks.model.Reaches other id := by
    intro other isActive
    rw [List.mem_singleton.mp isActive]
    exact Relation.ReflTransGen.refl
  have renderable : (MockValue.structure id (present results)).Renderable :=
    .structure fun field isField => (parts _ (mem_present.mp isField)).renderable field.2 rfl
  refine ⟨_, renderable.read?_json now, ?_⟩
  rw [Validation.checkInstance, resolved]
  refine checkStructure_present now completable Relation.ReflTransGen.refl found aligned above
    refers parts ?_ _ _
  intro result isResult
  have edge := refers result.1 (aligned ▸ List.mem_map.mpr ⟨result, isResult, rfl⟩)
  exact (parts result isResult).passes now completable (Relation.ReflTransGen.single edge)
    fun other isActive => (above other isActive).tail edge

/-- The only required member of the journal is a time, from which nothing is reached. -/
theorem Journal.completable : mocks.model.Completable entryId := by
  have defined {target : ShapeId} {shape : Shape}
      (found : mocks.model.lookup? target = some shape) : shape ∈ [entry, entries, times] :=
    List.mem_of_find?_eq_some found
  refine ⟨?_, ?_, ?_⟩
  · intro target shape numeric _ found
    have bodies : ∀ shape ∈ [entry, entries, times], shape.kind ≠ .enumeration := by decide
    exact fun body => bodies shape (defined found) (by rw [Shape.kind, body]; rfl)
  · intro target shape _ found
    have names : ∀ shape ∈ [entry, entries, times],
        (shape.members.map Member.jsonName).Nodup := by decide
    exact names shape (defined found)
  · intro target shape _ found member isMember isRequired back
    have times : ∀ shape ∈ [entry, entries, times], ∀ member ∈ shape.members,
        member.traits.isRequired = true → member.target = timestamp := by decide
    rw [times shape (defined found) member isMember isRequired] at back
    have undefined : mocks.model.lookup? timestamp = none := by decide
    rcases back.cases_head with rfl | ⟨next, ⟨source, isSource, -⟩, -⟩
    · cases undefined.symm.trans found
    · cases undefined.symm.trans isSource

/-- The instance of an entry of the journal is valid, although the ways back to entries are left
out of it. -/
theorem synthesized_instance_valid_journal :
    Journal.mocks.model.Completable Journal.entryId ∧
      Journal.mocks.ofStructure Journal.entryId = .ok Journal.sample ∧
      ∃ decoded, Json.read? (Journal.sample.json "2024-01-01T00:00:00Z") = some decoded ∧
        Validation.checkInstance Journal.mocks.model Journal.entryId decoded = .ok () :=
  ⟨Journal.completable, Journal.ofStructure_entry,
    synthesized_instance_valid Journal.mocks Journal.entryId Journal.sample _ Journal.completable
      Journal.ofStructure_entry⟩

end Mocks

end ShapeForge
