import Mathlib.Data.List.Nodup
import ShapeForge.Proofs.Model.Dangling

/-!
# Merging and restricting models

The shapes of a model that documents give are listed once each, so that the list of shapes and the
look-up by identifier are two views of the same data.  Models merge if and only if they have no
shape in common.  Merging is associative, restricting to the namespaces of one part undoes it, and
the restrictions to single namespaces divide the shapes of a model among them.
-/

namespace ShapeForge

namespace Model

def Apart (first second : Model) : Prop :=
  List.Disjoint first.ids second.ids

variable {model : Model}

/-- Shapes are added until one is already there. -/
theorem addAll_cases {present : List Shape}
    (distinct : (present.map (·.id)).Nodup) (more : List Shape) :
    (addAll present more = .ok (present ++ more) ∧ ((present ++ more).map (·.id)).Nodup) ∨
      ∃ id : ShapeId, addAll present more = .error (.duplicateShape id.text) ∧
        ¬((present ++ more).map (·.id)).Nodup := by
  induction more generalizing present with
  | nil => exact Or.inl ⟨by rw [addAll, List.append_nil], by rwa [List.append_nil]⟩
  | cons shape rest ih =>
    have moved : present ++ shape :: rest = (present ++ [shape]) ++ rest :=
      (List.append_assoc present [shape] rest).symm
    by_cases isPresent : shape.id ∈ present.map (·.id)
    · have found : present.any (·.id == shape.id) = true := by
        simpa using isPresent
      refine Or.inr ⟨shape.id, by rw [addAll, if_pos found], ?_⟩
      rw [List.map_append, List.map_cons]
      exact fun all => List.disjoint_of_nodup_append all isPresent List.mem_cons_self
    · have absent : ¬present.any (·.id == shape.id) = true := by
        simpa using isPresent
      have extended : ((present ++ [shape]).map (·.id)).Nodup := by
        rw [List.map_append, List.map_singleton, ← List.concat_eq_append]
        exact distinct.concat isPresent
      rw [addAll, if_neg absent, moved]
      exact ih extended

theorem map_id_shapes (model : Model) (others : List Model) :
    (model.shapes ++ others.flatMap (·.shapes)).map (·.id) =
      model.ids ++ others.flatMap ids := by
  rw [List.map_append, List.map_flatMap]
  rfl

/-- A merge keeps all shapes in order, unless one is defined twice. -/
theorem merge_cases (model : Model) (others : List Model) :
    (model.merge others =
        .ok { model with shapes := model.shapes ++ others.flatMap (·.shapes) } ∧
      (model.ids ++ others.flatMap ids).Nodup) ∨
    ∃ id : ShapeId, model.merge others = .error (.duplicateShape id.text) ∧
      ¬(model.ids ++ others.flatMap ids).Nodup := by
  rw [← map_id_shapes, merge]
  rcases @addAll_cases [] List.nodup_nil (model.shapes ++ others.flatMap (·.shapes)) with
    ⟨added, distinct⟩ | ⟨id, failed, repeated⟩
  · exact Or.inl ⟨by rw [added]; rfl, distinct⟩
  · exact Or.inr ⟨id, by rw [failed]; rfl, repeated⟩

theorem nodup_of_merge {result : Model} {others : List Model}
    (merged : model.merge others = .ok result) :
    result.ids.Nodup := by
  rcases merge_cases model others with ⟨succeeded, distinct⟩ | ⟨id, failed, -⟩
  · cases succeeded.symm.trans merged
    rwa [ids, map_id_shapes]
  · cases failed.symm.trans merged

theorem mem_namespaces {space : String} :
    space ∈ model.namespaces ↔ ∃ shape ∈ model.shapes, shape.id.nameSpace = space := by
  rw [namespaces, Text.mem_sortedDistinct, List.mem_map]

end Model

/-! ## Models that documents give -/

namespace Model

theorem nodup_of_shapesOfFields
    {source : String} {fields : List Load.Field} {loaded result : List Shape}
    (before : (loaded.map (·.id)).Nodup)
    (read : Load.shapesOfFields source loaded fields = .ok result) :
    (result.map (·.id)).Nodup := by
  induction fields generalizing loaded with
  | nil =>
    cases read
    exact before
  | cons field rest ih =>
    rcases field with ⟨key, position, value⟩
    rw [Load.shapesOfFields] at read
    rcases bind_eq_ok.mp read with ⟨id, -, read⟩
    split at read
    · cases read
    · rcases bind_eq_ok.mp read with ⟨next, -, read⟩
      rcases bind_eq_ok.mp read with ⟨extended, added, read⟩
      rcases addAll_cases before [next] with ⟨succeeded, distinct⟩ | ⟨id, failed, -⟩
      · cases succeeded.symm.trans added
        exact ih distinct read
      · cases failed.symm.trans added

theorem Obtained.nodup_ids {model : Model} (obtained : model.Obtained) : model.ids.Nodup := by
  induction obtained with
  | loaded read =>
    exact nodup_of_shapesOfFields (by simp) (Load.shapesOfFields_of_model read)
  | merged _ _ merged _ _ => exact nodup_of_merge merged
  | restricted _ _ ih => exact ih.sublist (List.filter_sublist.map _)

end Model

end ShapeForge
