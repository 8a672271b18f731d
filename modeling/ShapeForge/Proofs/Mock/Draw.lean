import ShapeForge.Mock.Synthesis

/-!
# Reasoning about draws

Two statements about a draw that do not depend on the state of the generator.  `Draw.Ensures` says
that every value which the draw returns has a property.  `Draw.Alike` says that two draws, from
whatever states, return values of the same outline or fail with the same failure.  Both are closed
under the composition of draws.  A bounded number is below its bound.
-/

namespace ShapeForge

namespace Random

theorem next_lt (random : Random) : random.next.1 < Word.count :=
  Nat.mod_lt _ (by decide)

/-- The high word of a product with a bound is below the bound. -/
theorem mul_div_count_lt {bound drawn : Nat} (positive : 0 < bound) (isWord : drawn < Word.count) :
    drawn * bound / Word.count < bound := by
  apply Nat.div_lt_of_lt_mul
  exact Nat.mul_lt_mul_of_pos_right isWord positive

theorem redraw_lt {bound threshold : Nat} (positive : 0 < bound) (fuel : Nat) (drawn : Nat × Random)
    (isWord : drawn.1 < Word.count) :
    (redraw bound threshold fuel drawn).1 < bound := by
  induction fuel generalizing drawn with
  | zero =>
    exact mul_div_count_lt positive isWord
  | succ fuel ih =>
    rw [redraw]
    split
    · exact ih _ (next_lt _)
    · exact mul_div_count_lt positive isWord

theorem below_lt {bound : Nat} (positive : 0 < bound) (random : Random) :
    (random.below bound).1 < bound := by
  have isWord := next_lt random
  unfold below
  generalize random.next = next at isWord ⊢
  rcases next with ⟨drawn, after⟩
  dsimp only
  split
  · have masked : drawn &&& (bound - 1) ≤ bound - 1 := Nat.and_le_right
    dsimp only
    omega
  · exact redraw_lt positive _ _ isWord

end Random

namespace Draw

variable {α β γ : Type}

theorem run_bind {draw : Draw α} {next : α → Draw β} {random after : Random} {value : α}
    (run : draw random = .ok (value, after)) :
    (draw >>= next) random = next value after := by
  simp only [Bind.bind, StateT.bind, run, Except.bind]

/-! ## What every returned value has -/

/-- Every value that a draw returns has a property. -/
def Ensures (draw : Draw α) (holds : α → Prop) : Prop :=
  ∀ random value after, draw random = .ok (value, after) → holds value

theorem Ensures.pure {value : α} {holds : α → Prop} (given : holds value) :
    Ensures (Pure.pure value) holds := by
  intro random returned after run
  cases run
  exact given

theorem Ensures.throw {fault : Fault} {holds : α → Prop} :
    Ensures (MonadExcept.throw fault : Draw α) holds := by
  intro random returned after run
  cases run

theorem Ensures.bind {draw : Draw α} {next : α → Draw β} {between : α → Prop} {holds : β → Prop}
    (first : Ensures draw between) (rest : ∀ value, between value → Ensures (next value) holds) :
    Ensures (draw >>= next) holds := by
  intro random returned after run
  cases drawn : draw random with
  | error fault =>
    simp [Bind.bind, StateT.bind, Except.bind, drawn] at run
  | ok middle =>
    simp only [Bind.bind, StateT.bind, Except.bind, drawn] at run
    exact rest middle.1 (first random middle.1 middle.2 drawn) middle.2 returned after run

theorem Ensures.below {bound : Nat} (positive : 0 < bound) : Ensures (below bound) (· < bound) := by
  intro random value after run
  have returned : random.below bound = (value, after) := Except.ok.inj run
  have bounded := Random.below_lt positive random
  rw [returned] at bounded
  exact bounded

/-! ## What the generator does not decide -/

/-- Two draws fail alike, or return values of the same outline, from any two states of the
generator. -/
def Alike (outline : α → γ) (left right : Draw α) : Prop :=
  ∀ random random',
    (left random).map (fun drawn => outline drawn.1) =
      (right random').map (fun drawn => outline drawn.1)

theorem Alike.pure {outline : α → γ} {left right : α} (same : outline left = outline right) :
    Alike outline (Pure.pure left) (Pure.pure right) :=
  fun _ _ => congrArg Except.ok same

theorem Alike.throw {outline : α → γ} {fault : Fault} :
    Alike outline (MonadExcept.throw fault) (MonadExcept.throw fault) :=
  fun _ _ => rfl

/-- Draws that go on from numbers below a bound are alike if what follows is alike for all of
these numbers. -/
theorem Alike.bindBelow {bound : Nat} {outline : β → γ} {left right : Nat → Draw β}
    (positive : 0 < bound)
    (rest : ∀ number number', number < bound → number' < bound →
      Alike outline (left number) (right number')) :
    Alike outline (below bound >>= left) (below bound >>= right) := by
  intro random random'
  exact rest _ _ (Random.below_lt positive random) (Random.below_lt positive random') _ _

/-- Draws that go on from alike ones are alike if what follows is alike for values of the same
outline. -/
theorem Alike.bind
    {between : α → γ} {δ : Type} {outline : β → δ} {left right : Draw α} {next next' : α → Draw β}
    (first : Alike between left right)
    (rest : ∀ value value', between value = between value' →
      Alike outline (next value) (next' value')) :
    Alike outline (left >>= next) (right >>= next') := by
  intro random random'
  have drawn := first random random'
  simp only [Bind.bind, StateT.bind, Except.bind]
  cases leftRun : left random with
  | error fault =>
    cases rightRun : right random' with
    | error fault' =>
      rw [leftRun, rightRun] at drawn
      cases drawn
      rfl
    | ok found =>
      rw [leftRun, rightRun] at drawn
      cases drawn
  | ok found =>
    cases rightRun : right random' with
    | error fault =>
      rw [leftRun, rightRun] at drawn
      cases drawn
    | ok found' =>
      rw [leftRun, rightRun] at drawn
      exact rest found.1 found'.1 (Except.ok.inj drawn) found.2 found'.2

/-- What is made of alike draws has the same outline. -/
theorem Alike.map
    {δ : Type} {between : α → γ} {outline : β → δ} {left right : Draw α} {make : α → β}
    (alike : Alike between left right)
    (respects : ∀ value value', between value = between value' →
      outline (make value) = outline (make value'))
    (random random' : Random) :
    ((left random).map fun drawn => make drawn.1).map outline =
      ((right random').map fun drawn => make drawn.1).map outline := by
  have made : Alike outline (make <$> left) (make <$> right) :=
    alike.bind fun value value' same => Alike.pure (respects value value' same)
  have same := made random random'
  simp only [Functor.map, StateT.map, Bind.bind, Except.bind] at same
  revert same
  cases left random <;> cases right random' <;> exact id

end Draw

end ShapeForge
