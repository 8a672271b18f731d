import ShapeForge.Fault

/-!
# Steps that record

Emitting and building go in steps that keep a record and may fail.  A step gives a value if it
succeeds with it whatever was recorded before, and succeeds if it always gives some value; it
ensures a property if all values that it succeeds with have it.  It keeps an invariant of the
record if the invariant also holds afterwards, whether it succeeds or not, and leads from one
property of the record to another in the same sense.
-/

namespace ShapeForge.Recording

variable {σ α β : Type}

/-- The step succeeds with a value, whatever was recorded before. -/
def Gives (step : ExceptT Fault (StateM σ) α) (value : α) : Prop :=
  ∀ record : σ, (step.run record).1 = .ok value

/-- The step succeeds, whatever was recorded before. -/
def Succeeds (step : ExceptT Fault (StateM σ) α) : Prop :=
  ∀ record : σ, ∃ value, (step.run record).1 = .ok value

/-- Every value that the step succeeds with has a property. -/
def Ensures (step : ExceptT Fault (StateM σ) α) (property : α → Prop) : Prop :=
  ∀ (record : σ) (value : α), (step.run record).1 = .ok value → property value

theorem run_bind
    (step : ExceptT Fault (StateM σ) α) (next : α → ExceptT Fault (StateM σ) β) (record : σ) :
    (step >>= next).run record =
      match step.run record with
      | (.ok value, after) => (next value).run after
      | (.error fault, after) => (.error fault, after) := by
  unfold ExceptT.run
  simp only [bind, ExceptT.bind, ExceptT.mk, StateT.bind, ExceptT.bindCont]
  cases step record with
  | mk outcome after => cases outcome <;> rfl

theorem gives_pure (value : α) : Gives (pure value : ExceptT Fault (StateM σ) α) value :=
  fun _ => rfl

variable {step : ExceptT Fault (StateM σ) α} {value : α} {property : α → Prop}
  {next : α → ExceptT Fault (StateM σ) β}

theorem Gives.bind {result : β} (first : Gives step value) (second : Gives (next value) result) :
    Gives (step >>= next) result := by
  intro record
  have succeeded := first record
  rw [run_bind]
  cases ran : step.run record with
  | mk outcome after =>
    rw [ran] at succeeded
    cases succeeded
    exact second after

theorem Gives.succeeds (gives : Gives step value) : Succeeds step :=
  fun record => ⟨value, gives record⟩

/-- Steps succeed in turn if the second succeeds after all values that the first ensures. -/
theorem Succeeds.bind (first : Succeeds step) (ensured : Ensures step property)
    (second : ∀ value, property value → Succeeds (next value)) :
    Succeeds (step >>= next) := by
  intro record
  rcases first record with ⟨value, succeeded⟩
  have holds := ensured record value succeeded
  rw [run_bind]
  cases ran : step.run record with
  | mk outcome after =>
    rw [ran] at succeeded
    cases succeeded
    exact second value holds after

theorem Gives.ensures (gives : Gives step value) : Ensures step fun result => result = value := by
  intro record result succeeded
  rw [gives record] at succeeded
  cases succeeded
  rfl

theorem Ensures.trivial (step : ExceptT Fault (StateM σ) α) : Ensures step fun _ => True :=
  fun _ _ _ => True.intro

theorem ensures_pure (holds : property value) :
    Ensures (pure value : ExceptT Fault (StateM σ) α) property := by
  rintro record _ ⟨⟩
  exact holds

theorem ensures_throw (property : α → Prop) (fault : Fault) :
    Ensures (throw fault : ExceptT Fault (StateM σ) α) property := by
  rintro record _ ⟨⟩

theorem Ensures.bind {post : β → Prop} (first : Ensures step property)
    (second : ∀ value, property value → Ensures (next value) post) :
    Ensures (step >>= next) post := by
  intro record result succeeded
  rw [run_bind] at succeeded
  cases ran : step.run record with
  | mk outcome after =>
    rw [ran] at succeeded
    cases outcome with
    | error fault => cases succeeded
    | ok value =>
      have holds : property value := first record value (by rw [ran])
      exact second value holds after result succeeded

/-- What is ensured after a step whatever its value does not depend on the step. -/
theorem ensures_bind {post : β → Prop} (second : ∀ value, Ensures (next value) post) :
    Ensures (step >>= next) post :=
  (Ensures.trivial step).bind fun value _ => second value

theorem Ensures.ite {condition : Prop} [Decidable condition] {other : ExceptT Fault (StateM σ) α}
    (first : Ensures step property) (second : Ensures other property) :
    Ensures (if condition then step else other) property := by
  split
  · exact first
  · exact second

/-- What is ensured after a step that is taken under a condition does not depend on it. -/
theorem Ensures.after_if {condition : Prop} [Decidable condition]
    {step : ExceptT Fault (StateM σ) PUnit} {next : PUnit → ExceptT Fault (StateM σ) β}
    {property : β → Prop} (rest : Ensures (next ⟨⟩) property) :
    Ensures (if condition then step >>= next else next ⟨⟩) property :=
  Ensures.ite (ensures_bind fun _ => rest) rest

/-- An invariant of the record still holds after the step, also where the step fails. -/
def Keeps (invariant : σ → Prop) (step : ExceptT Fault (StateM σ) α) : Prop :=
  ∀ record : σ, invariant record → invariant (step.run record).2

section Keeps

variable {invariant : σ → Prop}

theorem keeps_pure (value : α) : Keeps invariant (pure value : ExceptT Fault (StateM σ) α) :=
  fun _ holds => holds

theorem keeps_get : Keeps invariant (get : ExceptT Fault (StateM σ) σ) :=
  fun _ holds => holds

theorem keeps_throw (fault : Fault) : Keeps invariant (throw fault : ExceptT Fault (StateM σ) α) :=
  fun _ holds => holds

theorem Keeps.bind {step : ExceptT Fault (StateM σ) α} {next : α → ExceptT Fault (StateM σ) β}
    (first : Keeps invariant step) (second : ∀ value, Keeps invariant (next value)) :
    Keeps invariant (step >>= next) := by
  intro record holds
  have between := first record holds
  rw [run_bind]
  cases ran : step.run record with
  | mk outcome after =>
    rw [ran] at between
    cases outcome with
    | error fault => exact between
    | ok value => exact second value after between

theorem Keeps.ite {condition : Prop} [Decidable condition] {step other : ExceptT Fault (StateM σ) α}
    (first : Keeps invariant step) (second : Keeps invariant other) :
    Keeps invariant (if condition then step else other) := by
  split
  · exact first
  · exact second

theorem keeps_throw_bind (fault : Fault) (next : α → ExceptT Fault (StateM σ) β) :
    Keeps invariant (throw fault >>= next) := by
  intro record holds
  rw [run_bind]
  exact holds

theorem Keeps.after_if {condition : Prop} [Decidable condition]
    {step : ExceptT Fault (StateM σ) PUnit} {next : PUnit → ExceptT Fault (StateM σ) β}
    (first : Keeps invariant step) (rest : Keeps invariant (next ⟨⟩)) :
    Keeps invariant (if condition then step >>= next else next ⟨⟩) :=
  Keeps.ite (first.bind fun _ => rest) rest

/-- From records with one property the step leads to records with another, also where it fails. -/
def LeadsFrom (before after : σ → Prop) (step : ExceptT Fault (StateM σ) α) : Prop :=
  ∀ record : σ, before record → after (step.run record).2

/-- What a step keeps holds when the next one begins, and is enough where the step fails. -/
theorem Keeps.leadsFrom {step : ExceptT Fault (StateM σ) α} {next : α → ExceptT Fault (StateM σ) β}
    {property : α → Prop} {after : σ → Prop} (first : Keeps invariant step)
    (enough : ∀ record, invariant record → after record) (ensured : Ensures step property)
    (second : ∀ value, property value → LeadsFrom invariant after (next value)) :
    LeadsFrom invariant after (step >>= next) := by
  intro record holds
  have kept := first record holds
  have ensures := ensured record
  rw [run_bind]
  cases ran : step.run record with
  | mk outcome between =>
    rw [ran] at kept ensures
    cases outcome with
    | error fault => exact enough between kept
    | ok value => exact second value (ensures value rfl) between kept

end Keeps

end ShapeForge.Recording
