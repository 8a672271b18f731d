import ShapeForge.Emit.Package
import ShapeForge.Proofs.Recording

/-!
# Issues of a package

Building a package warns and informs; that a package cannot be built at all is the failure of a
step, never an issue that a step records.  So none of the recorded issues is critical, wherever
building ends.
-/

namespace ShapeForge.Emit

open Recording
open Code (Item)

/-- No critical issue was recorded. -/
def Recorded.Mild (recorded : Recorded) : Prop :=
  ∀ issue ∈ recorded.issues, issue.severity ≠ some .critical

/-! ## Steps of building -/

section Steps

variable {α β : Type}

theorem keeps_emit (emission : Emission α) : Keeps Recorded.Mild (Build.emit emission) :=
  fun _ mild => mild

theorem keeps_check (outcome : Except Fault α) : Keeps Recorded.Mild (Build.check outcome) :=
  fun _ mild => mild

theorem keeps_resetImports : Keeps Recorded.Mild Build.resetImports :=
  fun _ mild => mild

theorem keeps_addIssue {issue : Issue} (minor : issue.severity ≠ some .critical) :
    Keeps Recorded.Mild (Build.addIssue issue) := by
  intro recorded mild other isOther
  rcases List.mem_append.mp isOther with before | added
  · exact mild other before
  · rw [List.mem_singleton.mp added]
    exact minor

theorem keeps_each {step : α → Build β}
    (ofItem : ∀ item, Keeps Recorded.Mild (step item)) (items : List α) :
    Keeps Recorded.Mild (Build.each step items) := by
  induction items with
  | nil => exact keeps_pure []
  | cons item rest ih =>
    apply (ofItem item).bind
    intro first
    apply ih.bind
    intro others
    exact keeps_pure (first :: others)

end Steps

variable {emitter : Emitter} {severity : Severity}

theorem keeps_shapeIssue (minor : severity ≠ .critical) (shape : Shape) (message : String) :
    Keeps Recorded.Mild (emitter.shapeIssue shape message severity) :=
  keeps_addIssue fun same => minor (Option.some.inj same)

theorem keeps_packageIssue (minor : severity ≠ .critical) (file message : String) :
    Keeps Recorded.Mild (emitter.packageIssue file message severity) :=
  keeps_addIssue fun same => minor (Option.some.inj same)

/-! ## Types -/

theorem keeps_patternItems (shape : Shape) (kind : SimpleKind) (name pattern : String) :
    Keeps Recorded.Mild (patternItems emitter shape kind name pattern) := by
  unfold patternItems
  apply Keeps.ite
  · apply (keeps_shapeIssue (by decide) _ _).bind
    exact fun _ => keeps_pure []
  · split
    · apply (keeps_shapeIssue (by decide) _ _).bind
      exact fun _ => keeps_pure _
    · apply (keeps_emit _).bind
      exact fun _ => keeps_pure _

theorem keeps_simpleItems (shape : Shape) (kind : SimpleKind) :
    Keeps Recorded.Mild (simpleItems emitter shape kind) := by
  unfold simpleItems
  split
  · exact keeps_throw _
  · apply Keeps.ite
    · apply (keeps_emit _).bind
      intro type
      split
      · exact keeps_pure _
      · apply (keeps_patternItems _ _ _ _).bind
        exact fun _ => keeps_pure _
    · split
      · exact keeps_pure _
      · apply (keeps_patternItems _ _ _ _).bind
        exact fun _ => keeps_pure _

theorem keeps_listItems (shape : Shape) (item : Member) :
    Keeps Recorded.Mild (listItems emitter shape item) := by
  apply (keeps_check _).bind
  intro type
  apply (keeps_emit _).bind
  exact fun _ => keeps_pure _

theorem keeps_mapItems (shape : Shape) (key value : Member) :
    Keeps Recorded.Mild (mapItems emitter shape key value) := by
  apply (keeps_check _).bind
  intro keyType
  apply (keeps_check _).bind
  intro valueType
  apply (keeps_emit _).bind
  intro keyExpr
  apply (keeps_emit _).bind
  exact fun _ => keeps_pure _

theorem keeps_fieldText (shape : Shape) (member : Member) :
    Keeps Recorded.Mild (fieldText emitter shape member) := by
  apply (keeps_emit _).bind
  intro type
  apply Keeps.ite
  · apply (keeps_shapeIssue (by decide) _ _).bind
    exact fun _ => keeps_pure _
  · exact keeps_pure _

theorem keeps_shapeItems (shape : Shape) : Keeps Recorded.Mild (shapeItems emitter shape) := by
  unfold shapeItems
  split
  · exact keeps_simpleItems shape _
  · exact keeps_pure _
  · exact keeps_listItems shape _
  · exact keeps_mapItems shape _ _
  · apply (keeps_each (keeps_fieldText shape) _).bind
    exact fun _ => keeps_pure _
  · exact keeps_pure _

theorem keeps_typesBody (shapes : List Shape) : Keeps Recorded.Mild (typesBody emitter shapes) := by
  apply (keeps_each keeps_shapeItems shapes).bind
  exact fun _ => keeps_pure _

/-! ## Services -/

theorem keeps_signature (operation : Operation) :
    Keeps Recorded.Mild (signature emitter operation) := by
  apply (keeps_emit _).bind
  intro input
  apply (keeps_emit _).bind
  exact fun _ => keeps_pure _

theorem keeps_errorType (id : ShapeId) : Keeps Recorded.Mild (errorType emitter id) := by
  apply (keeps_check _).bind
  intro shape
  apply (keeps_emit _).bind
  exact fun _ => keeps_pure _

theorem keeps_methodText (info : ServiceInfo) (item : Shape × Operation) :
    Keeps Recorded.Mild (methodText emitter info item) := by
  apply (keeps_signature _).bind
  intro types
  apply (keeps_each keeps_errorType _).bind
  exact fun _ => keeps_pure _

theorem keeps_interfaceItems (info : ServiceInfo) :
    Keeps Recorded.Mild (interfaceItems emitter info) := by
  apply (keeps_each (keeps_methodText info) _).bind
  exact fun _ => keeps_pure _

theorem keeps_serviceBody (services : List ServiceInfo) :
    Keeps Recorded.Mild (serviceBody emitter services) := by
  apply (keeps_emit _).bind
  intro _
  apply (keeps_each keeps_interfaceItems services).bind
  exact fun _ => keeps_pure _

theorem keeps_mockMethod (mock : String) (item : Shape × Operation) :
    Keeps Recorded.Mild (mockMethod emitter mock item) := by
  apply (keeps_signature _).bind
  intro types
  apply (keeps_emit _).bind
  exact fun _ => keeps_pure _

theorem keeps_mockItems (info : ServiceInfo) : Keeps Recorded.Mild (mockItems emitter info) := by
  apply (keeps_each (keeps_mockMethod _) _).bind
  exact fun _ => keeps_pure _

theorem keeps_mockBody (services : List ServiceInfo) :
    Keeps Recorded.Mild (mockBody emitter services) := by
  apply (keeps_emit _).bind
  intro _
  apply (keeps_each keeps_mockItems services).bind
  exact fun _ => keeps_pure _

/-! ## Routes -/

theorem keeps_warnLabels (shape : Shape) (problem : String) (labels : List String) :
    Keeps Recorded.Mild (warnLabels emitter shape problem labels) := by
  apply (keeps_each (fun label => keeps_shapeIssue (by decide) shape _) labels).bind
  exact fun _ => keeps_pure ()

theorem keeps_memberParam (input : Shape) (labels : List String) (member : Member) :
    Keeps Recorded.Mild (memberParam emitter input labels member) := by
  unfold memberParam
  apply Keeps.ite
  · exact keeps_pure none
  apply Keeps.ite
  · apply (keeps_shapeIssue (by decide) _ _).bind
    exact fun _ => keeps_pure none
  apply (keeps_check _).bind
  intro type
  apply Keeps.ite
  · apply (keeps_shapeIssue (by decide) _ _).bind
    exact fun _ => keeps_pure none
  apply (keeps_emit _).bind
  exact fun _ => keeps_pure _

theorem keeps_httpParams (shape : Shape) (operation : Operation) (binding : HttpBinding) :
    Keeps Recorded.Mild (httpParams emitter shape operation binding) := by
  unfold httpParams
  apply Keeps.ite
  · apply (keeps_warnLabels shape _ _).bind
    exact fun _ => keeps_pure []
  apply (keeps_check _).bind
  intro input
  apply (keeps_each (keeps_memberParam input _) _).bind
  intro params
  apply (keeps_warnLabels shape _ _).bind
  exact fun _ => keeps_pure _

theorem keeps_httpOperation (item : Shape × Operation) :
    Keeps Recorded.Mild (httpOperation emitter item) := by
  apply (keeps_check _).bind
  intro http
  cases http with
  | none => exact keeps_pure none
  | some binding =>
    apply (keeps_check _).bind
    intro method
    apply (keeps_httpParams _ _ _).bind
    exact fun _ => keeps_pure _

theorem keeps_registrations (taken : List String) (operations : List HttpOperation) :
    Keeps Recorded.Mild (registrations emitter taken operations) := by
  induction operations generalizing taken with
  | nil => exact keeps_pure ""
  | cons bound rest ih =>
    rw [registrations]
    apply Keeps.ite
    · apply (keeps_shapeIssue (by decide) _ _).bind
      exact fun _ => ih taken
    · apply (ih _).bind
      exact fun _ => keeps_pure _

theorem keeps_operationItems (handler : String) (bound : HttpOperation) :
    Keeps Recorded.Mild (operationItems emitter handler bound) := by
  apply (keeps_signature _).bind
  exact fun _ => keeps_pure _

theorem keeps_handlerItems (info : ServiceInfo) (operations : List HttpOperation) :
    Keeps Recorded.Mild (handlerItems emitter info operations) := by
  apply (keeps_registrations [] operations).bind
  intro routes
  apply (keeps_each (keeps_operationItems _) operations).bind
  exact fun _ => keeps_pure _

theorem keeps_httpBody (services : List ServiceInfo) :
    Keeps Recorded.Mild (httpBody emitter services) := by
  have bindings (info : ServiceInfo) : Keeps Recorded.Mild (httpOperations emitter info) := by
    apply (keeps_each keeps_httpOperation _).bind
    exact fun _ => keeps_pure _
  unfold httpBody
  apply (keeps_each bindings services).bind
  intro bound
  apply Keeps.ite
  · exact keeps_pure none
  apply (keeps_each (fun path => keeps_emit (Emission.use path)) httpImports).bind
  intro _
  refine Keeps.bind (keeps_each ?_ _) fun _ => keeps_pure _
  rintro ⟨info, operations⟩
  exact keeps_handlerItems info operations

/-! ## Files -/

theorem keeps_ofServices
    {contents : Contents} {step : Emitter → List ServiceInfo → Build (List Item)}
    (ofServices : Keeps Recorded.Mild (step emitter contents.services)) :
    Keeps Recorded.Mild (CodeFile.items.ofServices emitter contents step) := by
  apply Keeps.ite
  · exact keeps_pure none
  · apply ofServices.bind
    exact fun _ => keeps_pure _

theorem keeps_items (contents : Contents) (file : CodeFile) :
    Keeps Recorded.Mild (file.items emitter contents) := by
  cases file with
  | types =>
    apply (keeps_typesBody contents.shapes).bind
    exact fun _ => keeps_pure _
  | service => exact keeps_ofServices (keeps_serviceBody contents.services)
  | http => exact keeps_httpBody contents.services
  | mock => exact keeps_ofServices (keeps_mockBody contents.services)
  | validators =>
    apply Keeps.ite
    · exact keeps_pure none
    · apply (keeps_check _).bind
      exact fun _ => keeps_pure _
  | serviceTest => exact keeps_ofServices (keeps_emit _)

/-- Formatting as it goes on before it is known whether the text is code. -/
theorem formatted_eq (name text : String) :
    formatted emitter name text = do
      modify fun recorded => match Layout.format text with
        | .ok _ => recorded
        | .error problem => ((emitter.packageIssue name
            ("failed to format generated code: " ++ problem.message) .warning).run recorded).2
      return { name, content := (Layout.format text).toOption.getD text } := by
  unfold formatted
  cases Layout.format text <;> rfl

theorem keeps_formatted (name text : String) :
    Keeps Recorded.Mild (formatted emitter name text) := by
  unfold formatted
  split
  · exact keeps_pure _
  · apply (keeps_packageIssue (by decide) name _).bind
    exact fun _ => keeps_pure _

theorem keeps_codeFile (contents : Contents) (file : CodeFile) :
    Keeps Recorded.Mild (codeFile emitter contents file) := by
  have body : Keeps Recorded.Mild (codeBody emitter contents file) := by
    apply keeps_resetImports.bind
    intro _
    apply (keeps_items contents file).bind
    exact fun _ _ mild => mild
  apply body.bind
  intro code
  split
  · exact keeps_pure _
  · apply (keeps_formatted _ _).bind
    exact fun _ => keeps_pure _

theorem keeps_contents : Keeps Recorded.Mild (contents emitter) := by
  apply Keeps.ite
  · exact keeps_throw _
  apply (keeps_check _).bind
  intro services
  apply (keeps_check _).bind
  exact fun _ => keeps_pure _

theorem keeps_buildPackage : Keeps Recorded.Mild (buildPackage emitter) := by
  apply keeps_contents.bind
  intro contents
  apply (keeps_formatted _ _).bind
  intro docFile
  apply (keeps_each (keeps_codeFile contents) CodeFile.all).bind
  intro files
  apply (keeps_packageIssue (by decide) "" _).bind
  exact fun _ => keeps_pure _

theorem mild_of_emitPackage (emitter : Emitter) :
    ∀ issue ∈ (emitPackage emitter).2, issue.severity ≠ some .critical :=
  keeps_buildPackage {} (by simp [Recorded.Mild])

end ShapeForge.Emit
