import ShapeForge.Tools.ModelInput

/-!
# Arguments of the tools

A call names a tool and passes its arguments as a JSON object.  Names are taken up to case, `null`
leaves an argument out, and an argument of the wrong type makes the call unreadable.
-/

namespace ShapeForge.Tools

structure InspectArguments where
  model : ModelInput := {}
  space : String := ""
  kind : String := ""
  name : String := ""
  groupBy : String := ""
  offset : Int := 0
  limit : Int := 0

structure GenerateArguments where
  model : ModelInput := {}
  output : String := ""
  modulePath : String := ""
  namespaces : List String := []
  policy : String := ""
  seed : Option Nat := none
  strict : Bool := false

structure MockArguments where
  model : ModelInput := {}
  shape : String := ""
  seed : Option Nat := none
  listSize : Option Int := none

structure CheckArguments where
  model : ModelInput := {}
  shape : String := ""
  value : Json := .null

inductive Call where
  | inspect (arguments : InspectArguments)
  | generate (arguments : GenerateArguments)
  | mock (arguments : MockArguments)
  | check (arguments : CheckArguments)

namespace Arguments

def value? (fields : List (String × Json)) (name : String) : Option Json :=
  ((fields.reverse.find? fun (key, _) => Text.equalFold key name).map (·.2)).filter (!·.isNull)

def optional {α : Type} (fields : List (String × Json)) (name : String)
    (read : Json → Option α) : Option (Option α) :=
  match value? fields name with
  | none => some none
  | some value => (read value).map some

def given {α : Type} (fields : List (String × Json)) (name : String) (default : α)
    (read : Json → Option α) : Option α :=
  (optional fields name read).map (·.getD default)

def text? : Json → Option String
  | .string text => some text
  | _ => none

def truth? : Json → Option Bool
  | .bool value => some value
  | _ => none

def int? : Json → Option Int
  | .number literal => Trait.decimalInt? literal
  | _ => none

def natural? : Json → Option Nat
  | .number literal =>
    if literal.toList.all Char.isDigit then
      (literal.toNat?).filter Word.fits
    else none
  | _ => none

/-- A list of texts, in which `null` stands for an empty one. -/
def texts? : Json → Option (List String)
  | .array items => items.mapM fun item => if item.isNull then some "" else text? item
  | _ => none

def model? : Json → Option ModelInput
  | .object fields => do
    some { file := ← given fields "file" "" text?, content := ← given fields "content" "" text? }
  | _ => none

/-- The arguments of an object; `null` passes none. -/
def fields? : Json → Option (List (String × Json))
  | .object fields => some fields
  | .null => some []
  | _ => none

end Arguments

namespace Call

open Arguments

def read? (tool : String) (arguments : Json) : Option Call := do
  let fields ← fields? arguments
  let text (name : String) := given fields name "" text?
  let model ← given fields "model" {} model?
  match tool with
  | "inspect" =>
    some (.inspect
      { model, space := ← text "namespace", kind := ← text "kind", name := ← text "name"
        groupBy := ← text "group_by", offset := ← given fields "offset" 0 int?
        limit := ← given fields "limit" 0 int? })
  | "generate" =>
    some (.generate
      { model, output := ← text "output_dir", modulePath := ← text "module_path"
        namespaces := ← given fields "namespaces" [] texts?, policy := ← text "policy"
        seed := ← optional fields "seed" natural?
        strict := ← given fields "strict" false truth? })
  | "mock" =>
    some (.mock
      { model, shape := ← text "shape", seed := ← optional fields "seed" natural?
        listSize := ← optional fields "list_size" int? })
  | "check" =>
    some (.check
      { model, shape := ← text "shape", value := (value? fields "instance").getD .null })
  | _ => none

def model : Call → ModelInput
  | .inspect arguments => arguments.model
  | .generate arguments => arguments.model
  | .mock arguments => arguments.model
  | .check arguments => arguments.model

end Call

end ShapeForge.Tools
