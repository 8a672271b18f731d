import Mathlib.Data.List.Perm.Basic
import ShapeForge.Proofs.Model.Reachability
import ShapeForge.Validation.Method

/-!
# What validators do

A validator is made of a few kinds of statements: tests for nil that return an error, calls of
other validators whose errors are passed on, and loops over lists and maps.  `Validation.Runs` gives
every statement that is written out its meaning, and `Validation.Returns` is the meaning of a call.
A loop over a map may take the entries in any order, so a call may have several results.
-/

namespace ShapeForge.Validation

/-! ## Values -/

/-- A value of the emitted types.  A structure has its fields under their names. -/
inductive Data where
  | absent
  /-- A value that holds no structures, by its JSON. -/
  | plain (content : Json)
  | record (shape : Shape) (fields : List (String × Data))
  | list (items : List Data)
  | map (entries : List (String × Data))

namespace Data

def isNil : Data → Bool
  | .absent => true
  | _ => false

/-- The value of the field with a name, nil where it was not set. -/
def field (name : String) : Data → Data
  | .record _ fields => ((fields.find? (·.1 == name)).map (·.2)).getD .absent
  | _ => .absent

def items : Data → List Data
  | .list items => items
  | _ => []

def entries : Data → List (String × Data)
  | .map entries => entries
  | _ => []

end Data

/-! ## Running statements -/

structure RequiredError where
  type : String
  field : String
  deriving DecidableEq, Repr

/-- What a statement can refer to. -/
structure Frame where
  receiver : Data
  index : Nat := 0
  element : Data := .absent

def Operand.value (frame : Frame) : Operand → Data
  | .field name => frame.receiver.field name
  | .item name => (frame.receiver.field name).items[frame.index]?.getD .absent
  | .element => frame.element

mutual

/-- A statement runs and lets the next one follow, or returns an error. -/
inductive Runs (model : Model) : Frame → Statement → Option RequiredError → Prop where
  | receiverNil {frame type}
      (isNil : frame.receiver.isNil = true) :
      Runs model frame (.requireReceiver type) (some ⟨type, ""⟩)
  | receiverSet {frame type}
      (isSet : frame.receiver.isNil = false) :
      Runs model frame (.requireReceiver type) none
  | fieldNil {frame field type member}
      (isNil : (frame.receiver.field field).isNil = true) :
      Runs model frame (.requireField field type member) (some ⟨type, member⟩)
  | fieldSet {frame field type member}
      (isSet : (frame.receiver.field field).isNil = false) :
      Runs model frame (.requireField field type member) none
  | call {frame operand shape fields result}
      (isRecord : operand.value frame = .record shape fields)
      (returns : Returns model shape (.record shape fields) result) :
      Runs model frame (.call operand) result
  | skip {frame field body}
      (isNil : (frame.receiver.field field).isNil = true) :
      Runs model frame (.unlessNil field body) none
  | enter {frame field body result}
      (isSet : (frame.receiver.field field).isNil = false)
      (inside : Runs model frame body result) :
      Runs model frame (.unlessNil field body) result
  | items {frame field body result}
      (each : RunsInTurn model
        ((List.range (frame.receiver.field field).items.length).map fun index =>
          ({ frame with index }, body)) result) :
      Runs model frame (.forItems field body) result
  | values {frame field body result} {order : List (String × Data)}
      (anyOrder : order.Perm (frame.receiver.field field).entries)
      (each : RunsInTurn model
        (order.map fun entry => ({ frame with element := entry.2 }, body)) result) :
      Runs model frame (.forValues field body) result

/-- Statements run one after the other until one returns an error. -/
inductive RunsInTurn (model : Model) :
    List (Frame × Statement) → Option RequiredError → Prop where
  | done : RunsInTurn model [] none
  | stop {frame statement rest error}
      (first : Runs model frame statement (some error)) :
      RunsInTurn model ((frame, statement) :: rest) (some error)
  | step {frame statement rest result}
      (first : Runs model frame statement none)
      (others : RunsInTurn model rest result) :
      RunsInTurn model ((frame, statement) :: rest) result

/-- The validator of a structure, called on a value, returns an error or nil. -/
inductive Returns (model : Model) : Shape → Data → Option RequiredError → Prop where
  | method {shape data method result}
      (emitted : Validation.method model shape = .ok method)
      (body : RunsInTurn model
        (method.statements.map fun statement => ({ receiver := data }, statement)) result) :
      Returns model shape data result

end

end ShapeForge.Validation
