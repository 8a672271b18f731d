import ShapeForge.Shape.Id

/-!
# Failures

Why an operation of the library failed.  Every cause is a constructor with the facts that belong
to it; `Fault.message` is the only place that words them.  A failure may be reported in a wider
context, together with others, or with a hint for the user.
-/

namespace ShapeForge

inductive Fault where
  /-- A document is not a model; the place is known where the line is positive. -/
  | parse (path : String) (line column : Int) (problem : String) (cause : Option Fault)
  | malformedId (problem : ShapeId.Malformed) (text : String)
  | shapeKind (shape kind : String) (line : Int)
  | reference (shape origin problem : String)
  | typeMapping (shape origin : String)
  | httpMethod (shape method : String)
  | serviceCount (space : String) (services : List String)
  | duplicateShape (shape : String)
  | nameCollision (space name first second : String)
  | requiredField (type field path : String)
  | config (option : String) (value : Option String) (problem : String) (cause : Option Fault)
  | noVersions (package registry : String)
  | plain (text : String)
  | context (text : String) (cause : Fault)
  | several (faults : List Fault)
  | hinted (hint : String) (cause : Fault)
  deriving Repr, Inhabited

namespace Fault

def when (lead text : String) (close : String := "") : String :=
  if text.isEmpty then "" else lead ++ text ++ close

mutual

def message : Fault → String
  | .parse path line column problem cause =>
    "parse error" ++ when " in " path ++
      (if line > 0 then
        " at line " ++ toString line ++
          (if column > 0 then ", column " ++ toString column else "")
      else "") ++
      when ": " problem ++ causeMessage cause
  | .malformedId problem text => problem.message text
  | .shapeKind shape kind line =>
    "unsupported shape kind" ++ (if kind.isEmpty then "" else " " ++ Text.quote kind) ++
      when " for " shape ++ (if line > 0 then " at line " ++ toString line else "")
  | .reference shape origin problem =>
    "unresolved shape reference" ++ when ": " shape ++ when " (from " origin ")" ++
      when ": " problem
  | .typeMapping shape origin =>
    "type mapping not found" ++ when " for " shape ++ when " (from " origin ")"
  | .httpMethod shape method =>
    "invalid http method" ++ (if method.isEmpty then "" else " " ++ Text.quote method) ++
      when " on " shape
  | .serviceCount space services =>
    "ambiguous service count: namespace " ++ space ++ " declares " ++
      toString services.length ++ " services" ++
      (if services.isEmpty then "" else " [" ++ " ".intercalate services ++ "]")
  | .duplicateShape shape => "duplicate shape: " ++ shape
  | .nameCollision space name first second =>
    "name collision: " ++ name ++ " in namespace " ++ space ++ " is declared for both " ++
      first ++ " and " ++ second
  | .requiredField type field path =>
    "required field missing: " ++ type ++ "." ++ field ++ when " at " path
  | .config option value problem cause =>
    "configuration error" ++ when " for " option ++
      (match value with
      | some value => " (value: " ++ value ++ ")"
      | none => "") ++
      when ": " problem ++ causeMessage cause
  | .noVersions package registry =>
    "pkgversion: no published versions for " ++ package ++ " in " ++ registry
  | .plain text => text
  | .context text cause => text ++ ": " ++ message cause
  | .several faults => "\n".intercalate (messages faults)
  | .hinted _ cause => message cause

def causeMessage : Option Fault → String
  | none => ""
  | some cause => ": " ++ message cause

def messages : List Fault → List String
  | [] => []
  | fault :: rest => message fault :: messages rest

end

inductive Kind where
  | parse
  | shapeKind
  | reference
  | typeMapping
  | httpMethod
  | serviceCount
  | duplicateShape
  | nameCollision
  | requiredField
  | config
  | noVersions
  deriving DecidableEq, Repr

namespace Kind

def all : List Kind :=
  [.parse, .shapeKind, .reference, .typeMapping, .httpMethod, .serviceCount, .duplicateShape,
    .nameCollision, .requiredField, .config, .noVersions]

end Kind

mutual

def is (kind : Kind) : Fault → Bool
  | .parse _ _ _ _ cause => kind == .parse || isCause kind cause
  | .shapeKind _ _ _ => kind == .shapeKind
  | .reference _ _ _ => kind == .reference
  | .typeMapping _ _ => kind == .typeMapping
  | .httpMethod _ _ => kind == .httpMethod
  | .serviceCount _ _ => kind == .serviceCount
  | .duplicateShape _ => kind == .duplicateShape
  | .nameCollision _ _ _ _ => kind == .nameCollision
  | .requiredField _ _ _ => kind == .requiredField
  | .config _ _ _ cause => kind == .config || isCause kind cause
  | .noVersions _ _ => kind == .noVersions
  | .context _ cause => is kind cause
  | .several faults => isAny kind faults
  | .hinted _ cause => is kind cause
  | .malformedId _ _ => false
  | .plain _ => false

def isCause (kind : Kind) : Option Fault → Bool
  | none => false
  | some cause => is kind cause

def isAny (kind : Kind) : List Fault → Bool
  | [] => false
  | fault :: rest => is kind fault || isAny kind rest

end

def kinds (fault : Fault) : List Kind :=
  Kind.all.filter fun kind => fault.is kind

mutual

/-- The hints that come with a failure, outermost first. -/
def hints : Fault → List String
  | .hinted hint cause => hint :: hints cause
  | .context _ cause => hints cause
  | .parse _ _ _ _ cause => causeHints cause
  | .config _ _ _ cause => causeHints cause
  | _ => []

def causeHints : Option Fault → List String
  | none => []
  | some cause => hints cause

end

def join : List Fault → Option Fault
  | [] => none
  | faults => some (.several faults)

/-- A request that its caller gave up fails before it does anything. -/
def unlessCanceled {α : Type} (canceled : Bool) (result : Except Fault α) : Except Fault α :=
  if canceled then .error (.plain "context canceled") else result

end Fault

end ShapeForge
