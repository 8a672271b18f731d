import ShapeForge.Naming.Identifier
import ShapeForge.Types.Reference

/-!
# Type expressions

Code is emitted into one namespace.  Names of other namespaces are qualified by the name of their
package, and every qualification records the import that it needs.
-/

namespace ShapeForge

/-- The imports that emitted code needs: names by path, in ascending order of the paths. -/
abbrev Imports := List (String × String)

namespace Imports

def add (path name : String) : Imports → Imports
  | [] => [(path, name)]
  | (other, old) :: rest =>
    if path == other then (path, name) :: rest
    else if path < other then (path, name) :: (other, old) :: rest
    else (other, old) :: add path name rest

end Imports

/-- The emission of code, which records imports also where it fails. -/
abbrev Emission (α : Type) := ExceptT Fault (StateM Imports) α

/-- Where code is emitted: the model, the namespace, and the name and path of the packages of
other namespaces. -/
structure Scope where
  model : Model
  space : String
  package : String → String × String := fun space =>
    (Naming.packageName space, Naming.packageName space)

namespace Emission

def useAs (path name : String) : Emission Unit :=
  modify fun (imports : Imports) => imports.add path name

/-- Use a path under its last element. -/
def use (path : String) : Emission Unit :=
  useAs path (match Text.cutLast '/' path with
    | some (_, last) => last
    | none => path)

def liftFault {α : Type} (result : Except Fault α) : Emission α :=
  ExceptT.mk (pure result)

end Emission

namespace Scope

def qualifyName (scope : Scope) (id : ShapeId) (name : String) : Emission String := do
  if id.nameSpace == scope.space then return name
  let (package, path) := scope.package id.nameSpace
  Emission.useAs path package
  return package ++ "." ++ name

def qualify (scope : Scope) (id : ShapeId) : Emission String :=
  scope.qualifyName id (Naming.declName id)

def typeExpr (scope : Scope) : TypeRef → Emission String
  | .primitive _ kind => do
    if kind == .timestamp then Emission.useAs "time" "time"
    return kind.goType
  | type => scope.qualify type.target

def typeName (scope : Scope) (target : ShapeId) : Emission String := do
  let type ← Emission.liftFault (scope.model.classify target)
  scope.typeExpr type

def fieldType (scope : Scope) (member : Member) : Emission (String × TypeRef) := do
  let type ← Emission.liftFault (scope.model.classifyMember member)
  let text ← scope.typeExpr type
  return (if type.isNilable then text else "*" ++ text, type)

def ioType (scope : Scope) (id : ShapeId) : Emission String := do
  if id.isUnit then return Naming.unitType
  let _ ← Emission.liftFault (scope.model.resolveStructure id)
  scope.qualify id

end Scope

end ShapeForge
