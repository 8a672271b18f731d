import ShapeForge.Pattern.Match
import ShapeForge.Server.Target

/-!
# Routing

Routes are patterns of static text, parameters in braces, and a star for the rest of a path.  They
are kept in a tree that shares common beginnings.  A path is routed along the tree: static text
first, then parameters with an expression, then other parameters, and the rest of a path last.
-/

namespace ShapeForge.Server

def slash : UInt8 := byte '/'

/-- A step of a pattern.  A parameter ends before its tail. -/
inductive Segment where
  | static (text : UInt8)
  | expression (tail : UInt8) (pattern : String)
  | param (tail : UInt8)
  | rest
  deriving DecidableEq, Repr, Inhabited

namespace Segment

def rank : Segment → Nat
  | .static _ => 0
  | .expression _ _ => 1
  | .param _ => 2
  | .rest => 3

def endsBeforeSlash : Segment → Bool
  | .expression tail _ => tail == slash
  | .param tail => tail == slash
  | _ => false

def isParam : Segment → Bool
  | .expression _ _ => true
  | .param _ => true
  | _ => false

end Segment

inductive PatternFault where
  | missingSlash
  | missingBrace
  | starNotLast
  | repeatedName (name : String)
  | invalidExpression (pattern : String)
  deriving DecidableEq, Repr, Inhabited

def PatternFault.message : PatternFault → String
  | .missingSlash => "a routing pattern must begin with a slash"
  | .missingBrace => "a routing pattern has a brace that is not closed"
  | .starNotLast => "a routing pattern goes on behind its star"
  | .repeatedName name => "a routing pattern has two parameters " ++ name
  | .invalidExpression pattern => "a routing pattern has an invalid expression " ++ pattern

/-- The inside of braces and what follows them; `depth` counts the braces that are open. -/
def readBraces (depth : Nat) : Bytes → Option (Bytes × Bytes)
  | [] => none
  | b :: rest =>
    if b == byte '\x7d' then
      if depth == 0 then some ([], rest)
      else (readBraces (depth - 1) rest).map fun (inside, after) => (b :: inside, after)
    else
      let depth := if b == byte '\x7b' then depth + 1 else depth
      (readBraces depth rest).map fun (inside, after) => (b :: inside, after)

def anchored (pattern : String) : String :=
  if pattern.isEmpty then ""
  else (if pattern.startsWith "^" then "" else "^") ++ pattern ++
    (if pattern.endsWith "$" then "" else "$")

/-- The step for the inside of braces in front of a tail, and its name. -/
def paramSegment (inside : Bytes) (tail : UInt8) : Segment × String :=
  match inside.span (· != byte ':') with
  | (name, []) => (.param tail, textOf name)
  | (name, _ :: pattern) => (.expression tail (anchored (textOf pattern)), textOf name)

/-- The steps of a pattern with the names of its parameters.  The fuel bounds the pattern. -/
def readSegments : Nat → Bytes → Except PatternFault (List (Segment × Option String))
  | 0, _ => .ok []
  | _ + 1, [] => .ok []
  | fuel + 1, b :: rest =>
    if b == byte '\x7b' then
      match readBraces 0 rest with
      | none => .error .missingBrace
      | some (inside, after) => do
        let (segment, name) := paramSegment inside (after.headD slash)
        return (segment, some name) :: (← readSegments fuel after)
    else if b == byte '*' then
      if rest.isEmpty then .ok [(.rest, some "*")] else .error .starNotLast
    else do return (.static b, none) :: (← readSegments fuel rest)

def repeated? : List String → Option String
  | [] => none
  | name :: rest => if rest.contains name then some name else repeated? rest

structure RoutePattern where
  segments : List Segment
  names : List String
  deriving DecidableEq, Repr, Inhabited

def RoutePattern.parse (text : String) : Except PatternFault RoutePattern := do
  let bytes := bytesOf text
  if bytes.head? != some slash then throw .missingSlash
  let steps ← readSegments (bytes.length + 1) bytes
  let segments := steps.map (·.1)
  let names := steps.filterMap (·.2)
  for segment in segments do
    match segment with
    | .expression _ pattern =>
      if (Pattern.check pattern).toBool then pure () else throw (.invalidExpression pattern)
    | _ => pure ()
  match repeated? names with
  | some name => throw (.repeatedName name)
  | none => return { segments, names }

structure Endpoint (α : Type) where
  target : α
  pattern : String
  names : List String
  deriving Repr, Inhabited

/-- A tree of routes: what its root leads to by method, and its branches in the order in which
they are tried. -/
inductive RouteTree (α : Type) where
  | node (endpoints : List (String × Endpoint α)) (branches : List (Segment × RouteTree α))

namespace RouteTree

variable {α : Type}

def empty : RouteTree α := .node [] []

def setEndpoint (method : String) (endpoint : Endpoint α) :
    List (String × Endpoint α) → List (String × Endpoint α)
  | [] => [(method, endpoint)]
  | (other, old) :: rest =>
    if other == method then (method, endpoint) :: rest
    else (other, old) :: setEndpoint method endpoint rest

/-- Swap the last branch that ends before a slash with the last branch. -/
def slashLast (branches : List (Segment × RouteTree α)) : List (Segment × RouteTree α) :=
  match branches.reverse with
  | [] => []
  | last :: others =>
    if last.1.endsBeforeSlash then branches
    else match others.span (!·.1.endsBeforeSlash) with
      | (_, []) => branches
      | (between, found :: more) => (found :: between ++ last :: more).reverse

/-- Add a branch behind those that are tried no later. -/
def addBranch (branch : Segment × RouteTree α) (branches : List (Segment × RouteTree α)) :
    List (Segment × RouteTree α) :=
  let rank := branch.1.rank
  branches.filter (·.1.rank < rank) ++
    slashLast (branches.filter (·.1.rank == rank) ++ [branch]) ++
    branches.filter (rank < ·.1.rank)

def single (method : String) (endpoint : Endpoint α) : List Segment → RouteTree α
  | [] => .node [(method, endpoint)] []
  | segment :: rest => .node [] [(segment, single method endpoint rest)]

mutual

def insert (method : String) (endpoint : Endpoint α) (segments : List Segment) :
    RouteTree α → RouteTree α
  | .node endpoints branches =>
    match segments with
    | [] => .node (setEndpoint method endpoint endpoints) branches
    | segment :: rest =>
      if branches.any (·.1 == segment) then
        .node endpoints (insertBranch method endpoint segment rest branches)
      else .node endpoints (addBranch (segment, single method endpoint rest) branches)

def insertBranch (method : String) (endpoint : Endpoint α) (segment : Segment)
    (segments : List Segment) : List (Segment × RouteTree α) → List (Segment × RouteTree α)
  | [] => []
  | (other, tree) :: rest =>
    if other == segment then (other, insert method endpoint segments tree) :: rest
    else (other, tree) :: insertBranch method endpoint segment segments rest

end

inductive Found (α : Type) where
  | route (endpoint : Endpoint α) (values : List Bytes)
  /-- Nothing; tells whether other methods lead somewhere. -/
  | nothing (otherMethods : Bool)

namespace Found

def orElse (first : Found α) (second : Found α) : Found α :=
  match first, second with
  | .route endpoint values, _ => .route endpoint values
  | .nothing _, .route endpoint values => .route endpoint values
  | .nothing left, .nothing right => .nothing (left || right)

end Found

def takeParam (tail : UInt8) (path : Bytes) : Option (Bytes × Bytes) :=
  let (value, after) := path.span (· != tail)
  if after.isEmpty && tail != slash then none else some (value, after)

/-- What a step takes from a path, if it can be taken: the value, and the rest of the path. -/
def take (path : Bytes) : Segment → Option (Option Bytes × Bytes)
  | .static b =>
    match path with
    | c :: rest => if b == c then some (none, rest) else none
    | [] => none
  | .expression tail pattern =>
    if path.isEmpty then none
    else match takeParam tail path with
      | some (value, after) =>
        if !value.isEmpty && ((Pattern.Regex.parse? pattern).map (·.finds (textOf value))).getD
            false then
          some (some value, after)
        else none
      | none => none
  | .param tail =>
    if path.isEmpty then none
    else match takeParam tail path with
      | some (value, after) =>
        if value.contains slash then none else some (some value, after)
      | none => none
  | .rest => some (some path, [])

def atEnd (method : String) (values : List Bytes) (path : Bytes) : RouteTree α → Found α
  | .node endpoints _ =>
    if !path.isEmpty then .nothing false
    else match endpoints.find? (·.1 == method) with
      | some (_, endpoint) => .route endpoint values.reverse
      | none => .nothing (!endpoints.isEmpty)

/-- Whether a branch is the last of its rank. -/
def isLastOfRank (segment : Segment) (rest : List (Segment × RouteTree α)) : Bool :=
  (rest.head?.map (·.1.rank != segment.rank)).getD true

mutual

/-- Route a path; the values of parameters so far are kept in reverse. -/
def find (method : String) (values : List Bytes) (path : Bytes) : RouteTree α → Found α
  | .node _ branches => findBranch method values path branches

/-- Route a path along branches.  After the last parameter of a kind the path is tried once more
with that parameter left empty. -/
def findBranch (method : String) (values : List Bytes) (path : Bytes) :
    List (Segment × RouteTree α) → Found α
  | [] => .nothing false
  | (segment, tree) :: rest =>
    let taken : Found α := match take path segment with
      | none => .nothing false
      | some (value, after) =>
        let values := value.toList ++ values
        (atEnd method values after tree).orElse (find method values after tree)
    let again : Found α :=
      if segment.isParam && !path.isEmpty && isLastOfRank segment rest then
        find method ([] :: values) path tree
      else .nothing false
    (taken.orElse again).orElse (findBranch method values path rest)

end

end RouteTree

end ShapeForge.Server
