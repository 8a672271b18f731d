import ShapeForge.Fault
import ShapeForge.Text.Casing

/-!
# Listings

Long lists are answered page by page, or as the sizes of groups.
-/

namespace ShapeForge.Listing

structure Limits where
  usual : Nat := 100
  greatest : Nat := 1000
  deriving Repr, DecidableEq

/-- The items from an offset on, as many as a page may have.  There is no page outside the
list. -/
def page? {α : Type} (limits : Limits) (items : List α) (offset limit : Int) :
    Option (List α) :=
  if offset < 0 || (items.length : Int) ≤ offset then none
  else
    let length := if limit ≤ 0 then limits.usual else limit.toNat
    some ((items.drop offset.toNat).take (min length limits.greatest))

structure Group where
  key : String
  count : Nat
  deriving Repr, DecidableEq, Inhabited

def addKey (key : String) : List Group → List Group
  | [] => [{ key, count := 1 }]
  | group :: rest =>
    if group.key == key then { group with count := group.count + 1 } :: rest
    else group :: addKey key rest

/-- Larger groups come first, and of equal ones that with the smaller key. -/
def Group.before (left right : Group) : Bool :=
  if left.count == right.count then left.key ≤ right.key else right.count < left.count

def groups (keys : List String) : List Group :=
  (keys.foldl (fun groups key => addKey key groups) []).mergeSort Group.before

def countBy {α : Type} (items : List α) (key : α → String) : List Group :=
  groups (items.map key)

/-- Whether items can be grouped as asked for; nothing asks for no groups. -/
def checkGroupBy (asked : String) (allowed : List String) : Except Fault Unit :=
  if asked.isEmpty || allowed.any (Text.equalFold · asked) then .ok ()
  else .error (.plain
    ("invalid group_by value " ++ Text.quote asked ++ "; valid values: " ++
      ", ".intercalate allowed))

end ShapeForge.Listing
