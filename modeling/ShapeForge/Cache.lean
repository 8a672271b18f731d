/-!
# Caches

A cache keeps the values that were used last, up to its capacity, each until its deadline.  Values
stand in the order of their last use.
-/

namespace ShapeForge

structure CacheEntry (κ α : Type) where
  key : κ
  value : α
  deadline : Int
  deriving Repr

namespace CacheEntry

variable {κ α : Type}

def isExpired (now : Int) (entry : CacheEntry κ α) : Bool :=
  entry.deadline < now

end CacheEntry

/-- The values that were used last, the latest first. -/
structure Cache (κ α : Type) where
  capacity : Nat
  entries : List (CacheEntry κ α) := []
  deriving Repr

namespace Cache

def usualCapacity : Nat := 10

variable {κ α : Type}

def size (cache : Cache κ α) : Nat :=
  cache.entries.length

variable [DecidableEq κ]

def erase (cache : Cache κ α) (key : κ) : Cache κ α :=
  { cache with entries := cache.entries.filter fun entry => entry.key ≠ key }

/-- The value of a key, which becomes the one used last.  A value that expired is dropped. -/
def get (cache : Cache κ α) (now : Int) (key : κ) : Option α × Cache κ α :=
  match cache.entries.find? fun entry => entry.key = key with
  | none => (none, cache)
  | some entry =>
    let others := cache.erase key
    if entry.isExpired now then (none, others)
    else (some entry.value, { others with entries := entry :: others.entries })

/-- Put a value under a key.  If the cache is full, the value that was not used for longest goes. -/
def put (cache : Cache κ α) (key : κ) (value : α) (deadline : Int) : Cache κ α :=
  { cache with
    entries := ({ key, value, deadline } :: (cache.erase key).entries).take cache.capacity }

omit [DecidableEq κ] in
def sweep (cache : Cache κ α) (now : Int) : Cache κ α :=
  { cache with entries := cache.entries.filter fun entry => !entry.isExpired now }

omit [DecidableEq κ] in
def clear (cache : Cache κ α) : Cache κ α :=
  { cache with entries := [] }

end Cache

end ShapeForge
