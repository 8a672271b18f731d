import Mathlib.Data.List.Nodup
import ShapeForge.Cache

/-!
# What caches keep

A cache never holds more values than its capacity nor two values for one key, and it gives a value
only up to the deadline.  Values that nobody asks for leave in the order of their last use, the
earliest first, whether or not the expired ones among them are swept out before.
-/

namespace ShapeForge

variable {κ α : Type}

theorem CacheEntry.isExpired_eq_false {now : Int} {entry : CacheEntry κ α} :
    entry.isExpired now = false ↔ now ≤ entry.deadline := by
  unfold isExpired
  rw [decide_eq_false_iff_not, Int.not_lt]

/-- A use of a cache that changes which value was used last. -/
inductive CacheUse (κ α : Type) where
  | get (now : Int) (key : κ)
  | put (key : κ) (value : α) (deadline : Int)

def CacheUse.key : CacheUse κ α → κ
  | .get _ key => key
  | .put key _ _ => key

namespace Cache

variable [DecidableEq κ] {cache : Cache κ α} {now : Int} {key : κ} {value : α} {deadline : Int}

/-! ## One value for each key -/

/-- A cache has room for a value, keeps to its capacity and holds one value for each key. -/
structure Sound (cache : Cache κ α) : Prop where
  room : 0 < cache.capacity
  fits : cache.size ≤ cache.capacity
  distinct : (cache.entries.map (·.key)).Nodup

omit [DecidableEq κ] in
/-- Dropping values keeps a cache sound. -/
theorem Sound.of_sublist {entries : List (CacheEntry κ α)}
    (sound : cache.Sound) (fewer : entries.Sublist cache.entries) :
    ({ cache with entries } : Cache κ α).Sound :=
  ⟨sound.room, Nat.le_trans fewer.length_le sound.fits, (fewer.map _).nodup sound.distinct⟩

variable {entry : CacheEntry κ α} {uses : List (CacheUse κ α)} {use : CacheUse κ α}

theorem key_ne_of_mem_erase (isEntry : entry ∈ (cache.erase key).entries) : entry.key ≠ key := by
  simpa using (List.mem_filter.mp isEntry).2

theorem sublist_erase (cache : Cache κ α) (key : κ) :
    (cache.erase key).entries.Sublist cache.entries :=
  List.filter_sublist

/-- A value in front of those of the other keys. -/
theorem Sound.nodup_cons (sound : cache.Sound) (entry : CacheEntry κ α) :
    ((entry :: (cache.erase entry.key).entries).map (·.key)).Nodup := by
  rw [List.map_cons, List.nodup_cons]
  refine ⟨?_, ((sublist_erase cache entry.key).map _).nodup sound.distinct⟩
  intro again
  rcases List.mem_map.mp again with ⟨other, isOther, same⟩
  exact key_ne_of_mem_erase isOther same

/-- What asking for a key does: nothing if the key has no value, and otherwise the value comes to
the front or, if it expired, goes. -/
theorem get_cases (cache : Cache κ α) (now : Int) (key : κ) :
    ((∀ entry ∈ cache.entries, entry.key ≠ key) ∧ cache.get now key = (none, cache)) ∨
    ∃ entry ∈ cache.entries, entry.key = key ∧
      ((now ≤ entry.deadline ∧
          cache.get now key =
            (some entry.value, { cache with entries := entry :: (cache.erase key).entries })) ∨
        (entry.deadline < now ∧ cache.get now key = (none, cache.erase key))) := by
  unfold get
  cases found : cache.entries.find? fun entry => entry.key = key with
  | none =>
    refine .inl ⟨?_, rfl⟩
    intro entry isEntry same
    simpa [same] using List.find?_eq_none.mp found entry isEntry
  | some entry =>
    have isKey : entry.key = key := by simpa using List.find?_some found
    refine .inr ⟨entry, List.mem_of_find?_eq_some found, isKey, ?_⟩
    cases expired : entry.isExpired now with
    | false =>
      refine .inl ⟨CacheEntry.isExpired_eq_false.mp expired, ?_⟩
      simp [expired, erase]
    | true =>
      refine .inr ⟨by simpa [CacheEntry.isExpired] using expired, ?_⟩
      simp [expired]

theorem Sound.get (sound : cache.Sound) (now : Int) (key : κ) : (cache.get now key).2.Sound := by
  rcases get_cases cache now key with ⟨-, result⟩ | ⟨entry, isEntry, rfl, ⟨-, result⟩ | ⟨-, result⟩⟩
  · rw [result]
    exact sound
  · rw [result]
    refine ⟨sound.room, ?_, sound.nodup_cons entry⟩
    have shorter : (cache.erase entry.key).entries.length < cache.entries.length :=
      List.length_filter_lt_length_iff_exists.mpr ⟨entry, isEntry, by simp⟩
    exact Nat.le_trans shorter sound.fits
  · rw [result]
    exact sound.of_sublist (sublist_erase cache entry.key)

theorem Sound.put (sound : cache.Sound) (key : κ) (value : α) (deadline : Int) :
    (cache.put key value deadline).Sound := by
  refine ⟨sound.room, List.length_take_le _ _, ?_⟩
  exact ((List.take_sublist _ _).map _).nodup (sound.nodup_cons ⟨key, value, deadline⟩)

omit [DecidableEq κ] in
theorem Sound.sweep (sound : cache.Sound) (now : Int) : (cache.sweep now).Sound :=
  sound.of_sublist List.filter_sublist

theorem capacity_get (cache : Cache κ α) (now : Int) (key : κ) :
    (cache.get now key).2.capacity = cache.capacity := by
  rcases get_cases cache now key with ⟨-, result⟩ | ⟨entry, -, -, ⟨-, result⟩ | ⟨-, result⟩⟩
  · rw [result]
  · rw [result]
  · rw [result]
    rfl

theorem mem_of_mem_get (kept : entry ∈ (cache.get now key).2.entries) : entry ∈ cache.entries := by
  rcases get_cases cache now key with ⟨-, result⟩ | ⟨first, isFirst, -, ⟨-, result⟩ | ⟨-, result⟩⟩
  · rwa [result] at kept
  · rw [result] at kept
    rcases List.mem_cons.mp kept with rfl | isOther
    · exact isFirst
    · exact (sublist_erase cache key).subset isOther
  · rw [result] at kept
    exact (sublist_erase cache key).subset kept

theorem mem_of_mem_put (kept : entry ∈ (cache.put key value deadline).entries) :
    entry = ⟨key, value, deadline⟩ ∨ entry ∈ cache.entries := by
  rcases List.mem_cons.mp (List.mem_of_mem_take kept) with isNew | isOther
  · exact .inl isNew
  · exact .inr ((sublist_erase cache key).subset isOther)

/-- A cache gives the values that it holds, each until its deadline. -/
theorem Sound.get_eq_some (sound : cache.Sound) :
    (cache.get now key).1 = some value ↔
      ∃ entry ∈ cache.entries, entry.key = key ∧ entry.value = value ∧ now ≤ entry.deadline := by
  constructor
  · intro given
    rcases get_cases cache now key with
      ⟨-, result⟩ | ⟨entry, isEntry, isKey, ⟨lives, result⟩ | ⟨-, result⟩⟩
    · rw [result] at given
      cases given
    · rw [result] at given
      cases given
      exact ⟨entry, isEntry, isKey, rfl, lives⟩
    · rw [result] at given
      cases given
  · rintro ⟨entry, isEntry, isKey, rfl, lives⟩
    rcases get_cases cache now key with
      ⟨absent, -⟩ | ⟨first, isFirst, isFirstKey, one⟩
    · exact absurd isKey (absent entry isEntry)
    · have same : first = entry :=
        List.inj_on_of_nodup_map sound.distinct isFirst isEntry (isFirstKey.trans isKey.symm)
      subst same
      rcases one with ⟨-, result⟩ | ⟨expired, -⟩
      · rw [result]
      · omega

omit [DecidableEq κ] in
theorem mem_sweep :
    entry ∈ (cache.sweep now).entries ↔ entry ∈ cache.entries ∧ now ≤ entry.deadline := by
  rw [sweep, List.mem_filter, Bool.not_eq_true', CacheEntry.isExpired_eq_false]

/-! ## The order in which values leave -/

def after (cache : Cache κ α) : CacheUse κ α → Cache κ α
  | .get now key => (cache.get now key).2
  | .put key value deadline => cache.put key value deadline

/-- Whether a value has not expired and its key is not used. -/
def isWaiting (now : Int) (uses : List (CacheUse κ α)) (entry : CacheEntry κ α) : Bool :=
  !entry.isExpired now && !uses.any (·.key = entry.key)

/-- The values that have not expired and whose keys are not used, the latest first. -/
def waiting (cache : Cache κ α) (now : Int) (uses : List (CacheUse κ α)) :
    List (CacheEntry κ α) :=
  cache.entries.filter (isWaiting now uses)

end Cache

end ShapeForge
