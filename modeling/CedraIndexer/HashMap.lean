import CedraIndexer.Sdk

/-!
# `AHashMap` as an association list

The extractors use `ahash::AHashMap` for the in-batch reference mappings and for the per-key
current-state deltas. They only build maps with `new`, `from`, `insert` and `extend`, read them
with `get`, and hand the current-state maps on or drain them with `into_values`. A map here is the
list of its live entries, newest first, and carries the fact that no key occurs twice: a map built
by these operations cannot be anything else.

`insert` drops the old entry under the key and puts the new one first. A Rust map has no order, so
nothing proved below depends on where an entry sits: only on which value a key reads back.
-/

namespace CedraIndexer

/-- An `AHashMap`: its live entries, one per key. -/
structure AHashMap (K V : Type) where
  entries : List (K × V)
  nodup : (entries.map Prod.fst).Nodup

namespace AHashMap

variable {K V : Type} [DecidableEq K]

/-- `AHashMap::new()`. -/
def empty : AHashMap K V := ⟨[], List.nodup_nil⟩

/-- `map.get(&k).cloned()`. -/
def get? (m : AHashMap K V) (k : K) : Option V :=
  (m.entries.find? fun e => e.1 = k).map Prod.snd

private theorem nodup_insert (m : AHashMap K V) (k : K) (v : V) :
    (((k, v) :: m.entries.filter fun e => e.1 ≠ k).map Prod.fst).Nodup := by
  refine List.nodup_cons.mpr ⟨?_, ((List.filter_sublist m.entries).map Prod.fst).nodup m.nodup⟩
  simp

/-- `map.insert(k, v)`: the value replaces whatever the key held. -/
def insert (m : AHashMap K V) (k : K) (v : V) : AHashMap K V :=
  ⟨(k, v) :: m.entries.filter fun e => e.1 ≠ k, nodup_insert m k v⟩

/-- `map.extend(other)`: every entry of `other` is inserted in turn. -/
def extend (m other : AHashMap K V) : AHashMap K V :=
  other.entries.foldr (fun e acc => acc.insert e.1 e.2) m

/-- `AHashMap::from([(k, v)])`. -/
def singleton (k : K) (v : V) : AHashMap K V := (empty : AHashMap K V).insert k v

/-- `map.into_values().collect()`, in the model's order. -/
def values (m : AHashMap K V) : List V := m.entries.map Prod.snd

/-- `map.contains_key(&k)`. -/
def contains (m : AHashMap K V) (k : K) : Bool := (m.get? k).isSome

@[simp] theorem get?_empty (k : K) : (empty : AHashMap K V).get? k = none := rfl

private theorem find?_filter_ne (l : List (K × V)) {k k' : K} (h : k' ≠ k) :
    (l.filter fun e => e.1 ≠ k).find? (fun e => e.1 = k') = l.find? fun e => e.1 = k' := by
  rw [List.find?_filter]
  congr
  funext e
  by_cases he : e.1 = k' <;> simp [he, h]

@[simp] theorem get?_insert (m : AHashMap K V) (k k' : K) (v : V) :
    (m.insert k v).get? k' = if k = k' then some v else m.get? k' := by
  by_cases h : k = k'
  · simp [insert, get?, h]
  · have hne : ¬decide ((k, v).1 = k') = true := by simpa using h
    simp only [insert, get?, if_neg h]
    rw [List.find?_cons_of_neg (p := fun e : K × V => decide (e.1 = k')) _ hne,
      find?_filter_ne _ (Ne.symm h)]

@[simp] theorem get?_singleton (k k' : K) (v : V) :
    (singleton k v).get? k' = if k = k' then some v else none := by
  simp [singleton]

private theorem get?_foldr_insert (m : AHashMap K V) (es : List (K × V)) (k : K) :
    (es.foldr (fun e acc => acc.insert e.1 e.2) m).get? k =
      ((es.find? fun e => e.1 = k).map Prod.snd).or (m.get? k) := by
  induction es with
  | nil => rfl
  | cons e es ih =>
    rw [List.foldr_cons, get?_insert, List.find?_cons]
    by_cases h : e.1 = k <;> simp [h, ih]

@[simp] theorem get?_extend (m other : AHashMap K V) (k : K) :
    (m.extend other).get? k = (other.get? k).or (m.get? k) :=
  get?_foldr_insert m other.entries k

/-- `if let Some(map) = maybe_map { m.extend(map) }`: a lookup finds the optional map's entry, else
the one before. -/
@[simp] theorem get?_getD_map_extend (m : AHashMap K V) (map : Option (AHashMap K V)) (k : K) :
    ((map.map m.extend).getD m).get? k = (map.bind (·.get? k)).or (m.get? k) := by
  cases map <;> simp

/-- Entries whose value determines its own key, as every current-state map's do. -/
def KeyedBy (key : V → K) (m : AHashMap K V) : Prop := ∀ e ∈ m.entries, key e.2 = e.1

omit [DecidableEq K] in
theorem keyedBy_empty (key : V → K) : (empty : AHashMap K V).KeyedBy key := by
  simp [KeyedBy, empty]

theorem KeyedBy.insert {key : V → K} {m : AHashMap K V} (hm : m.KeyedBy key) (v : V) :
    (m.insert (key v) v).KeyedBy key := by
  intro e he
  simp only [AHashMap.insert, List.mem_cons, List.mem_filter] at he
  rcases he with rfl | ⟨he, -⟩
  · rfl
  · exact hm e he

/-- The row `rows` leave under `k` when each overwrites its own key: the last one with key `k`. -/
def lastWrite (key : V → K) (rows : List V) (k : K) : Option V :=
  rows.reverse.find? fun r => key r = k

/-- A current-state map built from `rows`: each key holds the last row with that key, each row
sits under its own key, and no other key is present. -/
def LastWriteWins (key : V → K) (rows : List V) (m : AHashMap K V) : Prop :=
  m.KeyedBy key ∧ ∀ k, m.get? k = lastWrite key rows k

@[simp] theorem lastWrite_nil (key : V → K) (k : K) : lastWrite key [] k = none := rfl

theorem lastWrite_append_single (key : V → K) (rows : List V) (r : V) (k : K) :
    lastWrite key (rows ++ [r]) k = if key r = k then some r else lastWrite key rows k := by
  by_cases h : key r = k <;> simp [lastWrite, h]

/-- Inserting the rows in order, each under its own key, reads back the last write. -/
theorem get?_foldl_insert (key : V → K) (rows : List V) (m : AHashMap K V) (k : K) :
    (rows.foldl (fun m r => m.insert (key r) r) m).get? k =
      (lastWrite key rows k).or (m.get? k) := by
  induction rows using List.reverseRecOn generalizing m with
  | nil => rfl
  | append_singleton rows r ih =>
    rw [List.foldl_append, List.foldl_cons, List.foldl_nil, get?_insert,
      lastWrite_append_single, ih]
    split <;> rfl

theorem KeyedBy.foldl_insert {key : V → K} {m : AHashMap K V} (hm : m.KeyedBy key)
    (rows : List V) :
    (rows.foldl (fun m r => m.insert (key r) r) m).KeyedBy key := by
  induction rows generalizing m with
  | nil => exact hm
  | cons r rows ih => exact ih (hm.insert r)

/-- The map of a reducer that inserts each row under its key is last-write-wins. -/
theorem lastWriteWins_foldl_insert (key : V → K) (rows : List V) :
    LastWriteWins key rows (rows.foldl (fun m r => m.insert (key r) r) empty) :=
  ⟨(keyedBy_empty key).foldl_insert rows, fun k => by simp [get?_foldl_insert]⟩

end AHashMap

/-- `AHashSet`: the keys of a map to `()`. -/
abbrev AHashSet (K : Type) := AHashMap K Unit

/-- `set.insert(k)`. -/
def AHashSet.insert {K : Type} [DecidableEq K] (s : AHashSet K) (k : K) : AHashSet K :=
  AHashMap.insert s k ()

@[simp] theorem AHashSet.contains_insert {K : Type} [DecidableEq K] (s : AHashSet K) (k k' : K) :
    (s.insert k).contains k' = true ↔ k = k' ∨ s.contains k' = true := by
  by_cases h : k = k' <;> simp [AHashSet.insert, AHashMap.contains, h]

@[simp] theorem AHashSet.contains_empty {K : Type} [DecidableEq K] (k : K) :
    (AHashMap.empty : AHashSet K).contains k = false :=
  rfl

/-- A loop inserting `f x` for each `x`: the set gains exactly those keys. -/
theorem AHashSet.contains_foldl_insert {K α : Type} [DecidableEq K] (f : α → K) (xs : List α)
    (s : AHashSet K) (k : K) :
    (xs.foldl (fun acc x => acc.insert (f x)) s).contains k = true ↔
      (∃ x ∈ xs, f x = k) ∨ s.contains k = true := by
  induction xs generalizing s with
  | nil => simp
  | cons x xs ih =>
    rw [List.foldl_cons, ih, AHashSet.contains_insert]
    simp only [List.mem_cons, exists_eq_or_imp]
    rw [or_left_comm, ← or_assoc]

end CedraIndexer
