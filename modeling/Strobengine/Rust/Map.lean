import Mathlib.Data.List.AList

/-!
# Hash maps

A hash map is an association list without duplicate keys, in an order that the code may
not rely on.
-/

namespace Strobengine.Rust

universe u v

/-- `HashMap<Key, Value>`. -/
abbrev HashMap (Key : Type u) (Value : Type v) :=
  AList (fun _ : Key => Value)

namespace HashMap

variable {Key : Type u} {Value : Type v}

def toPairs (table : HashMap Key Value) : List (Key × Value) :=
  table.entries.map (fun entry => (entry.1, entry.2))

def mapValues (change : Value → Value) (table : HashMap Key Value) : HashMap Key Value :=
  ⟨table.entries.map (Sigma.map id (fun _ => change)),
    List.NodupKeys.map₂ (fun _ => change) table.entries table.nodupKeys⟩

theorem toPairs_keys (table : HashMap Key Value) : table.toPairs.map Prod.fst = table.keys := by
  simp [toPairs, AList.keys, List.keys]

variable [DecidableEq Key]

/-- `*entry(key).or_insert(initial)`, changed in place. -/
def entryOr (key : Key) (initial : Value) (change : Value → Value)
    (table : HashMap Key Value) : HashMap Key Value :=
  table.insert key (change ((table.lookup key).getD initial))

/-- `get_mut(key)`, changed in place when the key is present. -/
def modify (key : Key) (change : Value → Value) (table : HashMap Key Value) : HashMap Key Value :=
  match table.lookup key with
  | none => table
  | some value => table.insert key (change value)

theorem mem_toPairs_iff (table : HashMap Key Value) (key : Key) (value : Value) :
    (key, value) ∈ table.toPairs ↔ table.lookup key = some value := by
  rw [← Option.mem_def, AList.mem_lookup_iff]
  simp [toPairs]

theorem lookup_mapValues (change : Value → Value) (table : HashMap Key Value) (key : Key) :
    (table.mapValues change).lookup key = (table.lookup key).map change :=
  List.dlookup_map₂ key

theorem lookup_modify (key other : Key) (change : Value → Value) (table : HashMap Key Value) :
    (table.modify key change).lookup other =
      if other = key then (table.lookup key).map change else table.lookup other := by
  unfold modify
  by_cases same : other = key
  · subst same
    rw [if_pos rfl]
    cases found : table.lookup other with
    | none => simp [found]
    | some => simp
  · rw [if_neg same]
    cases table.lookup key with
    | none => rfl
    | some => simp [AList.lookup_insert_ne same]

end HashMap

end Strobengine.Rust
