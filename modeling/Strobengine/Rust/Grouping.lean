import Strobengine.Rust.Map
import Mathlib.Algebra.BigOperators.Group.List.Basic
import Mathlib.Data.List.Induction
import Mathlib.Data.List.Sort

/-!
# Grouping items in a hash map

A list of items is folded into a hash map that keeps one accumulator per key.
-/

namespace Strobengine.Rust.HashMap

universe u v w x

variable {Key : Type u} {Value : Type v}

section Sum

variable {Total : Type w} [AddCommMonoid Total]

def sumValues (size : Value → Total) (table : HashMap Key Value) : Total :=
  (table.toPairs.map (fun entry => size entry.2)).sum

variable [DecidableEq Key]

/-- The value of a key, or an initial value of size zero, can be split off the sum. -/
theorem sumValues_eq_add_erase (size : Value → Total) {initial : Value} (empty : size initial = 0)
    (key : Key) (table : HashMap Key Value) :
    table.sumValues size =
      size ((table.lookup key).getD initial) + sumValues size (table.erase key) := by
  unfold sumValues toPairs
  rw [List.map_map, List.map_map]
  change _ = _ + ((table.entries.kerase key).map _).sum
  by_cases present : key ∈ table.entries.keys
  · obtain ⟨value, before, after, fresh, split, erased⟩ := List.exists_of_kerase present
    have found : table.lookup key = some value := by
      rw [← Option.mem_def, AList.mem_lookup_iff, split]
      simp
    rw [found, split, ← split, erased, split]
    simp [add_left_comm]
  · have missing : table.lookup key = none := AList.lookup_eq_none.mpr present
    rw [missing, List.kerase_of_notMem_keys present, Option.getD_none, empty, zero_add]

theorem sumValues_entryOr
    (size : Value → Total) {weight : Total} {initial : Value} {change : Value → Value}
    {key : Key} {table : HashMap Key Value} (empty : size initial = 0)
    (added :
      size (change ((table.lookup key).getD initial)) =
        size ((table.lookup key).getD initial) + weight) :
    (table.entryOr key initial change).sumValues size = table.sumValues size + weight := by
  have inserted :
      (table.entryOr key initial change).sumValues size =
        size (change ((table.lookup key).getD initial)) + sumValues size (table.erase key) := by
    unfold sumValues toPairs entryOr
    rw [AList.entries_insert, List.map_cons, List.map_cons, List.sum_cons]
    rfl
  rw [inserted, added, sumValues_eq_add_erase size empty key table, add_right_comm]

omit [AddCommMonoid Total] in
theorem filter_toPairs (table : HashMap Key Total) (key : Key) :
    (table.toPairs.filter (fun entry => entry.1 = key)).map Prod.snd =
      (table.lookup key).toList := by
  have all :
      ∀ entries : List (Sigma (fun _ : Key => Total)),
        ((entries.map (fun entry => (entry.1, entry.2))).filter
          (fun entry => entry.1 = key)).map Prod.snd = entries.lookupAll key := by
    intro entries
    induction entries with
    | nil => rfl
    | cons entry rest ih =>
      by_cases same : entry.1 = key
      · obtain ⟨_, value⟩ := entry
        subst same
        simpa using ih
      · simpa [same, Ne.symm same] using ih
  rw [toPairs, all, List.lookupAll_eq_dlookup key table.nodupKeys]
  rfl

theorem sum_filter_toPairs (table : HashMap Key Total) (key : Key) :
    ((table.toPairs.filter (fun entry => entry.1 = key)).map Prod.snd).sum =
      (table.lookup key).getD 0 := by
  rw [filter_toPairs]
  cases table.lookup key with
  | none => rfl
  | some => exact List.sum_singleton

end Sum

section Group

variable [DecidableEq Key] {Item : Type w}
  (key : Item → Option Key) (initial : Value) (merge : Value → Item → Value)

theorem lookup_entryOr (key other : Key) (initial : Value) (change : Value → Value)
    (table : HashMap Key Value) :
    (table.entryOr key initial change).lookup other =
      if other = key then
        some (change ((table.lookup key).getD initial))
      else
        table.lookup other := by
  unfold entryOr
  split
  · rename_i same
    rw [same, AList.lookup_insert]
  · rename_i different
    exact AList.lookup_insert_ne different

theorem getD_lookup_foldl_entryOr [AddMonoid Value] (key : Item → Key) (weight : Item → Value)
    (wanted : Key) (items : List Item) (table : HashMap Key Value) :
    ((items.foldl (fun table item => table.entryOr (key item) 0 (fun value => value + weight item))
        table).lookup wanted).getD 0 =
      (table.lookup wanted).getD 0 +
        ((items.filter (fun item => key item = wanted)).map weight).sum := by
  induction items generalizing table with
  | nil => simp
  | cons item rest ih =>
    rw [List.foldl_cons, ih, lookup_entryOr]
    by_cases same : key item = wanted
    · subst same
      simp [add_assoc]
    · simp [same, Ne.symm same]

theorem mem_foldl_entryOr (key : Item → Key) (change : Item → Value → Value) (wanted : Key)
    (items : List Item) (table : HashMap Key Value) :
    wanted ∈ items.foldl (fun table item => table.entryOr (key item) initial (change item)) table ↔
      wanted ∈ table ∨ wanted ∈ items.map key := by
  induction items generalizing table with
  | nil => simp
  | cons item rest ih =>
    rw [List.foldl_cons, ih, entryOr, AList.mem_insert, List.map_cons, List.mem_cons]
    tauto

/-- Fold an item into the accumulator of its key; an item without a key is skipped. -/
def collect (table : HashMap Key Value) (item : Item) : HashMap Key Value :=
  match key item with
  | none => table
  | some group => table.entryOr group initial (fun value => merge value item)

def members (group : Key) (items : List Item) : List Item :=
  items.filter (fun item => key item = some group)

/-- The accumulator of a group is the fold over its members; a group without members has
none. -/
def accumulated (group : Key) (items : List Item) : Option Value :=
  if members key group items = [] then
    none
  else
    some ((members key group items).foldl merge initial)

theorem getD_accumulated (group : Key) (items : List Item) :
    (accumulated key initial merge group items).getD initial =
      (members key group items).foldl merge initial := by
  unfold accumulated
  split
  · rename_i none
    rw [none]
    rfl
  · rfl

theorem accumulated_concat (group : Key) (items : List Item) (item : Item) :
    accumulated key initial merge group (items ++ [item]) =
      if key item = some group then
        some (merge ((members key group items).foldl merge initial) item)
      else
        accumulated key initial merge group items := by
  unfold accumulated members
  rw [List.filter_append]
  by_cases same : key item = some group
  · simp [same]
  · simp [same]

theorem lookup_foldl_collect (group : Key) (items : List Item) :
    (items.foldl (collect key initial merge) ∅).lookup group =
      accumulated key initial merge group items := by
  induction items using List.reverseRecOn with
  | nil => rfl
  | append_singleton items item ih =>
    rw [List.foldl_concat, accumulated_concat]
    cases keyed : key item with
    | none =>
      simp only [collect, keyed]
      rw [ih, if_neg (by simp)]
    | some other =>
      simp only [collect, keyed]
      rw [lookup_entryOr]
      by_cases same : group = other
      · subst same
        rw [if_pos rfl, if_pos rfl, ih, getD_accumulated]
      · rw [if_neg same, if_neg (by simpa using Ne.symm same), ih]

/-- Grouping conserves every quantity that items add to: the accumulators together hold
the weights of exactly the items that have a key. `Valid` is what the additivity of
`merge` may rely on. -/
theorem sumValues_foldl_collect {Total : Type x} [AddCommMonoid Total]
    (size : Value → Total) (weight : Item → Total) (Valid : Value → Prop)
    (empty : size initial = 0) (valid : Valid initial)
    (kept : ∀ value item, Valid value → Valid (merge value item))
    (added : ∀ value item, Valid value → size (merge value item) = size value + weight item)
    (items : List Item) :
    (items.foldl (collect key initial merge) ∅).sumValues size =
      ((items.filter (fun item => (key item).isSome)).map weight).sum := by
  induction items using List.reverseRecOn with
  | nil => rfl
  | append_singleton items item ih =>
    rw [List.foldl_concat, List.filter_append]
    cases keyed : key item with
    | none =>
      simp only [collect, keyed]
      rw [ih]
      simp [keyed]
    | some group =>
      have holds :
          Valid
            (((items.foldl (collect key initial merge) ∅).lookup group).getD
              initial) := by
        rw [lookup_foldl_collect, getD_accumulated]
        generalize members key group items = members
        induction members using List.reverseRecOn with
        | nil => exact valid
        | append_singleton before last earlier =>
          rw [List.foldl_concat]
          exact kept _ last earlier
      simp only [collect, keyed]
      rw [sumValues_entryOr size empty (added _ item holds), ih]
      simp [keyed]

theorem flatMap_members_perm {groups : List Key} (distinct : groups.Nodup) (items : List Item) :
    (groups.flatMap (fun group => members key group items)).Perm
      (items.filter (fun item => (key item).any (fun group => group ∈ groups))) := by
  induction groups with
  | nil => simp
  | cons group rest ih =>
    obtain ⟨fresh, distinctRest⟩ := List.nodup_cons.mp distinct
    -- the items of the first group apart from the others
    have parted :=
      List.filter_append_perm (fun item => decide (key item = some group))
        (items.filter (fun item => (key item).any (fun other => other ∈ group :: rest)))
    have first :
        (items.filter (fun item => (key item).any (fun other => other ∈ group :: rest))).filter
            (fun item => decide (key item = some group)) =
          members key group items := by
      rw [List.filter_filter]
      apply List.filter_congr
      intro item _
      by_cases same : key item = some group
      · simp [same]
      · simp [same]
    have others :
        (items.filter (fun item => (key item).any (fun other => other ∈ group :: rest))).filter
            (fun item => !decide (key item = some group)) =
          items.filter (fun item => (key item).any (fun other => other ∈ rest)) := by
      rw [List.filter_filter]
      apply List.filter_congr
      intro item _
      cases keyed : key item with
      | none => simp
      | some other =>
        by_cases same : other = group
        · subst same
          simp [fresh]
        · simp [same]
    rw [first, others] at parted
    rw [List.flatMap_cons]
    exact ((ih distinctRest).append_left _).trans parted

end Group

section Agree

variable [DecidableEq Key] {Entry : Type w}

theorem map_toPairs_eq_filterMap (table : HashMap Key Value) (entry : Key → Value → Entry) :
    table.toPairs.map (fun pair => entry pair.1 pair.2) =
      table.keys.filterMap (fun key => (table.lookup key).map (entry key)) := by
  rw [← toPairs_keys, List.filterMap_map]
  rw [← List.filterMap_eq_map]
  apply List.filterMap_congr
  intro pair member
  have found : table.lookup pair.1 = some pair.2 := (mem_toPairs_iff table pair.1 pair.2).mp member
  simp [found]

/-- Maps whose values look the same through some view have the same entries under that
view, up to their order. -/
theorem map_toPairs_perm {first second : HashMap Key Value} {view other : Key → Value → Entry}
    (same : ∀ key, (first.lookup key).map (view key) = (second.lookup key).map (other key)) :
    (first.toPairs.map (fun pair => view pair.1 pair.2)).Perm
      (second.toPairs.map (fun pair => other pair.1 pair.2)) := by
  have keys : first.keys.Perm second.keys := by
    apply (List.perm_ext_iff_of_nodup first.keys_nodup second.keys_nodup).mpr
    intro key
    rw [← AList.mem_keys, ← AList.mem_keys, ← AList.lookup_isSome, ← AList.lookup_isSome,
      ← Option.isSome_map (f := view key), same key, Option.isSome_map]
  rw [map_toPairs_eq_filterMap, map_toPairs_eq_filterMap]
  rw [List.filterMap_congr (fun key _ => same key)]
  exact keys.filterMap _

/-- If the order distinguishes entries of different keys, maps that look the same are
listed in the same order. -/
theorem insertionSort_toPairs_eq
    {first second : HashMap Key Value} {view other : Key → Value → Entry}
    (same : ∀ key, (first.lookup key).map (view key) = (second.lookup key).map (other key))
    {order : Entry → Entry → Prop} [DecidableRel order]
    (total : ∀ left right, order left right ∨ order right left)
    (trans : ∀ left middle right, order left middle → order middle right → order left right)
    (keyed :
      ∀ key value key' value',
        order (view key value) (view key' value') →
          order (view key' value') (view key value) → key = key') :
    (first.toPairs.map (fun pair => view pair.1 pair.2)).insertionSort order =
      (second.toPairs.map (fun pair => other pair.1 pair.2)).insertionSort order := by
  have : Std.Total order := ⟨total⟩
  have : IsTrans Entry order := ⟨trans⟩
  have perm := map_toPairs_perm same
  apply List.Perm.eq_of_pairwise
    (fun left right leftMember rightMember before after => ?_)
    (List.pairwise_insertionSort order _) (List.pairwise_insertionSort order _)
    ((List.perm_insertionSort order _).trans (perm.trans (List.perm_insertionSort order _).symm))
  rw [List.mem_insertionSort] at leftMember rightMember
  obtain ⟨pair, found, viewed⟩ := List.mem_map.mp leftMember
  obtain ⟨pair', found', viewed'⟩ := List.mem_map.mp (perm.mem_iff.mpr rightMember)
  subst viewed viewed'
  have keys := keyed _ _ _ _ before after
  have value := (mem_toPairs_iff first pair.1 pair.2).mp found
  have value' := (mem_toPairs_iff first pair'.1 pair'.2).mp found'
  rw [← keys, value, Option.some.injEq] at value'
  rw [keys, value']

end Agree

end Strobengine.Rust.HashMap
