import Mathlib.Algebra.BigOperators.Group.List.Basic
import Mathlib.Algebra.Ring.Nat

/-!
# Folds that do not depend on the order

A fold whose steps commute up to a relation gives related results for a list and its permutations.
-/

namespace Strobengine.Foundations

universe u v w x

variable {State : Type u} {Item : Type v}

/-- Steps that keep a relation and commute up to it. -/
structure Commuting (step : State → Item → State) (Related : State → State → Prop) : Prop where
  refl : ∀ state, Related state state
  trans : ∀ {first second third}, Related first second → Related second third → Related first third
  kept : ∀ {first second} item, Related first second → Related (step first item) (step second item)
  swapped :
    ∀ state left right, Related (step (step state left) right) (step (step state right) left)

namespace Commuting

variable {step : State → Item → State} {Related : State → State → Prop}

theorem of_eq
    (swapped : ∀ state left right, step (step state left) right = step (step state right) left) :
    Commuting step Eq where
  refl := fun _ => rfl
  trans := Eq.trans
  kept := fun item same => congrArg (fun state => step state item) same
  swapped := swapped

theorem of_selected (selected : Item → Bool) (refl : ∀ state, Related state state)
    (trans :
      ∀ {first second third}, Related first second → Related second third → Related first third)
    (skipped : ∀ state item, selected item = false → step state item = state)
    (kept :
      ∀ {first second} item, selected item = true → Related first second →
        Related (step first item) (step second item))
    (swapped :
      ∀ state left right, selected left = true → selected right = true →
        Related (step (step state left) right) (step (step state right) left)) :
    Commuting step Related where
  refl := refl
  trans := trans
  kept := by
    intro first second item related
    cases chosen : selected item with
    | true => exact kept item chosen related
    | false =>
      rw [skipped first item chosen, skipped second item chosen]
      exact related
  swapped := by
    intro state left right
    cases leftChosen : selected left with
    | true =>
      cases rightChosen : selected right with
      | true => exact swapped state left right leftChosen rightChosen
      | false =>
        rw [skipped state right rightChosen, skipped _ right rightChosen]
        exact refl _
    | false =>
      rw [skipped state left leftChosen, skipped _ left leftChosen]
      exact refl _

theorem foldl (commuting : Commuting step Related) (items : List Item) {first second : State}
    (related : Related first second) :
    Related (items.foldl step first) (items.foldl step second) := by
  induction items generalizing first second with
  | nil => exact related
  | cons item rest ih => exact ih (commuting.kept item related)

theorem foldl_perm (commuting : Commuting step Related) {first second : List Item}
    (perm : first.Perm second) (state : State) :
    Related (first.foldl step state) (second.foldl step state) := by
  induction perm generalizing state with
  | nil => exact commuting.refl state
  | cons item _ ih => exact ih (step state item)
  | swap left right rest => exact commuting.foldl rest (commuting.swapped state right left)
  | trans _ _ firstHypothesis secondHypothesis =>
    exact commuting.trans (firstHypothesis state) (secondHypothesis state)

end Commuting

/-- A part of the state that only the picked items change is folded by itself. -/
theorem foldl_part
    {Part : Type w} {Sample : Type x} {step : State → Item → State} {part : State → Part}
    {pick : Item → Option Sample} {record : Part → Sample → Part}
    (changed :
      ∀ state item, part (step state item) = (pick item).elim (part state) (record (part state)))
    (items : List Item) (state : State) :
    part (items.foldl step state) = (items.filterMap pick).foldl record (part state) := by
  induction items generalizing state with
  | nil => rfl
  | cons item rest ih =>
    rw [List.foldl_cons, ih, changed]
    cases picked : pick item with
    | none => rw [List.filterMap_cons_none picked, Option.elim_none]
    | some => rw [List.filterMap_cons_some picked, Option.elim_some, List.foldl_cons]

theorem foldl_add {step : State → Item → State} {size : State → Nat} {weight : Item → Nat}
    (added : ∀ state item, size (step state item) = size state + weight item)
    (items : List Item) (state : State) :
    size (items.foldl step state) = size state + (items.map weight).sum := by
  induction items generalizing state with
  | nil => simp
  | cons item rest ih =>
    rw [List.foldl_cons, ih, added, List.map_cons, List.sum_cons, Nat.add_assoc]

theorem foldl_invariant {step : State → Item → State} (Holds : State → Prop)
    (kept : ∀ state item, Holds state → Holds (step state item))
    (items : List Item) {state : State} (initially : Holds state) :
    Holds (items.foldl step state) := by
  induction items generalizing state with
  | nil => exact initially
  | cons item rest ih => exact ih (kept state item initially)

end Strobengine.Foundations
