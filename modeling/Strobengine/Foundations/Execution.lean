import Mathlib.Data.List.Basic

/-!
# Executions of a partial transition function

A system is given by a transition function `step : State → Action → Option State`; an action
that is not enabled in a state has no successor.
-/

namespace Strobengine.Foundations

universe u v

variable {State : Type u} {Action : Type v}

/-- Execute a list of actions. The result is `none` as soon as one action is not
enabled. -/
def execute (step : State → Action → Option State) : State → List Action → Option State
  | state, [] => some state
  | state, action :: rest =>
    match step state action with
    | some next => execute step next rest
    | none => none

/-- Every action of the list meets the guard in the state in which it is taken. -/
def Guarded (step : State → Action → Option State) (guard : State → Action → Prop) :
    State → List Action → Prop
  | _, [] => True
  | state, action :: rest =>
    guard state action ∧ ∀ next, step state action = some next → Guarded step guard next rest

def unguarded : State → Action → Prop :=
  fun _ _ => True

instance (state : State) (action : Action) : Decidable (unguarded state action) :=
  isTrue True.intro

/-- Some run whose steps all meet the guard leads from `source` to `target`. -/
def Reaches (step : State → Action → Option State) (guard : State → Action → Prop)
    (source target : State) : Prop :=
  ∃ actions, Guarded step guard source actions ∧ execute step source actions = some target

def executeChecked (step : State → Action → Option State) (guard : State → Action → Prop)
    [∀ state action, Decidable (guard state action)] :
    State → List Action → Option State
  | state, [] => some state
  | state, action :: rest =>
    if guard state action then
      match step state action with
      | some next => executeChecked step guard next rest
      | none => none
    else
      none

section Execute

variable {step : State → Action → Option State} {state : State}

theorem execute_cons_eq_some_iff {target : State} {action : Action} {rest : List Action} :
    execute step state (action :: rest) = some target ↔
      ∃ next, step state action = some next ∧ execute step next rest = some target := by
  rw [execute]
  cases step state action with
  | none | some => simp

theorem execute_cons_of_step {next : State} {action : Action} {rest : List Action}
    (taken : step state action = some next) :
    execute step state (action :: rest) = execute step next rest := by
  rw [execute, taken]

theorem execute_append (state : State) (first second : List Action) :
    execute step state (first ++ second) =
      (execute step state first).bind
        (fun middle => execute step middle second) := by
  induction first generalizing state with
  | nil => rfl
  | cons action rest ih =>
    rw [List.cons_append, execute, execute]
    cases step state action with
    | none => rfl
    | some next => exact ih next

/-- Erase the actions that `keep` rejects: if an erased action never leaves the
relation to the run without it, and every kept action is matched there, the run without
the erased actions exists and ends in a related state. -/
theorem execute_filter
    (Related : State → State → Prop) (keep : Action → Bool) {Expected : Action → Prop}
    (erased :
      ∀ state other action next,
        Related state other → Expected action → keep action = false →
          step state action = some next → Related next other)
    (matched :
      ∀ state other action next,
        Related state other → Expected action → keep action = true →
          step state action = some next →
            ∃ otherNext, step other action = some otherNext ∧ Related next otherNext)
    {other target : State} {actions : List Action} (related : Related state other)
    (expected : ∀ action ∈ actions, Expected action)
    (run : execute step state actions = some target) :
    ∃ otherTarget,
      execute step other (actions.filter keep) = some otherTarget ∧ Related target otherTarget := by
  induction actions generalizing state other with
  | nil =>
    cases run
    exact ⟨other, rfl, related⟩
  | cons action rest ih =>
    obtain ⟨next, taken, remaining⟩ := execute_cons_eq_some_iff.mp run
    have here := expected action List.mem_cons_self
    have later : ∀ action ∈ rest, Expected action :=
      fun action member => expected action (List.mem_cons_of_mem _ member)
    cases kept : keep action with
    | false =>
      rw [List.filter_cons_of_neg (by simp [kept])]
      exact ih (erased state other action next related here kept taken) later remaining
    | true =>
      obtain ⟨otherNext, otherTaken, nextRelated⟩ :=
        matched state other action next related here kept taken
      rw [List.filter_cons_of_pos (by simp [kept]), execute_cons_of_step otherTaken]
      exact ih nextRelated later remaining

end Execute

section Guards

variable {step : State → Action → Option State} {guard : State → Action → Prop}

theorem guarded_unguarded (state : State) (actions : List Action) :
    Guarded step unguarded state actions := by
  induction actions generalizing state with
  | nil => exact True.intro
  | cons action rest ih => exact ⟨True.intro, fun next _ => ih next⟩

variable {state : State}

theorem guarded_append {middle : State} {first second : List Action}
    (firstGuarded : Guarded step guard state first)
    (firstRun : execute step state first = some middle)
    (secondGuarded : Guarded step guard middle second) :
    Guarded step guard state (first ++ second) := by
  induction first generalizing state with
  | nil =>
    cases firstRun
    exact secondGuarded
  | cons action rest ih =>
    refine ⟨firstGuarded.1, ?_⟩
    intro next taken
    rw [execute_cons_of_step taken] at firstRun
    exact ih (firstGuarded.2 next taken) firstRun

variable {actions : List Action}

theorem guarded_mono {weaker : State → Action → Prop}
    (weaken : ∀ state action, guard state action → weaker state action)
    (guarded : Guarded step guard state actions) :
    Guarded step weaker state actions := by
  induction actions generalizing state with
  | nil => exact True.intro
  | cons action rest ih =>
    exact ⟨weaken state action guarded.1, fun next taken => ih (guarded.2 next taken)⟩

variable {target : State}

theorem executeChecked_eq_some [∀ state action, Decidable (guard state action)] {source : State}
    (run : executeChecked step guard source actions = some target) :
    Guarded step guard source actions ∧ execute step source actions = some target := by
  induction actions generalizing source with
  | nil => exact ⟨True.intro, run⟩
  | cons action rest ih =>
    rw [executeChecked] at run
    split at run
    · rename_i allowed
      cases taken : step source action with
      | none => simp [taken] at run
      | some =>
        rw [taken] at run
        obtain ⟨guarded, remaining⟩ := ih run
        refine ⟨⟨allowed, ?_⟩, ?_⟩
        · intro other otherTaken
          rw [taken] at otherTaken
          cases otherTaken
          exact guarded
        · rw [execute_cons_of_step taken]
          exact remaining
    · cases run

/-- A concrete guarded run ends in a state with a decidable property when its
evaluation says so. -/
theorem exists_run_of_executeChecked [∀ state action, Decidable (guard state action)]
    {property : State → Prop} [DecidablePred property] {source : State}
    (evaluated : (executeChecked step guard source actions).any
        (fun target => decide (property target)) = true) :
    ∃ target,
      Guarded step guard source actions ∧
        execute step source actions = some target ∧ property target := by
  cases run : executeChecked step guard source actions with
  | none => simp [run] at evaluated
  | some target =>
    rw [run] at evaluated
    obtain ⟨guarded, remaining⟩ := executeChecked_eq_some run
    exact ⟨target, guarded, remaining, of_decide_eq_true evaluated⟩

/-- The invariant rule: what holds initially and is kept by every step that meets
the guard holds at the end of every guarded run. -/
theorem invariant_of_guarded {Invariant : State → Prop}
    (preserved :
      ∀ state action next,
        Invariant state → guard state action → step state action = some next → Invariant next)
    (initially : Invariant state)
    (guarded : Guarded step guard state actions) (run : execute step state actions = some target) :
    Invariant target := by
  induction actions generalizing state with
  | nil =>
    cases run
    exact initially
  | cons action rest ih =>
    obtain ⟨next, taken, remaining⟩ := execute_cons_eq_some_iff.mp run
    exact
      ih
        (preserved state action next initially guarded.1 taken)
        (guarded.2 next taken) remaining

theorem invariant_of_execute (Invariant : State → Prop)
    (preserved :
      ∀ state action next, Invariant state → step state action = some next → Invariant next)
    (initially : Invariant state) (run : execute step state actions = some target) :
    Invariant target :=
  invariant_of_guarded
    (fun state action next holds _ taken =>
      preserved state action next holds taken)
    initially (guarded_unguarded state actions) run

/-- When no step raises a natural-number measure and the counted ones lower it, a run takes at most
as many of these as the measure falls by. -/
theorem countP_add_measure_le (Invariant : State → Prop) (measure : State → Nat)
    (counted : Action → Bool)
    (kept :
      ∀ state action next,
        Invariant state → step state action = some next →
          Invariant next ∧ (counted action).toNat + measure next ≤ measure state)
    (initially : Invariant state) (run : execute step state actions = some target) :
    Invariant target ∧ actions.countP counted + measure target ≤ measure state := by
  induction actions generalizing state with
  | nil =>
    cases run
    exact ⟨initially, Nat.le_of_eq (Nat.zero_add _)⟩
  | cons action rest ih =>
    obtain ⟨next, taken, remaining⟩ := execute_cons_eq_some_iff.mp run
    obtain ⟨holds, falls⟩ := kept state action next initially taken
    obtain ⟨still, bound⟩ := ih holds remaining
    refine ⟨still, ?_⟩
    rw [List.countP_cons]
    cases isCounted : counted action <;> simp [isCounted] at falls ⊢ <;> omega

end Guards

namespace Reaches

variable {step : State → Action → Option State} {guard : State → Action → Prop}

theorem refl (state : State) : Reaches step guard state state :=
  ⟨[], True.intro, rfl⟩

variable {state : State}

theorem single {next : State} (action : Action) (allowed : guard state action)
    (taken : step state action = some next) :
    Reaches step guard state next := by
  refine ⟨[action], ⟨allowed, fun _ _ => True.intro⟩, ?_⟩
  rw [execute_cons_of_step taken]
  rfl

variable {source target : State}

theorem trans {middle : State} (first : Reaches step guard source middle)
    (second : Reaches step guard middle target) :
    Reaches step guard source target := by
  obtain ⟨firstActions, firstGuarded, firstRun⟩ := first
  obtain ⟨secondActions, secondGuarded, secondRun⟩ := second
  refine ⟨firstActions ++ secondActions, guarded_append firstGuarded firstRun secondGuarded, ?_⟩
  rw [execute_append, firstRun]
  exact secondRun

theorem head {next : State} (action : Action) (allowed : guard state action)
    (taken : step state action = some next) (later : Reaches step guard next target) :
    Reaches step guard state target :=
  (single action allowed taken).trans later

theorem mono {weaker : State → Action → Prop}
    (weaken : ∀ state action, guard state action → weaker state action)
    (reached : Reaches step guard source target) :
    Reaches step weaker source target := by
  obtain ⟨actions, guarded, run⟩ := reached
  exact ⟨actions, guarded_mono weaken guarded, run⟩

theorem mono_of_invariant {weaker : State → Action → Prop} (Invariant : State → Prop)
    (kept :
      ∀ state action next,
        Invariant state → guard state action → step state action = some next →
          weaker state action ∧ Invariant next)
    (initially : Invariant source) (reached : Reaches step guard source target) :
    Reaches step weaker source target := by
  obtain ⟨actions, guarded, run⟩ := reached
  induction actions generalizing source with
  | nil => exact ⟨[], True.intro, run⟩
  | cons action rest ih =>
    obtain ⟨next, taken, remaining⟩ := execute_cons_eq_some_iff.mp run
    obtain ⟨allowed, holds⟩ := kept source action next initially guarded.1 taken
    exact head action allowed taken (ih holds (guarded.2 next taken) remaining)

section Checked

variable [∀ state action, Decidable (guard state action)] {conclusion : State → Prop}

theorem exists_of_executeChecked
    {property : State → Prop} [DecidablePred property] (actions : List Action)
    (evaluated : (executeChecked step guard source actions).any
        (fun target => decide (property target)) = true) :
    ∃ target, Reaches step guard source target ∧ property target := by
  obtain ⟨target, guarded, run, holds⟩ := exists_run_of_executeChecked evaluated
  exact ⟨target, ⟨actions, guarded, run⟩, holds⟩

theorem exists_imp_of_executeChecked (property : State → Prop) [DecidablePred property]
    (actions : List Action) (evaluated : (executeChecked step guard source actions).any
        (fun target => decide (property target)) = true)
    (conclude : ∀ target, Reaches step guard source target → property target → conclusion target) :
    ∃ target, Reaches step guard source target ∧ conclusion target := by
  obtain ⟨target, reached, holds⟩ := exists_of_executeChecked actions evaluated
  exact ⟨target, reached, conclude target reached holds⟩

theorem exists_and_of_executeChecked
    {property : State → Prop} [DecidablePred property] (actions : List Action)
    (evaluated : (executeChecked step guard source actions).any
        (fun target => decide (property target)) = true)
    (conclude : ∀ target, Reaches step guard source target → property target → conclusion target) :
    ∃ target, Reaches step guard source target ∧ property target ∧ conclusion target :=
  exists_imp_of_executeChecked property actions evaluated
    (fun target reached holds => ⟨holds, conclude target reached holds⟩)

theorem exists_and₂_of_executeChecked
    {first second : State → Prop} [DecidablePred first] [DecidablePred second]
    (actions : List Action) (evaluated : (executeChecked step guard source actions).any
        (fun target => decide (first target ∧ second target)) = true)
    (conclude : ∀ target,
      Reaches step guard source target → first target → second target → conclusion target) :
    ∃ target, Reaches step guard source target ∧ first target ∧ second target ∧
      conclusion target :=
  exists_imp_of_executeChecked _ actions evaluated
    (fun target reached holds => ⟨holds.1, holds.2, conclude target reached holds.1 holds.2⟩)

theorem not_forall_of_executeChecked (property : State → Prop) [DecidablePred property]
    (actions : List Action) (evaluated : (executeChecked step guard source actions).any
        (fun target => decide (property target)) = true)
    (refute : ∀ target, Reaches step guard source target → property target → ¬ conclusion target) :
    ¬ ∀ target, Reaches step guard source target → conclusion target := by
  intro all
  obtain ⟨target, reached, holds⟩ := exists_of_executeChecked actions evaluated
  exact refute target reached holds (all target reached)

end Checked

theorem invariant (Invariant : State → Prop)
    (preserved :
      ∀ state action next,
        Invariant state → guard state action → step state action = some next → Invariant next)
    (initially : Invariant source) (reached : Reaches step guard source target) :
    Invariant target := by
  obtain ⟨actions, guarded, run⟩ := reached
  exact invariant_of_guarded preserved initially guarded run

/-- A run can be completed when every state that is not final has an admissible
step that keeps the invariant and lowers a natural-number measure. -/
theorem final_of_measure (Invariant Final : State → Prop) (measure : State → Nat)
    (progress :
      ∀ state, Invariant state → ¬ Final state →
        ∃ action next,
          guard state action ∧ step state action = some next ∧
            Invariant next ∧ measure next < measure state)
    (holds : Invariant state) :
    ∃ target, Reaches step guard state target ∧ Final target := by
  induction bound : measure state using Nat.strongRecOn
      generalizing state with
  | ind value ih =>
    by_cases final : Final state
    · exact ⟨state, refl state, final⟩
    · obtain ⟨action, next, allowed, taken, kept, smaller⟩ := progress state holds final
      rw [bound] at smaller
      obtain ⟨target, later, reached⟩ := ih (measure next) smaller kept rfl
      exact ⟨target, head action allowed taken later, reached⟩

end Reaches

end Strobengine.Foundations
