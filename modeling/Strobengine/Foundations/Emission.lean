import Mathlib.Algebra.Ring.Nat
import Strobengine.Foundations.Execution
import Strobengine.Foundations.Population

/-!
# Transitions that emit

A step of a machine may emit outputs besides changing the state: records, messages, observations.
-/

namespace Strobengine.Foundations

universe u v w

variable {State : Type u} {Action : Type v} {Output : Type w}

/-- A partial transition function that says what a step emits. -/
abbrev Emitting (State : Type u) (Action : Type v) (Output : Type w) :=
  State → Action → Option (State × List Output)

/-- A state and everything that was emitted on the way to it. -/
structure Tracked (State : Type u) (Output : Type w) where
  state : State
  log : List Output
  deriving DecidableEq, Repr

namespace Tracked

def start (state : State) : Tracked State Output :=
  { state, log := [] }

def step (emitting : Emitting State Action Output) (tracked : Tracked State Output)
    (action : Action) : Option (Tracked State Output) :=
  match emitting tracked.state action with
  | none => none
  | some (next, emitted) => some { state := next, log := tracked.log ++ emitted }

variable {emitting : Emitting State Action Output}

theorem step_eq_some_iff {tracked next : Tracked State Output} {action : Action} :
    step emitting tracked action = some next ↔
      ∃ emitted,
        emitting tracked.state action = some (next.state, emitted) ∧
          next.log = tracked.log ++ emitted := by
  unfold step
  cases emitting tracked.state action with
  | none => simp
  | some result =>
    obtain ⟨state, emitted⟩ := result
    obtain ⟨nextState, nextLog⟩ := next
    simp only [Option.some.injEq, mk.injEq, Prod.mk.injEq]
    constructor
    · rintro ⟨rfl, rfl⟩
      exact ⟨emitted, ⟨rfl, rfl⟩, rfl⟩
    · rintro ⟨_, ⟨rfl, rfl⟩, rfl⟩
      exact ⟨rfl, rfl⟩

variable {target : Tracked State Output}

theorem invariant
    {guard : Tracked State Output → Action → Prop} (Holds : State → List Output → Prop)
    (kept :
      ∀ state log action next emitted,
        Holds state log → guard ⟨state, log⟩ action →
          emitting state action = some (next, emitted) → Holds next (log ++ emitted))
    {source : Tracked State Output} (initially : Holds source.state source.log)
    (reached : Reaches (step emitting) guard source target) :
    Holds target.state target.log := by
  apply Reaches.invariant (fun tracked => Holds tracked.state tracked.log) ?_ initially reached
  intro tracked action next holds allowed taken
  obtain ⟨emitted, moved, logged⟩ := step_eq_some_iff.mp taken
  rw [logged]
  exact kept tracked.state tracked.log action next.state emitted holds allowed moved

def guardOn (guard : State → Action → Prop) (tracked : Tracked State Output)
    (action : Action) : Prop :=
  guard tracked.state action

instance (guard : State → Action → Prop) [∀ state action, Decidable (guard state action)]
    (tracked : Tracked State Output) (action : Action) :
    Decidable (guardOn guard tracked action) :=
  inferInstanceAs (Decidable (guard tracked.state action))

/-- What every step from a sound state emits is good, so everything in the log is. -/
theorem forall_log {guard : State → Action → Prop} (Sound : State → Prop) (Good : Output → Prop)
    (kept :
      ∀ state action next emitted,
        Sound state → guard state action → emitting state action = some (next, emitted) →
          Sound next ∧ ∀ output ∈ emitted, Good output)
    {source : State} (initially : Sound source)
    (reached : Reaches (step emitting) (guardOn guard) (start source) target) :
    ∀ output ∈ target.log, Good output := by
  have holds : Sound target.state ∧ ∀ output ∈ target.log, Good output := by
    apply invariant (fun state log => Sound state ∧ ∀ output ∈ log, Good output) ?_
      ⟨initially, fun output member => by cases member⟩ reached
    rintro state log action next emitted ⟨sound, logged⟩ allowed taken
    obtain ⟨soundNext, good⟩ := kept state action next emitted sound allowed taken
    refine ⟨soundNext, ?_⟩
    intro output member
    rcases List.mem_append.mp member with before | new
    · exact logged output before
    · exact good output new
  exact holds.2

/-- Keep a ledger: what is emitted on the left, with what the state still owes, is what is
emitted on the right. -/
theorem ledger {Weight : Type*} [AddCommMonoid Weight]
    {guard : Tracked State Output → Action → Prop} (Sound : State → Prop)
    (left right : Output → Weight) (owed : State → Weight)
    (kept :
      ∀ state log action next emitted,
        Sound state → guard ⟨state, log⟩ action →
          emitting state action = some (next, emitted) →
            Sound next ∧ (emitted.map left).sum + owed next = owed state + (emitted.map right).sum)
    {source : Tracked State Output} (initially : Sound source.state)
    (balanced : (source.log.map left).sum + owed source.state = (source.log.map right).sum)
    (reached : Reaches (step emitting) guard source target) :
    Sound target.state ∧
      (target.log.map left).sum + owed target.state = (target.log.map right).sum := by
  apply invariant
    (fun state log => Sound state ∧ (log.map left).sum + owed state = (log.map right).sum) ?_
    ⟨initially, balanced⟩ reached
  rintro state log action next emitted ⟨sound, equal⟩ allowed taken
  obtain ⟨soundNext, moved⟩ := kept state log action next emitted sound allowed taken
  refine ⟨soundNext, ?_⟩
  rw [List.map_append, List.map_append, List.sum_append, List.sum_append, ← equal, add_assoc,
    add_assoc, moved]

/-- An output of a longer log is a new one, or was in the log before. -/
theorem split_append {log emitted before after : List Output} {output : Output}
    (split : log ++ emitted = before ++ output :: after) :
    (∃ earlier, emitted = earlier ++ output :: after) ∨
      ∃ rest, log = before ++ output :: rest ∧ after = rest ++ emitted := by
  rcases List.append_eq_append_iff.mp split with ⟨earlier, _, new⟩ | ⟨rest, old, later⟩
  · exact Or.inl ⟨earlier, new⟩
  · cases rest with
    | nil => exact Or.inl ⟨[], later.symm⟩
    | cons first rest =>
      rw [List.cons_append, List.cons.injEq] at later
      obtain ⟨rfl, rfl⟩ := later
      exact Or.inr ⟨rest, old, rfl⟩

/-- What is seen after a trigger: nothing yet, or first of all what is wanted. A trigger
leaves a state that waits, and a state that waits goes on waiting or does what is wanted
before anything else. -/
theorem followed {guard : State → Action → Prop} {Seen : Type*} (see : Output → Option Seen)
    (wanted : List Seen) (Trigger : Output → Prop) (Sound Waiting : State → Prop)
    (sound :
      ∀ state action next emitted,
        Sound state → guard state action →
          emitting state action = some (next, emitted) → Sound next)
    (waits :
      ∀ state action next emitted,
        Waiting state → emitting state action = some (next, emitted) →
          emitted.filterMap see = [] ∧ Waiting next ∨ wanted <+: emitted.filterMap see)
    (triggered :
      ∀ state action next emitted,
        Sound state → guard state action →
          emitting state action = some (next, emitted) → ∀ before output after,
            emitted = before ++ output :: after → Trigger output →
              after.filterMap see = [] ∧ Waiting next)
    {source : State} (initially : Sound source)
    (reached : Reaches (step emitting) (guardOn guard) (start source) target)
    {before after : List Output} {output : Output}
    (split : target.log = before ++ output :: after) (trigger : Trigger output) :
    after.filterMap see = [] ∧ Waiting target.state ∨ wanted <+: after.filterMap see := by
  have holds :
      Sound target.state ∧
        ∀ before output after,
          target.log = before ++ output :: after → Trigger output →
            after.filterMap see = [] ∧ Waiting target.state ∨ wanted <+: after.filterMap see := by
    apply invariant (fun state log =>
      Sound state ∧
        ∀ before output after,
          log = before ++ output :: after → Trigger output →
            after.filterMap see = [] ∧ Waiting state ∨ wanted <+: after.filterMap see)
      ?_ ⟨initially, ?_⟩ reached
    · rintro state log action next emitted ⟨holds, earlier⟩ allowed taken
      refine ⟨sound state action next emitted holds allowed taken, ?_⟩
      intro before output after split trigger
      rcases split_append split with ⟨late, new⟩ | ⟨rest, old, rfl⟩
      · exact Or.inl (triggered state action next emitted holds allowed taken late output after
          new trigger)
      · rw [List.filterMap_append]
        rcases earlier before output rest old trigger with ⟨nothing, waiting⟩ | done
        · rw [nothing, List.nil_append]
          exact waits state action next emitted waiting taken
        · exact Or.inr (done.trans (List.prefix_append _ _))
    · intro before output after split
      have nonempty := congrArg List.length split
      simp [start] at nonempty
  exact holds.2 before output after split trigger

end Tracked

theorem sum_map_filterMap {Part : Type u} (pick : Output → Option Part) (weight : Part → Nat)
    (log : List Output) :
    ((log.filterMap pick).map weight).sum =
      (log.map (fun output => (pick output).elim 0 weight)).sum := by
  induction log with
  | nil => rfl
  | cons output rest ih =>
    rw [List.map_cons, List.sum_cons, ← ih]
    cases picked : pick output with
    | none => rw [List.filterMap_cons_none picked, Option.elim_none, Nat.zero_add]
    | some => rw [List.filterMap_cons_some picked, List.map_cons, List.sum_cons, Option.elim_some]

theorem length_filterMap {Part : Type u} (pick : Output → Option Part) (log : List Output) :
    (log.filterMap pick).length =
      (log.map (fun output => (pick output).elim 0 (fun _ => 1))).sum := by
  rw [← sum_map_filterMap pick (fun _ => 1), List.map_const', List.sum_replicate_nat, Nat.mul_one]

theorem sum_map_toNat (holds : Output → Bool) (log : List Output) :
    (log.map (fun output => (holds output).toNat)).sum = log.countP holds := by
  induction log with
  | nil => rfl
  | cons output rest ih =>
    rw [List.map_cons, List.sum_cons, ih, List.countP_cons, Nat.add_comm]
    cases holds output <;> rfl

section Members

variable {Member : Type u}

def oneOf (emitting : Emitting Member Action Output) : Emitting (List Member) (Nat × Action) Output
  | members, (index, action) =>
    match members[index]? with
    | none => none
    | some member =>
      match emitting member action with
      | none => none
      | some (moved, emitted) => some (members.set index moved, emitted)

def guardOf (guard : Member → Action → Prop) (tracked : Tracked (List Member) Output)
    (action : Nat × Action) : Prop :=
  ∀ member ∈ tracked.state[action.1]?, guard member action.2

instance (guard : Member → Action → Prop) [∀ member action, Decidable (guard member action)]
    (tracked : Tracked (List Member) Output) (action : Nat × Action) :
    Decidable (guardOf guard tracked action) :=
  inferInstanceAs
    (Decidable (∀ member ∈ tracked.state[action.1]?, guard member action.2))

variable {emitting : Emitting Member Action Output}

theorem exists_of_oneOf {members next : List Member} {action : Nat × Action} {emitted : List Output}
    (taken : oneOf emitting members action = some (next, emitted)) :
    ∃ member moved,
      members[action.1]? = some member ∧
        emitting member action.2 = some (moved, emitted) ∧ next = members.set action.1 moved := by
  obtain ⟨index, action⟩ := action
  unfold oneOf at taken
  cases found : members[index]? with
  | none => simp [found] at taken
  | some member =>
    cases acted : emitting member action with
    | none => simp [found, acted] at taken
    | some result =>
      obtain ⟨moved, output⟩ := result
      simp only [found, acted, Option.some.injEq, Prod.mk.injEq] at taken
      obtain ⟨rfl, rfl⟩ := taken
      exact ⟨member, moved, rfl, acted, rfl⟩

variable {guard : Member → Action → Prop} {source target : Tracked (List Member) Output}

/-- The invariant rule for several members that share a log: `Each` holds of every member
and survives what others emit, `Logged` holds of the log. -/
theorem Tracked.members_invariant
    (Each : Member → List Output → Prop) (Logged : List Output → Prop)
    (survives : ∀ member log emitted, Each member log → Each member (log ++ emitted))
    (kept :
      ∀ member log action moved emitted,
        Each member log → Logged log → guard member action →
          emitting member action = some (moved, emitted) →
            Each moved (log ++ emitted) ∧ Logged (log ++ emitted))
    (initially : ∀ member ∈ source.state, Each member source.log) (logged : Logged source.log)
    (reached : Reaches (Tracked.step (oneOf emitting)) (guardOf guard) source target) :
    (∀ member ∈ target.state, Each member target.log) ∧ Logged target.log := by
  apply Tracked.invariant
    (fun members log => (∀ member ∈ members, Each member log) ∧ Logged log) ?_
    ⟨initially, logged⟩ reached
  rintro members log action next emitted ⟨each, recorded⟩ allowed taken
  obtain ⟨member, moved, found, acted, rfl⟩ := exists_of_oneOf taken
  obtain ⟨movedHolds, logHolds⟩ :=
    kept member log action.2 moved emitted (each member (List.mem_of_getElem? found)) recorded
      (allowed member found) acted
  refine ⟨?_, logHolds⟩
  apply forall_mem_set
  · intro other present
    exact survives other log emitted (each other present)
  · exact movedHolds

theorem Tracked.members_ledger {Weight : Type*} [AddCancelCommMonoid Weight] (Sound : Member → Prop)
    (left right : Output → Weight) (owed : Member → Weight)
    (kept :
      ∀ member action moved emitted,
        Sound member → guard member action →
          emitting member action = some (moved, emitted) →
            Sound moved ∧
              (emitted.map left).sum + owed moved = owed member + (emitted.map right).sum)
    (initially : ∀ member ∈ source.state, Sound member)
    (balanced :
      (source.log.map left).sum + (source.state.map owed).sum = (source.log.map right).sum)
    (reached : Reaches (Tracked.step (oneOf emitting)) (guardOf guard) source target) :
    (target.log.map left).sum + (target.state.map owed).sum = (target.log.map right).sum := by
  have holds :=
    Tracked.ledger (fun members => ∀ member ∈ members, Sound member) left right
      (fun members => (members.map owed).sum) ?_ initially balanced reached
  · exact holds.2
  · intro members log action next emitted sound allowed taken
    obtain ⟨member, moved, found, acted, rfl⟩ := exists_of_oneOf taken
    obtain ⟨soundMoved, paid⟩ :=
      kept member action.2 moved emitted (sound member (List.mem_of_getElem? found))
        (allowed member found) acted
    refine ⟨forall_mem_set sound soundMoved, ?_⟩
    have changed := sum_map_set owed moved found
    apply add_right_cancel (b := owed member)
    calc
      (emitted.map left).sum + ((members.set action.1 moved).map owed).sum + owed member
          = (emitted.map left).sum + ((members.map owed).sum + owed moved) := by
            rw [add_assoc, changed]
      _ = (members.map owed).sum + ((emitted.map left).sum + owed moved) := by
            rw [add_left_comm]
      _ = (members.map owed).sum + (emitted.map right).sum + owed member := by
            rw [paid, add_comm (owed member), add_assoc]

theorem Tracked.members_balanced (left right : Output → Nat)
    (balanced :
      ∀ member action moved emitted,
        guard member action → emitting member action = some (moved, emitted) →
          (emitted.map left).sum = (emitted.map right).sum)
    (initially : (source.log.map left).sum = (source.log.map right).sum)
    (reached : Reaches (Tracked.step (oneOf emitting)) (guardOf guard) source target) :
    (target.log.map left).sum = (target.log.map right).sum := by
  have settled :=
    Tracked.members_ledger (fun _ => True) left right (fun _ => 0)
      (by
        intro member action moved emitted _ allowed taken
        refine ⟨True.intro, ?_⟩
        rw [balanced member action moved emitted allowed taken, Nat.zero_add, Nat.add_zero])
      (fun _ _ => True.intro) (by simpa using initially) reached
  simpa using settled

end Members

end Strobengine.Foundations
