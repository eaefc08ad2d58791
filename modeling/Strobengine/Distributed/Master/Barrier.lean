import Strobengine.Distributed.Master.Registry
import Strobengine.Foundations.Execution
import Mathlib.Data.List.Perm.Subperm

/-!
# Waiting at the barrier

Other tasks change the registry between two looks of `wait_for_ready`, and a look sees the hash map
in an arbitrary order. A call decides on its last look.
-/

namespace Strobengine.Distributed.Master

open Foundations Rust

namespace Registry

/-- The worker is registered, READY and has a command stream. -/
def Allocatable (registry : Registry) (workerId : String) : Prop :=
  ∃ record, registry.workers.lookup workerId = some record ∧ allocatable record = true

theorem mem_allocatableWorkers_iff (registry : Registry) (workerId : String) :
    workerId ∈ registry.allocatableWorkers ↔ registry.Allocatable workerId := by
  rw [allocatableWorkers_eq, List.mem_map]
  constructor
  · rintro ⟨entry, member, rfl⟩
    obtain ⟨present, free⟩ := List.mem_filter.mp member
    exact ⟨entry.2, (HashMap.mem_toPairs_iff _ _ _).mp present, free⟩
  · rintro ⟨record, found, free⟩
    have present := (HashMap.mem_toPairs_iff registry.workers workerId record).mpr found
    exact ⟨(workerId, record), List.mem_filter.mpr ⟨present, free⟩, rfl⟩

theorem readyWorkers_perm (registry : Registry) :
    registry.readyWorkers.Perm registry.allocatableWorkers :=
  List.perm_insertionSort _ _

theorem mem_readyWorkers_iff (registry : Registry) (workerId : String) :
    workerId ∈ registry.readyWorkers ↔ registry.Allocatable workerId := by
  rw [registry.readyWorkers_perm.mem_iff, mem_allocatableWorkers_iff]

theorem readyWorkers_sorted (registry : Registry) :
    registry.readyWorkers.Pairwise (fun first second => first ≤ second) := by
  have : Std.Total (fun first second : String => first ≤ second) := ⟨String.le_total⟩
  have : IsTrans String (fun first second => first ≤ second) := ⟨fun _ _ _ => String.le_trans⟩
  exact List.pairwise_insertionSort _ _

theorem readyWorkers_increasing (registry : Registry) :
    registry.readyWorkers.Pairwise (fun first second => first < second) := by
  have distinct : registry.readyWorkers.Nodup :=
    registry.readyWorkers_perm.nodup_iff.mpr registry.allocatableWorkers_nodup
  exact
    (registry.readyWorkers_sorted.and distinct).imp
      (fun ordered => Std.lt_of_le_of_ne ordered.1 ordered.2)

theorem readyWorkers_eq_of_lookup {registry other : Registry}
    (same : ∀ workerId, registry.workers.lookup workerId = other.workers.lookup workerId) :
    registry.readyWorkers = other.readyWorkers := by
  have members : ∀ workerId, workerId ∈ registry.readyWorkers ↔ workerId ∈ other.readyWorkers := by
    intro workerId
    rw [mem_readyWorkers_iff, mem_readyWorkers_iff, Allocatable, Allocatable, same]
  have distinct : ∀ registry : Registry, registry.readyWorkers.Nodup := fun registry =>
    registry.readyWorkers_perm.nodup_iff.mpr registry.allocatableWorkers_nodup
  have permuted : registry.readyWorkers.Perm other.readyWorkers :=
    (List.perm_ext_iff_of_nodup (distinct registry) (distinct other)).mpr members
  exact
    permuted.eq_of_pairwise (fun _ _ _ _ => String.le_antisymm) registry.readyWorkers_sorted
      other.readyWorkers_sorted

/-- The chosen workers are the smallest allocatable ones, in increasing order. -/
structure Chooses (registry : Registry) (chosen : List String) : Prop where
  increasing : chosen.Pairwise (fun first second => first < second)
  allocatable : ∀ workerId ∈ chosen, registry.Allocatable workerId
  smallest :
    ∀ workerId, registry.Allocatable workerId → workerId ∉ chosen →
      ∀ preferred ∈ chosen, preferred < workerId

theorem chooses_take (registry : Registry) (count : Nat) :
    registry.Chooses (registry.readyWorkers.take count) where
  increasing := registry.readyWorkers_increasing.sublist (List.take_sublist _ _)
  allocatable := by
    intro workerId member
    exact (registry.mem_readyWorkers_iff workerId).mp (List.mem_of_mem_take member)
  smallest := by
    intro workerId free left preferred taken
    have ready := (registry.mem_readyWorkers_iff workerId).mpr free
    have split := List.take_append_drop count registry.readyWorkers
    have later : workerId ∈ registry.readyWorkers.drop count := by
      rw [← split] at ready
      exact (List.mem_append.mp ready).resolve_left left
    have ordered := registry.readyWorkers_increasing
    rw [← split] at ordered
    exact (List.pairwise_append.mp ordered).2.2 preferred taken workerId later

structure Allocates (registry : Registry) (expected : Nat) (allocated : List String) : Prop where
  chooses : registry.Chooses allocated
  all : expected = 0 → ∀ workerId, registry.Allocatable workerId → workerId ∈ allocated
  count : expected ≠ 0 → allocated.length = expected
  nonempty : allocated ≠ []

theorem allocates_of_allocate {registry : Registry} {expected : Nat} {allocated : List String}
    (decided : registry.allocate expected = some allocated) :
    registry.Allocates expected allocated := by
  have nonempty := (allocation_of_allocate decided).nonempty
  unfold allocate at decided
  split at decided
  · rename_i enough
    cases decided
    by_cases any : expected = 0
    · rw [if_pos any] at nonempty ⊢
      have whole := registry.chooses_take registry.readyWorkers.length
      rw [List.take_length] at whole
      refine ⟨whole, ?_, fun given => absurd any given, nonempty⟩
      exact fun _ workerId free => (registry.mem_readyWorkers_iff workerId).mpr free
    · rw [if_neg any] at nonempty ⊢
      refine ⟨registry.chooses_take _, fun zero => absurd zero any, ?_, nonempty⟩
      intro _
      rw [List.length_take]
      omega
  · cases decided

theorem length_le_readyWorkers
    (registry : Registry) {workers : List String} (distinct : workers.Nodup)
    (free : ∀ workerId ∈ workers, registry.Allocatable workerId) :
    workers.length ≤ registry.readyWorkers.length := by
  apply List.Subperm.length_le
  apply List.subperm_of_subset distinct
  intro workerId member
  exact (registry.mem_readyWorkers_iff workerId).mpr (free workerId member)

end Registry

inductive WaitStage where
  | looking
  | checking (ready : Nat)
  | sleeping (wakeAt : Nat)
  | returned (result : Except MasterError (List String))
  deriving DecidableEq

/-- After the deadline a call only goes on from one stage to a lower one. -/
def WaitStage.rank : WaitStage → Nat
  | .sleeping _ => 3
  | .looking => 2
  | .checking _ => 1
  | .returned _ => 0

/-- A call of `wait_for_ready`; `seen` is the registry at its last look. -/
structure WaitForReady where
  expected : Nat
  deadline : Nat
  now : Nat
  registry : Registry
  seen : Registry
  stage : WaitStage

inductive WaitAction where
  | change (registry : Registry)
  | elapse (duration : Nat)
  | notify
  | advance

def WaitAction.isAdvance : WaitAction → Bool
  | .advance => true
  | _ => false

namespace WaitForReady

def start (expected timeout now : Nat) (registry : Registry) : WaitForReady :=
  { expected
    deadline := now + timeout
    now
    registry
    seen := registry
    stage := .looking }

def advance (call : WaitForReady) : Option WaitForReady :=
  match call.stage with
  | .looking =>
    match call.registry.allocate call.expected with
    | some allocated =>
      some { call with seen := call.registry, stage := .returned (.ok allocated) }
    | none =>
      some
        { call with
          seen := call.registry
          stage := .checking call.registry.readyWorkers.length }
  | .checking ready =>
    if call.deadline - call.now = 0 then
      some
        { call with
          stage := .returned (.error (.barrierTimeout (max call.expected 1) ready)) }
    else
      some { call with stage := .sleeping (call.now + min (call.deadline - call.now) 100) }
  | .sleeping wakeAt => if wakeAt ≤ call.now then some { call with stage := .looking } else none
  | .returned _ => none

def step (call : WaitForReady) : WaitAction → Option WaitForReady
  | .change registry => some { call with registry }
  | .elapse duration => some { call with now := call.now + duration }
  | .notify =>
    match call.stage with
    | .sleeping _ => some { call with stage := .looking }
    | _ => none
  | .advance => call.advance

def Reflects (expected deadline now : Nat) (seen : Registry) : WaitStage → Prop
  | .looking => True
  | .checking ready => ready = seen.readyWorkers.length ∧ ready < max expected 1
  | .sleeping wakeAt => wakeAt ≤ deadline
  | .returned (.ok allocated) => seen.allocate expected = some allocated
  | .returned (.error reason) =>
    reason = .barrierTimeout (max expected 1) seen.readyWorkers.length ∧
      seen.readyWorkers.length < max expected 1 ∧ deadline ≤ now

theorem Reflects.later {expected deadline now later : Nat} {seen : Registry} {stage : WaitStage}
    (reflects : Reflects expected deadline now seen stage) (after : now ≤ later) :
    Reflects expected deadline later seen stage := by
  cases stage with
  | returned result =>
    cases result with
    | ok => exact reflects
    | error => exact ⟨reflects.1, reflects.2.1, reflects.2.2.trans after⟩
  | _ => exact reflects

structure Faithful (expected deadline : Nat) (call : WaitForReady) : Prop where
  expects : call.expected = expected
  ends : call.deadline = deadline
  reflects : Reflects expected deadline call.now call.seen call.stage

section Faithful

variable {expected deadline : Nat} {call next : WaitForReady}

theorem Faithful.advance
    (faithful : Faithful expected deadline call) (taken : call.advance = some next) :
    Faithful expected deadline next := by
  obtain ⟨rfl, rfl, reflects⟩ := faithful
  unfold WaitForReady.advance at taken
  split at taken
  · split at taken
    · rename_i decided
      cases taken
      exact ⟨rfl, rfl, decided⟩
    · rename_i undecided
      cases taken
      refine ⟨rfl, rfl, rfl, ?_⟩
      unfold Registry.allocate at undecided
      split at undecided
      · cases undecided
      · omega
  · rename_i ready stage
    rw [stage] at reflects
    obtain ⟨rfl, few⟩ := reflects
    split at taken
    · rename_i passed
      cases taken
      exact ⟨rfl, rfl, rfl, few, Nat.sub_eq_zero_iff_le.mp passed⟩
    · cases taken
      refine ⟨rfl, rfl, ?_⟩
      simp only [Reflects]
      omega
  · split at taken
    · cases taken
      exact ⟨rfl, rfl, trivial⟩
    · cases taken
  · cases taken

theorem Faithful.step (faithful : Faithful expected deadline call) {action : WaitAction}
    (taken : call.step action = some next) : Faithful expected deadline next := by
  cases action with
  | change =>
    cases taken
    exact ⟨faithful.expects, faithful.ends, faithful.reflects⟩
  | elapse =>
    cases taken
    refine ⟨faithful.expects, faithful.ends, ?_⟩
    exact faithful.reflects.later (Nat.le_add_right _ _)
  | notify =>
    simp only [WaitForReady.step] at taken
    split at taken
    · cases taken
      exact ⟨faithful.expects, faithful.ends, trivial⟩
    · cases taken
  | advance => exact faithful.advance taken

theorem advance_isSome (faithful : Faithful expected deadline call) (late : deadline ≤ call.now)
    (waits : call.stage.rank ≠ 0) : call.advance.isSome = true := by
  have reflects := faithful.reflects
  unfold WaitForReady.advance
  split
  · split <;> rfl
  · split <;> rfl
  · rename_i wakeAt stage
    rw [stage] at reflects
    rw [if_pos (le_trans reflects late)]
    rfl
  · rename_i result stage
    rw [stage] at waits
    exact absurd rfl waits

theorem rank_of_advance (faithful : Faithful expected deadline call) (late : deadline ≤ call.now)
    (taken : call.advance = some next) :
    next.now = call.now ∧ next.stage.rank < call.stage.rank := by
  unfold WaitForReady.advance at taken
  split at taken
  · rename_i stage
    rw [stage]
    split at taken <;> cases taken <;> exact ⟨rfl, by simp [WaitStage.rank]⟩
  · rename_i ready stage
    have passed : call.deadline - call.now = 0 := by
      rw [faithful.ends]
      omega
    rw [if_pos passed] at taken
    cases taken
    rw [stage]
    exact ⟨rfl, by simp [WaitStage.rank]⟩
  · rename_i wakeAt stage
    split at taken <;> cases taken
    rw [stage]
    exact ⟨rfl, by simp [WaitStage.rank]⟩
  · cases taken

theorem late_of_step (faithful : Faithful expected deadline call) (late : deadline ≤ call.now)
    {action : WaitAction} (taken : call.step action = some next) :
    deadline ≤ next.now ∧
      action.isAdvance.toNat + next.stage.rank ≤
        call.stage.rank := by
  cases action with
  | change =>
    cases taken
    exact ⟨late, (Nat.zero_add _).le⟩
  | elapse =>
    cases taken
    exact ⟨le_trans late (Nat.le_add_right _ _), (Nat.zero_add _).le⟩
  | notify =>
    simp only [WaitForReady.step] at taken
    split at taken <;> cases taken
    rename_i wakeAt stage
    rw [stage]
    exact ⟨late, by simp [WaitStage.rank, WaitAction.isAdvance]⟩
  | advance =>
    obtain ⟨same, lower⟩ := rank_of_advance faithful late taken
    exact ⟨late.trans same.ge, Nat.one_add_le_iff.mpr lower⟩

end Faithful

/-- Whatever happens to the registry meanwhile, a call decides on the workers that are
allocatable at its last look: it returns the smallest of them, whatever the order of the
hash map, and times out only if there are too few. A look that sees enough of them returns, and once
the deadline has passed the call returns within three steps of its own, none of which waits. -/
theorem wait_for_ready_decides
    (expected timeout now : Nat) (registry : Registry) {call : WaitForReady}
    (reached : Reaches step unguarded (start expected timeout now registry) call) :
    (∀ allocated, call.stage = .returned (.ok allocated) →
        call.seen.Allocates expected allocated ∧
          ∀ other : Registry,
            (∀ workerId, other.workers.lookup workerId = call.seen.workers.lookup workerId) →
              other.allocate expected = some allocated) ∧
      (∀ reason, call.stage = .returned (.error reason) →
        reason = .barrierTimeout (max expected 1) call.seen.readyWorkers.length ∧
          ∀ workers : List String, workers.Nodup →
            (∀ workerId ∈ workers, call.seen.Allocatable workerId) →
              workers.length < max expected 1) ∧
      (∀ workers : List String, workers.Nodup →
        (∀ workerId ∈ workers, call.registry.Allocatable workerId) →
          max expected 1 ≤ workers.length → call.stage = .looking →
            ∃ next allocated,
              call.step .advance = some next ∧ next.stage = .returned (.ok allocated)) ∧
      (now + timeout ≤ call.now →
        ∀ actions later, execute step call actions = some later →
          (∃ result, later.stage = .returned result) ∨
            (later.step .advance).isSome = true ∧
              actions.countP WaitAction.isAdvance < 3) := by
  have initially : Faithful expected (now + timeout) (start expected timeout now registry) :=
    ⟨rfl, rfl, trivial⟩
  have faithful : Faithful expected (now + timeout) call :=
    reached.invariant (Faithful expected (now + timeout))
      (fun _ _ _ faithful _ taken => faithful.step taken) initially
  have reflects := faithful.reflects
  refine ⟨?_, ?_, ?_, ?_⟩
  · intro allocated returned
    rw [returned] at reflects
    refine ⟨Registry.allocates_of_allocate reflects, ?_⟩
    intro other same
    have decided : call.seen.allocate expected = some allocated := reflects
    rw [Registry.allocate] at decided ⊢
    rwa [Registry.readyWorkers_eq_of_lookup same]
  · intro reason returned
    rw [returned] at reflects
    obtain ⟨timedOut, few, _⟩ := reflects
    refine ⟨timedOut, ?_⟩
    intro workers distinct free
    exact Nat.lt_of_le_of_lt (call.seen.length_le_readyWorkers distinct free) few
  · intro workers distinct free enough looking
    have seen := enough.trans (call.registry.length_le_readyWorkers distinct free)
    simp only [step, WaitForReady.advance, looking, faithful.expects, Registry.allocate,
      if_pos seen]
    exact ⟨_, _, rfl, rfl⟩
  · intro passed actions later run
    obtain ⟨⟨still, late⟩, bound⟩ :=
      countP_add_measure_le
        (fun call => Faithful expected (now + timeout) call ∧ now + timeout ≤ call.now)
        (fun call => call.stage.rank) WaitAction.isAdvance
        (fun call action next holds taken =>
          ⟨⟨holds.1.step taken, (late_of_step holds.1 holds.2 taken).1⟩,
            (late_of_step holds.1 holds.2 taken).2⟩)
        ⟨faithful, passed⟩ run
    have three : call.stage.rank ≤ 3 := by
      cases call.stage <;> simp [WaitStage.rank]
    by_cases returned : later.stage.rank = 0
    · left
      cases stage : later.stage with
      | returned result => exact ⟨result, rfl⟩
      | _ => simp [stage, WaitStage.rank] at returned
    · exact Or.inr ⟨advance_isSome still late returned, by omega⟩

def readyRecord (workerId : String) : WorkerRecord :=
  { workerId
    maxVus := 10
    status := .ready
    activeVus := 0
    testRunId := ""
    lastHeartbeat := 0
    commandTx := some 0 }

def readyPair : Registry :=
  (Registry.new.insert (readyRecord "b") (by decide)).insert (readyRecord "a") (by decide)

theorem wait_for_ready_decides_sample :
    ∃ call,
      Reaches step unguarded (start 1 5000 0 .new) call ∧
        call.stage = .returned (.ok ["a"]) ∧
          call.seen.Allocates 1 ["a"] ∧
            ∀ other : Registry,
              (∀ workerId, other.workers.lookup workerId = call.seen.workers.lookup workerId) →
                other.allocate 1 = some ["a"] := by
  refine
    Reaches.exists_and_of_executeChecked
      [WaitAction.advance, .advance, .change readyPair, .notify, .advance]
      (by decide +kernel) ?_
  intro call reached returned
  exact (wait_for_ready_decides 1 5000 0 .new reached).1 ["a"] returned

end WaitForReady

end Strobengine.Distributed.Master
