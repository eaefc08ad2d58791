import Strobengine.Distributed.Proto
import Strobengine.Rust.Map
import Strobengine.Rust.Text
import Mathlib.Data.List.Sort

/-!
# The cluster registry and the barrier

A command stream is named by a number; a point in time is a number of milliseconds.
-/

namespace Strobengine.Distributed.Master

open Rust

inductive MasterError where
  | config (message : String)
  | registry (message : String)
  | barrierTimeout (expected ready : Nat)
  | run (message : String)
  deriving DecidableEq, Repr

inductive WorkerStatus where
  | registered
  | ready
  | running
  | disconnected
  | failed
  deriving DecidableEq, Repr

def WorkerStatus.fromWire : Proto.WorkerState → WorkerStatus
  | .ready => .ready
  | .running => .running
  | .draining => .running
  | .error => .failed
  | .unregistered => .disconnected
  | .unspecified => .registered

/-- The record of a registered worker, without what is only displayed. -/
structure WorkerRecord where
  workerId : String
  maxVus : Nat
  status : WorkerStatus
  activeVus : Nat
  testRunId : String
  lastHeartbeat : Nat
  commandTx : Option Nat
  deriving DecidableEq, Repr

/-- The set of registered workers, each under its own id, which is not empty. -/
structure Registry where
  workers : HashMap String WorkerRecord
  keyed :
    ∀ workerId record,
      workers.lookup workerId = some record → record.workerId = workerId ∧ workerId ≠ ""

namespace Registry

def new : Registry where
  workers := ∅
  keyed := by
    intro workerId record found
    simp at found

def insert (registry : Registry) (record : WorkerRecord) (named : record.workerId ≠ "") :
    Registry where
  workers := registry.workers.insert record.workerId record
  keyed := by
    intro workerId found present
    by_cases same : workerId = record.workerId
    · subst same
      rw [AList.lookup_insert] at present
      cases present
      exact ⟨rfl, named⟩
    · rw [AList.lookup_insert_ne same] at present
      exact registry.keyed workerId found present

def modify (registry : Registry) (workerId : String) (change : WorkerRecord → WorkerRecord)
    (kept : ∀ record, (change record).workerId = record.workerId) : Registry where
  workers := registry.workers.modify workerId change
  keyed := by
    intro other record found
    rw [HashMap.lookup_modify] at found
    split at found
    · rename_i same
      subst same
      obtain ⟨before, present, changed⟩ := Option.map_eq_some_iff.mp found
      rw [← changed, kept]
      exact registry.keyed other before present
    · exact registry.keyed other record found

def register (registry : Registry) (request : Proto.RegisterWorkerRequest) (now : Nat) :
    Except MasterError Registry :=
  if blank : Rust.trim request.workerId = "" then
    .error (.registry "worker_id must not be empty")
  else if request.maxConcurrencyVus = 0 then
    .error (.registry "max_concurrency_vus must be greater than zero")
  else
    .ok
      (registry.insert
        { workerId := request.workerId
          maxVus := request.maxConcurrencyVus
          status := .registered
          activeVus := 0
          testRunId := ""
          lastHeartbeat := now
          commandTx := none }
        (fun empty => blank ((congrArg Rust.trim empty).trans Rust.trim_empty)))

def unknownWorker (workerId : String) : MasterError :=
  .registry ("unknown worker '" ++ workerId ++ "'")

def recordHeartbeat (registry : Registry) (workerId : String) (state : Proto.WorkerState)
    (activeVus : Nat) (testRunId : String) (now : Nat) :
    Except MasterError Registry :=
  if (registry.workers.lookup workerId).isSome then
    .ok
      (registry.modify workerId
        (fun record =>
          { record with
            status := .fromWire state
            activeVus
            testRunId
            lastHeartbeat := now })
        (fun _ => rfl))
  else
    .error (unknownWorker workerId)

def attachCommands (registry : Registry) (workerId : String) (channel : Nat) :
    Except MasterError Registry :=
  if (registry.workers.lookup workerId).isSome then
    .ok
      (registry.modify workerId (fun record => { record with commandTx := some channel })
        (fun _ => rfl))
  else
    .error (unknownWorker workerId)

def commandSender (registry : Registry) (workerId : String) : Option Nat :=
  (registry.workers.lookup workerId).bind WorkerRecord.commandTx

def allocatable (record : WorkerRecord) : Bool :=
  record.status = .ready && record.commandTx.isSome

def allocatableWorkers (registry : Registry) : List String :=
  (registry.workers.toPairs.filter (fun entry => allocatable entry.2)).map
    (fun entry => entry.2.workerId)

def sweepRecord (now timeout : Nat) (record : WorkerRecord) : WorkerRecord :=
  if record.status = .disconnected then
    record
  else if timeout < now - record.lastHeartbeat then
    { record with status := .disconnected, commandTx := none }
  else
    record

def sweep (registry : Registry) (now timeout : Nat) : Registry where
  workers := registry.workers.mapValues (sweepRecord now timeout)
  keyed := by
    intro workerId record found
    rw [HashMap.lookup_mapValues] at found
    obtain ⟨before, present, changed⟩ := Option.map_eq_some_iff.mp found
    have keyed := registry.keyed workerId before present
    rw [← changed, sweepRecord]
    split
    · exact keyed
    · split
      · exact keyed
      · exact keyed

/-! ## Allocated workers are distinct -/

theorem allocatableWorkers_eq (registry : Registry) :
    registry.allocatableWorkers =
      (registry.workers.toPairs.filter (fun entry => allocatable entry.2)).map Prod.fst := by
  apply List.map_congr_left
  intro entry member
  have present : (entry.1, entry.2) ∈ registry.workers.toPairs := List.mem_of_mem_filter member
  exact (registry.keyed entry.1 entry.2 ((HashMap.mem_toPairs_iff _ _ _).mp present)).1

theorem allocatableWorkers_nodup (registry : Registry) : registry.allocatableWorkers.Nodup := by
  rw [allocatableWorkers_eq]
  have keys : (registry.workers.toPairs.map Prod.fst).Nodup := by
    rw [HashMap.toPairs_keys]
    exact registry.workers.keys_nodup
  exact keys.sublist (List.filter_sublist.map Prod.fst)

def readyWorkers (registry : Registry) : List String :=
  registry.allocatableWorkers.insertionSort (fun first second => first ≤ second)

def allocate (registry : Registry) (expected : Nat) : Option (List String) :=
  if max expected 1 ≤ registry.readyWorkers.length then
    some
      (if expected = 0 then
        registry.readyWorkers
      else
        registry.readyWorkers.take (max expected 1))
  else
    none

/-- The barrier allocates distinct workers with non-empty ids, and at least one. -/
structure Allocation (allocated : List String) : Prop where
  distinct : allocated.Nodup
  named : "" ∉ allocated
  nonempty : allocated ≠ []

theorem readyWorkers_named (registry : Registry) : "" ∉ registry.readyWorkers := by
  intro member
  have allocatable : "" ∈ registry.allocatableWorkers :=
    (List.perm_insertionSort _ _).mem_iff.mp member
  rw [allocatableWorkers_eq, List.mem_map] at allocatable
  obtain ⟨entry, present, empty⟩ := allocatable
  have found : registry.workers.lookup entry.1 = some entry.2 :=
    (HashMap.mem_toPairs_iff _ _ _).mp (List.mem_of_mem_filter present)
  exact (registry.keyed entry.1 entry.2 found).2 empty

theorem allocation_of_allocate {registry : Registry} {expected : Nat} {allocated : List String}
    (decided : registry.allocate expected = some allocated) :
    Allocation allocated := by
  have ready : registry.readyWorkers.Nodup :=
    (List.perm_insertionSort _ _).nodup_iff.mpr registry.allocatableWorkers_nodup
  unfold allocate at decided
  split at decided
  · rename_i enough
    have positive : 1 ≤ registry.readyWorkers.length := by omega
    cases decided
    split
    · exact ⟨ready, registry.readyWorkers_named, List.ne_nil_of_length_pos positive⟩
    · have taken := List.take_sublist (max expected 1) registry.readyWorkers
      refine ⟨ready.sublist taken, ?_, ?_⟩
      · exact fun member => registry.readyWorkers_named (taken.subset member)
      · apply List.ne_nil_of_length_pos
        rw [List.length_take]
        omega
  · cases decided

theorem commandSender_insert
    (registry : Registry) (record : WorkerRecord) (named : record.workerId ≠ "")
    (workerId : String) :
    (registry.insert record named).commandSender workerId =
      if workerId = record.workerId then record.commandTx
      else registry.commandSender workerId := by
  unfold commandSender insert
  by_cases same : workerId = record.workerId
  · rw [if_pos same, same, AList.lookup_insert, Option.bind_some]
  · rw [if_neg same, AList.lookup_insert_ne same]

theorem commandSender_modify (registry : Registry) (workerId other : String)
    (change : WorkerRecord → WorkerRecord)
    (kept : ∀ record, (change record).workerId = record.workerId) :
    (registry.modify workerId change kept).commandSender other =
      if other = workerId then
        (registry.workers.lookup workerId).bind (fun record => (change record).commandTx)
      else
        registry.commandSender other := by
  unfold commandSender modify
  rw [HashMap.lookup_modify]
  split
  · rw [Option.bind_map]
    rfl
  · rfl

def KeepsSenders (registry next : Registry) : Prop :=
  ∀ workerId channel,
    next.commandSender workerId = some channel → registry.commandSender workerId = some channel

theorem KeepsSenders.refl (registry : Registry) : registry.KeepsSenders registry :=
  fun _ _ attached => attached

theorem keepsSenders_register
    {registry next : Registry} {request : Proto.RegisterWorkerRequest} {now : Nat}
    (registered : registry.register request now = .ok next) :
    registry.KeepsSenders next := by
  intro workerId channel attached
  unfold register at registered
  split at registered
  · cases registered
  · split at registered
    · cases registered
    · cases registered
      rw [commandSender_insert] at attached
      split at attached
      · cases attached
      · exact attached

theorem keepsSenders_recordHeartbeat
    {registry next : Registry} {workerId : String} {state : Proto.WorkerState}
    {activeVus : Nat} {testRunId : String} {now : Nat}
    (recorded : registry.recordHeartbeat workerId state activeVus testRunId now = .ok next) :
    registry.KeepsSenders next := by
  intro other channel attached
  unfold recordHeartbeat at recorded
  split at recorded
  · cases recorded
    rw [commandSender_modify] at attached
    split at attached
    · rename_i same
      rw [same]
      exact attached
    · exact attached
  · cases recorded

theorem keepsSenders_sweep (registry : Registry) (now timeout : Nat) :
    registry.KeepsSenders (registry.sweep now timeout) := by
  intro workerId channel attached
  unfold commandSender sweep at attached
  rw [HashMap.lookup_mapValues, Option.bind_map] at attached
  obtain ⟨record, found, swept⟩ := Option.bind_eq_some_iff.mp attached
  have before : record.commandTx = some channel := by
    simp only [Function.comp_apply, sweepRecord] at swept
    split at swept
    · exact swept
    · split at swept
      · cases swept
      · exact swept
  exact Option.bind_eq_some_iff.mpr ⟨record, found, before⟩

theorem commandSender_attachCommands {registry next : Registry} {workerId : String} {channel : Nat}
    (attached : registry.attachCommands workerId channel = .ok next) {other : String} {sender : Nat}
    (found : next.commandSender other = some sender) :
    other = workerId ∧ sender = channel ∨ registry.commandSender other = some sender := by
  unfold attachCommands at attached
  split at attached
  · cases attached
    rw [commandSender_modify] at found
    split at found
    · rename_i same
      obtain ⟨record, _, taken⟩ := Option.bind_eq_some_iff.mp found
      cases taken
      exact Or.inl ⟨same, rfl⟩
    · exact Or.inr found
  · cases attached

end Registry

end Strobengine.Distributed.Master
