import Strobengine.Distributed.Master.CommandStreams

/-!
# The health sweep

The master hears from a worker when it registers and when it sends a heartbeat.
-/

namespace Strobengine.Distributed.Master

open Rust Foundations

variable {Count : Type}

namespace MasterAction

def hears (workerId : String) : MasterAction Count → Bool
  | .register request _ => request.workerId = workerId
  | .heartbeat other _ _ _ _ => other = workerId
  | _ => false

/-- A sweep that finds the last heartbeat too old. -/
def evicts (lastHeartbeat : Nat) : MasterAction Count → Bool
  | .sweep now timeout => timeout < now - lastHeartbeat
  | _ => false

end MasterAction

/-- What has become of the record of a worker that was not heard from. -/
structure Judged (record after : WorkerRecord) (evicted : Bool) : Prop where
  lastHeartbeat : after.lastHeartbeat = record.lastHeartbeat
  status : after.status = if evicted then .disconnected else record.status

theorem Judged.trans {record after later : WorkerRecord} {first second : Bool}
    (before : Judged record after first) (behind : Judged after later second) :
    Judged record later (first || second) := by
  refine ⟨behind.lastHeartbeat.trans before.lastHeartbeat, ?_⟩
  rw [behind.status, before.status]
  cases first <;> cases second <;> rfl

theorem judged_sweepRecord (now timeout : Nat) (record : WorkerRecord) :
    Judged record (Registry.sweepRecord now timeout record)
      ((MasterAction.sweep now timeout : MasterAction Count).evicts record.lastHeartbeat) := by
  unfold Registry.sweepRecord
  split
  · rename_i already
    exact ⟨rfl, by rw [already, ite_self]⟩
  · split
    · rename_i overdue
      exact ⟨rfl, by simp [MasterAction.evicts, overdue]⟩
    · rename_i recent
      exact ⟨rfl, by simp [MasterAction.evicts, recent]⟩

namespace MasterState

variable [Counter Count] {params : MasterParams} {state next later : MasterState Count}
  {action : MasterAction Count} {actions : List (MasterAction Count)}
  {workerId : String} {record : WorkerRecord}

theorem judged_of_step (found : state.registry.workers.lookup workerId = some record)
    (silent : action.hears workerId = false) (taken : step params state action = some next) :
    ∃ after, next.registry.workers.lookup workerId = some after ∧
      Judged record after (action.evicts record.lastHeartbeat) := by
  have kept : Judged record record false := ⟨rfl, rfl⟩
  cases action with
  | register request now =>
    have other : workerId ≠ request.workerId := by
      simpa [MasterAction.hears, eq_comm] using silent
    simp only [step, Registry.register] at taken
    split at taken
    · cases taken
      exact ⟨record, found, kept⟩
    · rename_i registered
      split at registered
      · cases registered
      · split at registered <;> cases registered
        cases taken
        exact ⟨record, (AList.lookup_insert_ne other).trans found, kept⟩
  | heartbeat reporter =>
    have other : workerId ≠ reporter := by
      simpa [MasterAction.hears, eq_comm] using silent
    simp only [step, Registry.recordHeartbeat] at taken
    split at taken
    · cases taken
      exact ⟨record, found, kept⟩
    · rename_i recorded
      split at recorded <;> cases recorded
      cases taken
      refine ⟨record, ?_, kept⟩
      exact (HashMap.lookup_modify ..).trans ((if_neg other).trans found)
  | watchCommands watcher =>
    simp only [step, Registry.attachCommands] at taken
    split at taken
    · cases taken
      exact ⟨record, found, kept⟩
    · rename_i attached
      split at attached <;> cases attached
      cases taken
      by_cases own : workerId = watcher
      · subst own
        refine ⟨{ record with commandTx := some state.channels.length }, ?_, rfl, rfl⟩
        exact (HashMap.lookup_modify ..).trans ((if_pos rfl).trans (by rw [found]; rfl))
      · refine ⟨record, ?_, kept⟩
        exact (HashMap.lookup_modify ..).trans ((if_neg own).trans found)
  | sweep now timeout =>
    cases taken
    refine ⟨Registry.sweepRecord now timeout record, ?_, judged_sweepRecord now timeout record⟩
    exact (HashMap.lookup_mapValues ..).trans (by rw [found]; rfl)
  | _ => exact ⟨record, by rwa [registry_of_move (move_of_step taken) rfl], kept⟩

/-- A worker that the master does not hear from is disconnected by the first sweep for which its
last heartbeat is too old, and by nothing else; it is then not allocated. -/
theorem evicted_iff_overdue (found : state.registry.workers.lookup workerId = some record)
    (silent : ∀ action ∈ actions, action.hears workerId = false)
    (executed : execute (step params) state actions = some later) :
    ∃ after, later.registry.workers.lookup workerId = some after ∧
      Judged record after (actions.any (·.evicts record.lastHeartbeat)) ∧
        (actions.any (·.evicts record.lastHeartbeat) = true →
          workerId ∉ later.registry.readyWorkers) := by
  have judged :
      ∃ after, later.registry.workers.lookup workerId = some after ∧
        Judged record after (actions.any (·.evicts record.lastHeartbeat)) := by
    induction actions generalizing state record with
    | nil =>
      cases executed
      exact ⟨record, found, rfl, rfl⟩
    | cons action rest continues =>
      obtain ⟨next, taken, others⟩ := execute_cons_eq_some_iff.mp executed
      obtain ⟨quiet, silence⟩ := List.forall_mem_cons.mp silent
      obtain ⟨middle, present, first⟩ := judged_of_step found quiet taken
      obtain ⟨after, there, second⟩ := continues present silence others
      rw [first.lastHeartbeat] at second
      exact ⟨after, there, first.trans second⟩
  obtain ⟨after, there, verdict⟩ := judged
  refine ⟨after, there, verdict, fun evicted ready => ?_⟩
  obtain ⟨other, present, free⟩ := (Registry.mem_readyWorkers_iff _ _).mp ready
  cases present.symm.trans there
  have status := verdict.status
  rw [evicted] at status
  simp [Registry.allocatable, status] at free

def silence : List (MasterAction Nat) :=
  [.sweep 3000 3000, .openStream, .sweep 3001 3000, .watchCommands "w"]

/-- The second of two sweeps is the first that comes too late, and a new stream does not help. -/
theorem evicted_iff_overdue_sample :
    ∃ (state later : MasterState Nat) (after : WorkerRecord),
      execute (step .sample) new (MasterAction.enrol "w") = some state ∧
        execute (step .sample) state silence = some later ∧
          later.registry.workers.lookup "w" = some after ∧ after.status = .disconnected ∧
            "w" ∉ later.registry.readyWorkers := by
  have run :
      (execute (step .sample) (new : MasterState Nat) (MasterAction.enrol "w")).any (fun state =>
        ((state.registry.workers.lookup "w").map WorkerRecord.lastHeartbeat = some 0) &&
          (execute (step .sample) state silence).isSome) = true := by decide +kernel
  obtain ⟨state, made, holds⟩ := (Option.any_eq_true _ _).mp run
  obtain ⟨known, runs⟩ := (Bool.and_eq_true _ _).mp holds
  obtain ⟨record, found, heard⟩ := Option.map_eq_some_iff.mp (of_decide_eq_true known)
  obtain ⟨later, executed⟩ := Option.isSome_iff_exists.mp runs
  obtain ⟨after, there, verdict, absent⟩ :=
    evicted_iff_overdue found (by decide : ∀ action ∈ silence, action.hears "w" = false) executed
  have evicted : silence.any (·.evicts record.lastHeartbeat) = true := by
    rw [heard]
    decide
  exact
    ⟨state, later, after, made, executed, there, by simpa [evicted] using verdict.status,
      absent evicted⟩

end MasterState

end Strobengine.Distributed.Master
