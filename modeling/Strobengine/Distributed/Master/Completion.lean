import Strobengine.Distributed.Master.Ownership

/-!
# When a run counts as complete

`mark_telemetry_done` marks the worker of any telemetry stream that closes while a run is active:
it asks neither whether the worker was allocated nor whether the stream carried anything of this
run.
-/

namespace Strobengine.Distributed.Master

open Rust Foundations

namespace TelemetryStream

variable {Count : Type}

def isClosed (stream : TelemetryStream Count) : Bool :=
  match stream.phase with
  | .closed => true
  | _ => false

def carries (stream : TelemetryStream Count) (runId : String) : Bool :=
  stream.received.any (fun batch => batch.testRunId = runId)

end TelemetryStream

theorem mem_of_enough {allocated : List String} {done : Finset String} (distinct : allocated.Nodup)
    (subset : ∀ workerId ∈ done, workerId ∈ allocated) (enough : allocated.length ≤ done.card) :
    ∀ workerId ∈ allocated, workerId ∈ done := by
  have all : done = allocated.toFinset := by
    apply Finset.eq_of_subset_of_card_le
    · exact fun workerId member => List.mem_toFinset.mpr (subset workerId member)
    · rw [List.toFinset_card_of_nodup distinct]
      exact enough
  intro workerId member
  rw [all]
  exact List.mem_toFinset.mpr member

namespace MasterState

variable {Count : Type} [Counter Count]

section Closed

omit [Counter Count]

/-- A telemetry stream of this worker that carried a batch of this run has closed. -/
def StreamClosed (state : MasterState Count) (workerId runId : String) : Prop :=
  ∃ stream ∈ state.streams,
    stream.workerId = workerId ∧ stream.carries runId = true ∧ stream.isClosed = true
  deriving Decidable

def AllClosed (state : MasterState Count) (run : ActiveRun) : Prop :=
  ∀ workerId ∈ run.allocated, StreamClosed state workerId run.runId
  deriving Decidable

/-- A stream that closes while a run is active is one of an allocated worker, and it
carried a batch of that run. -/
def ownMark (state : MasterState Count) : MasterAction Count → Prop
  | .stream index .mark =>
    ∀ run ∈ state.run, ∀ stream ∈ state.streams[index]?,
      stream.workerId ≠ "" → stream.workerId ∈ run.allocated ∧ stream.carries run.runId = true
  | _ => True

instance (state : MasterState Count) (action : MasterAction Count) :
    Decidable (state.ownMark action) := by
  unfold ownMark
  rcases action with _ | _ | _ | _ | _ | ⟨_, action⟩ | _
  case stream => rcases action with _ | _ <;> dsimp only <;> infer_instance
  all_goals exact instDecidableTrue

/-- Runs are installed one at a time, and streams close for the run they belong to. -/
def completionGuard (state : MasterState Count) (action : MasterAction Count) : Prop :=
  state.soleInstall action ∧ state.ownMark action
  deriving Decidable

variable {state next : MasterState Count}

def KeepsClosed (state next : MasterState Count) : Prop :=
  ∀ workerId runId, StreamClosed state workerId runId → StreamClosed next workerId runId

theorem KeepsClosed.of_eq (same : next.streams = state.streams) : KeepsClosed state next := by
  intro workerId runId closed
  unfold StreamClosed
  rw [same]
  exact closed

theorem KeepsClosed.of_concat
    {stream : TelemetryStream Count} (changed : next.streams = state.streams ++ [stream]) :
    KeepsClosed state next := by
  intro workerId runId closed
  obtain ⟨present, member, facts⟩ := closed
  refine ⟨present, ?_, facts⟩
  rw [changed]
  exact List.mem_append_left _ member

theorem KeepsClosed.of_set {index : Nat} {stream moved : TelemetryStream Count}
    (found : state.streams[index]? = some stream) (unclosed : stream.isClosed = false)
    (changed : next.streams = state.streams.set index moved) :
    KeepsClosed state next := by
  intro workerId runId closed
  obtain ⟨present, member, facts⟩ := closed
  refine ⟨present, ?_, facts⟩
  rw [changed]
  exact mem_set_of_selected found unclosed member facts.2.2

theorem AllClosed.mono {before after : ActiveRun} (closed : AllClosed state before)
    (kept : KeepsClosed state next) (same : before.SameRun after) :
    AllClosed next after := by
  intro workerId member
  rw [← same.allocated] at member
  rw [← same.runId]
  exact kept _ _ (closed workerId member)

end Closed

section Invariant

omit [Counter Count]

variable {state next : MasterState Count}

structure CallCompleted (state : MasterState Count) (call : StartCall Count) : Prop where
  allocated : call.phase = .installing → call.allocated.Nodup
  exited :
    call.phase = .taking → call.waitExit ≠ some .deadline →
      ∀ run, state.run = some run → AllClosed state run

structure RunCompleted (state : MasterState Count) (run : ActiveRun) : Prop where
  distinct : run.allocated.Nodup
  done :
    ∀ workerId ∈ run.telemetryDone, workerId ∈ run.allocated ∧ StreamClosed state workerId run.runId

def RemovalCompleted (state : MasterState Count) (removal : Removal) : Prop :=
  removal.exit ≠ none → removal.exit ≠ some .deadline → AllClosed state removal.run
  deriving Decidable

structure Completed (state : MasterState Count) : Prop where
  calls : ∀ (index : Nat) call, state.starts[index]? = some call → CallCompleted state call
  slot : ∀ run, state.run = some run → RunCompleted state run
  removals : ∀ removal ∈ state.removals, RemovalCompleted state removal

theorem RunCompleted.allClosed {run : ActiveRun} (completed : RunCompleted state run)
    (enough : run.allocated.length ≤ run.telemetryDone.card) :
    AllClosed state run := by
  intro workerId member
  apply (completed.done workerId _).2
  apply mem_of_enough completed.distinct _ enough workerId member
  exact fun marked listed => (completed.done marked listed).1

theorem CallCompleted.frame {call : StartCall Count} (completed : CallCompleted state call)
    (closed : KeepsClosed state next) (slot : call.phase.holding = true → KeepsSlot state next) :
    CallCompleted next call where
  allocated := completed.allocated
  exited := by
    intro phase early run active
    obtain ⟨before, present, same⟩ := slot (by rw [phase]; rfl) run active
    exact (completed.exited phase early before present).mono closed same

theorem CallCompleted.of_phase {call : StartCall Count}
    (allocating : call.phase ≠ .installing) (taking : call.phase ≠ .taking) :
    CallCompleted state call :=
  ⟨fun phase => absurd phase allocating, fun phase => absurd phase taking⟩

theorem RunCompleted.frame {before after : ActiveRun} (completed : RunCompleted state before)
    (closed : KeepsClosed state next) (same : before.SameRun after)
    (done : after.telemetryDone = before.telemetryDone) :
    RunCompleted next after where
  distinct := by
    rw [← same.allocated]
    exact completed.distinct
  done := by
    intro workerId member
    rw [done] at member
    obtain ⟨allocated, present⟩ := completed.done workerId member
    rw [← same.allocated, ← same.runId]
    exact ⟨allocated, closed _ _ present⟩

theorem RemovalCompleted.frame {removal : Removal}
    (completed : RemovalCompleted state removal) (closed : KeepsClosed state next) :
    RemovalCompleted next removal := by
  intro left early
  exact (completed left early).mono closed ⟨rfl, rfl, rfl⟩

theorem Completed.environment (completed : Completed state) (starts : next.starts = state.starts)
    (removals : next.removals = state.removals) (run : next.run = state.run ∨ next.run = none)
    (closed : KeepsClosed state next) :
    Completed next where
  calls := by
    intro index call found
    rw [starts] at found
    apply (completed.calls index call found).frame closed
    intro _
    rcases run with same | free
    · exact .of_eq same
    · exact .of_none free
  slot := by
    intro active found
    rcases run with same | free
    · rw [same] at found
      exact (completed.slot active found).frame closed ⟨rfl, rfl, rfl⟩ rfl
    · rw [free] at found
      cases found
  removals := by
    rw [removals]
    exact fun removal member => (completed.removals removal member).frame closed

theorem Completed.call {index : Nat} {moved : StartCall Count} (completed : Completed state)
    (starts : next.starts = state.starts.set index moved) (streams : next.streams = state.streams)
    (run : next.run = state.run ∨ next.run = none) (movedCompleted : CallCompleted state moved)
    (removals :
      ∀ removal ∈ next.removals, removal ∈ state.removals ∨ RemovalCompleted state removal) :
    Completed next where
  calls := by
    have slot : KeepsSlot state next := by
      rcases run with same | free
      · exact .of_eq same
      · exact .of_none free
    rw [starts]
    apply forall_set
    · intro position present there
      exact (completed.calls position present there).frame (.of_eq streams) (fun _ => slot)
    · exact movedCompleted.frame (.of_eq streams) (fun _ => slot)
  slot := by
    intro active found
    rcases run with same | free
    · rw [same] at found
      exact (completed.slot active found).frame (.of_eq streams) ⟨rfl, rfl, rfl⟩ rfl
    · rw [free] at found
      cases found
  removals := by
    intro removal member
    rcases removals removal member with old | new
    · exact (completed.removals removal old).frame (.of_eq streams)
    · exact new.frame (.of_eq streams)

end Invariant

section Steps

variable {params : MasterParams} {state next : MasterState Count}

omit [Counter Count] in
theorem Completed.local {index : Nat} {moved : StartCall Count} (completed : Completed state)
    (starts : next.starts = state.starts.set index moved) (streams : next.streams = state.streams)
    (run : next.run = state.run) (removals : next.removals = state.removals)
    (allocating : moved.phase ≠ .installing) (taking : moved.phase ≠ .taking) :
    Completed next := by
  apply completed.call starts streams (Or.inl run) (.of_phase allocating taking)
  rw [removals]
  exact fun removal member => Or.inl member

theorem Completed.install {index : Nat} {call : StartCall Count} (runId : String)
    (completed : Completed state) (found : state.starts[index]? = some call)
    (phase : call.phase = .installing) (sole : ∀ (position : Nat) other,
      state.starts[position]? = some other → other.phase.holding = false) :
    Completed (state.install params index call runId) where
  calls := by
    apply forall_set
    · intro position other there
      refine (completed.calls position other there).frame (.of_eq rfl) ?_
      intro holds
      rw [sole position other there] at holds
      cases holds
    · exact .of_phase (fun phase => by cases phase) (fun phase => by cases phase)
  slot := by
    intro run active
    cases active
    refine ⟨(completed.calls index call found).allocated phase, ?_⟩
    intro workerId member
    exact absurd member (Finset.notMem_empty workerId)
  removals := fun removal member => (completed.removals removal member).frame (.of_eq rfl)

theorem Completed.of_start {index : Nat} {call : StartCall Count} {action : StartAction}
    (completed : Completed state) (found : state.starts[index]? = some call)
    (sole :
      state.run = none → call.phase.installs = true →
        ∀ (position : Nat) other,
          state.starts[position]? = some other → other.phase.holding = false)
    (move : StartMove params state index call action next) :
    Completed next := by
  cases move with
  | waitOn => exact completed
  | allocate now allocated phase decided =>
    have distinct := (Registry.allocation_of_allocate decided).distinct
    exact
      completed.call rfl rfl (Or.inl rfl) ⟨fun _ => distinct, fun phase => by cases phase⟩
        (fun removal member => Or.inl member)
  | install now phase free => exact completed.install _ found phase (sole free (by rw [phase]; rfl))
  | abandon now phase =>
    refine
      completed.call rfl rfl (Or.inr rfl)
        (.of_phase (fun phase => by cases phase) (fun phase => by cases phase)) ?_
    intro removal member
    rcases List.mem_append.mp member with old | new
    · exact Or.inl old
    · obtain ⟨run, active, rfl⟩ := Option.map_eq_some_iff.mp (Option.mem_toList.mp new)
      exact Or.inr (fun left => absurd rfl left)
  | vanished now phase free =>
    refine
      completed.call rfl rfl (Or.inl rfl) ⟨(fun phase => by cases phase), ?_⟩
        (fun removal member => Or.inl member)
    intro _ _ run active
    rw [free] at active
    cases active
  | complete now run phase active done =>
    refine
      completed.call rfl rfl (Or.inl rfl) ⟨(fun phase => by cases phase), ?_⟩
        (fun removal member => Or.inl member)
    intro _ _ other present
    rw [active] at present
    cases present
    exact (completed.slot run active).allClosed done
  | deadline phase =>
    refine
      completed.call rfl rfl (Or.inl rfl) ⟨(fun phase => by cases phase), ?_⟩
        (fun removal member => Or.inl member)
    exact fun _ early => absurd rfl early
  | take now run phase =>
    refine
      completed.call rfl rfl (Or.inr rfl)
        (.of_phase (fun phase => by cases phase) (fun phase => by cases phase)) ?_
    intro removal member
    rcases List.mem_append.mp member with old | new
    · exact Or.inl old
    · obtain ⟨taken, present, rfl⟩ := Option.map_eq_some_iff.mp (Option.mem_toList.mp new)
      exact
        Or.inr (fun _ early =>
          (completed.calls index call found).exited phase early taken present)
  | _ =>
    exact
      completed.local rfl rfl rfl rfl (fun phase => by cases phase)
        (fun phase => by cases phase)

omit [Counter Count] in
theorem Completed.mark {index : Nat} {stream : TelemetryStream Count} (completed : Completed state)
    (found : state.streams[index]? = some stream) (phase : stream.phase = .marking)
    (own :
      ∀ run, state.run = some run → stream.workerId ≠ "" →
        stream.workerId ∈ run.allocated ∧ stream.carries run.runId = true) :
    Completed
      ((state.markTelemetryDone stream.workerId).setStream index
        { stream with phase := .closed }) := by
  have closed :
      KeepsClosed state
        ((state.markTelemetryDone stream.workerId).setStream index
          { stream with phase := .closed }) := by
    apply KeepsClosed.of_set found _ rfl
    rw [TelemetryStream.isClosed, phase]
  have slot := keepsSlot_markTelemetryDone state stream.workerId
  refine ⟨?_, ?_, ?_⟩
  · intro position call there
    exact (completed.calls position call there).frame closed (fun _ => slot)
  · intro run active
    by_cases anonymous : stream.workerId = ""
    · have same : state.run = some run := by
        rw [← active]
        exact (if_pos anonymous).symm
      exact (completed.slot run same).frame closed ⟨rfl, rfl, rfl⟩ rfl
    · have marked := (if_neg anonymous).symm.trans active
      obtain ⟨before, present, rfl⟩ := Option.map_eq_some_iff.mp marked
      have known := completed.slot before present
      obtain ⟨allocated, carried⟩ := own before present anonymous
      refine ⟨known.distinct, ?_⟩
      intro workerId member
      rcases Finset.mem_insert.mp member with same | old
      · subst same
        exact
          ⟨allocated, { stream with phase := .closed },
            List.mem_of_getElem? (getElem?_set_of_some _ found), rfl, carried, rfl⟩
      · obtain ⟨listed, earlier⟩ := known.done workerId old
        exact ⟨listed, closed _ _ earlier⟩
  · exact fun removal member => (completed.removals removal member).frame closed

theorem Completed.of_stream
    {index : Nat} {stream : TelemetryStream Count} {action : StreamAction Count}
    (completed : Completed state) (found : state.streams[index]? = some stream)
    (own : state.ownMark (.stream index action))
    (move : StreamMove state index stream action next) :
    Completed next := by
  cases move with
  | mark phase =>
    apply completed.mark found phase
    intro run active
    exact own run active stream found
  | receive batch phase | lookup batch phase | discard batch phase
  | forward batch pipeline phase | halfClose phase | fail phase =>
    exact
      completed.environment rfl rfl (Or.inl rfl)
        (.of_set found (by rw [TelemetryStream.isClosed, phase]) rfl)

theorem Completed.of_move {action : MasterAction Count} (completed : Completed state)
    (guarded : state.completionGuard action) (move : Move params state action next) :
    Completed next := by
  cases move with
  | beginStart =>
    refine ⟨?_, ?_, ?_⟩
    · apply forall_concat
      · intro position call there
        exact (completed.calls position call there).frame (.of_eq rfl) (fun _ => .of_eq rfl)
      · exact .of_phase (fun phase => by cases phase) (fun phase => by cases phase)
    · intro run active
      exact (completed.slot run active).frame (.of_eq rfl) ⟨rfl, rfl, rfl⟩ rfl
    · exact fun removal member => (completed.removals removal member).frame (.of_eq rfl)
  | start index action call next found move =>
    exact completed.of_start found (none_holding_of_soleInstall found guarded.1) move
  | abort index call next found move =>
    cases move with
    | take => exact completed.environment rfl rfl (Or.inr rfl) (.of_eq rfl)
    | _ => exact completed.environment rfl rfl (Or.inl rfl) (.of_eq rfl)
  | openStream => exact completed.environment rfl rfl (Or.inl rfl) (.of_concat rfl)
  | stream index action stream next found move => exact completed.of_stream found guarded.2 move
  | acknowledge response =>
    have slot := keepsSlot_recordAck state response
    refine ⟨?_, ?_, ?_⟩
    · intro index call found
      exact (completed.calls index call found).frame (.of_eq rfl) (fun _ => slot)
    · intro run active
      obtain ⟨before, present, rfl⟩ := Option.map_eq_some_iff.mp active
      have known := completed.slot before present
      split
      · exact known.frame (.of_eq rfl) ⟨rfl, rfl, rfl⟩ rfl
      · exact known.frame (.of_eq rfl) ⟨rfl, rfl, rfl⟩ rfl
    · exact fun removal member => (completed.removals removal member).frame (.of_eq rfl)
  | _ => exact completed.environment rfl rfl (Or.inl rfl) (.of_eq rfl)

omit [Counter Count] in
theorem completed_new : Completed (new : MasterState Count) := by
  refine ⟨?_, ?_, ?_⟩
  · intro index call found
    simp [new] at found
  · intro run active
    cases active
  · intro removal member
    cases member

end Steps

/-- When streams close only for the active run they belong to, a run is taken out of the
slot before its deadline only after every allocated worker has closed a stream that
carried batches of this run. -/
theorem finalized_only_if_closed (params : MasterParams) (state : MasterState Count)
    (reached : Reaches (step params) completionGuard new state) :
    ∀ removal ∈ state.removals, RemovalCompleted state removal := by
  have completed : Completed state :=
    reached.invariant Completed
      (fun _ _ _ completed guarded taken => completed.of_move guarded (move_of_step taken))
      completed_new
  exact completed.removals

omit [Counter Count] in
def finalizedRuns (state : MasterState Count) : List (String × Option WaitExit) :=
  state.removals.map (fun removal => (removal.run.runId, removal.exit))

open MasterAction (enrol advance carry)

theorem finalized_only_if_closed_sample :
    ∃ state : MasterState Nat,
      Reaches (step .sample) completionGuard new state ∧
        state.finalizedRuns = [("run-a", some .complete)] ∧
        ∀ removal ∈ state.removals, RemovalCompleted state removal :=
  Reaches.exists_and_of_executeChecked
    (enrol "v" ++ enrol "w" ++ [MasterAction.beginStart (sampleConfig "run-a") 2] ++
      advance 0 7 ++ [MasterAction.openStream, .openStream] ++
      carry 0 (sampleBatch "w" "run-a") ++ carry 1 (sampleBatch "v" "run-a") ++
      [MasterAction.stream 0 .halfClose, .stream 1 .halfClose, .stream 1 .mark, .stream 0 .mark] ++
      advance 0 2)
    (by decide +kernel) (fun state reached _ => finalized_only_if_closed .sample state reached)

/-- The first run ends at its deadline while a stream of it is still open. When that
stream closes, it completes the second run, of which no batch has arrived. -/
theorem finalized_by_stale_stream_sample :
    ∃ state : MasterState Nat,
      Reaches (step .sample) soleInstall new state ∧ state.aborts = [] ∧
        state.finalizedRuns = [("run-a", some .deadline), ("run-b", some .complete)] ∧
        (∀ stream ∈ state.streams, stream.carries "run-b" = false) ∧
        ¬ ∀ removal ∈ state.removals, RemovalCompleted state removal :=
  Reaches.exists_of_executeChecked
    (enrol "w" ++ [MasterAction.beginStart (sampleConfig "run-a") 1] ++ advance 0 5 ++
      [MasterAction.openStream] ++ carry 0 (sampleBatch "w" "run-a") ++ advance 0 1 ++
      [MasterAction.start 0 .timeout] ++ advance 0 1 ++
      [MasterAction.beginStart (sampleConfig "run-b") 1] ++ advance 1 5 ++
      [MasterAction.stream 0 .halfClose, .stream 0 .mark] ++ advance 1 2)
    (by decide +kernel)

end MasterState

end Strobengine.Distributed.Master
