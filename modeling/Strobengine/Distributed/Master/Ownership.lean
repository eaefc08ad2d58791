import Strobengine.Distributed.Master.Moves
import Strobengine.Foundations.Population

/-!
# Whose run a `start_run` call finalizes

The wait loop and both `take` calls of `start_run` never compare run ids. An `abort` frees the
slot, so another call can install its run while the first one still waits, and the first one then
takes that run.
-/

namespace Strobengine.Distributed.Master

open Rust Foundations

namespace StartPhase

variable {Count : Type}

def unstarted : StartPhase Count → Bool
  | .waitingBarrier => true
  | .installing => true
  | _ => false

def installs : StartPhase Count → Bool
  | .installing => true
  | _ => false

def holding : StartPhase Count → Bool
  | .broadcasting _ _ => true
  | .sendingStart _ _ _ _ => true
  | .abandoning => true
  | .checking => true
  | .pausing => true
  | .taking => true
  | _ => false

def removed : StartPhase Count → Option ActiveRun
  | .finalizing run => some run
  | .awaitingReport run => some run
  | .closing run _ => some run
  | _ => none

def report : StartPhase Count → Option (GlobalReport Count)
  | .closing _ report => some report
  | .returned (.ok report) => some report
  | _ => none

theorem of_holding {phase : StartPhase Count} (holds : phase.holding = true) :
    phase.unstarted = false ∧ phase.removed = none ∧ phase.report = none := by
  cases phase <;> first | exact ⟨rfl, rfl, rfl⟩ | cases holds

end StartPhase

/-- The two are states of one run: its pipeline, id and allocation never change. -/
structure ActiveRun.SameRun (before after : ActiveRun) : Prop where
  pipeline : before.pipeline = after.pipeline
  runId : before.runId = after.runId
  allocated : before.allocated = after.allocated

/-- The reports that a pipeline task replies with are of the run it was spawned with. -/
def PipelineTask.RepliesOwn {Count : Type} (task : PipelineTask Count) : Prop :=
  ∀ report, task.reply = some report → report.testRunId = task.pipeline.runId

namespace MasterState

variable {Count : Type} [Counter Count]

def pipelineName (state : MasterState Count) (index : Nat) : Option String :=
  (state.pipelines[index]?).map (fun task => task.pipeline.runId)

/-- A call installs its run only while no other call is between its own installation and
its `take`. -/
def soleInstall (state : MasterState Count) : MasterAction Count → Prop
  | .start index _ =>
    state.run = none →
      (state.starts[index]?).any (fun call => call.phase.installs) = true →
        state.starts.any (fun call => call.phase.holding) = false
  | _ => True

instance (state : MasterState Count) (action : MasterAction Count) :
    Decidable (state.soleInstall action) := by
  unfold soleInstall
  rcases action with _ | _ <;> dsimp only <;> infer_instance

structure CallOwned (state : MasterState Count) (call : StartCall Count) : Prop where
  unstarted : call.phase.unstarted = true → call.installed = none
  named :
    ∀ pipeline,
      call.installed = some pipeline → state.pipelineName pipeline = some call.config.testRunId
  holding :
    call.phase.holding = true →
      ∃ pipeline,
        call.installed = some pipeline ∧ ∀ run, state.run = some run → run.pipeline = pipeline
  removed : ∀ run, call.phase.removed = some run → call.installed = some run.pipeline
  reported : ∀ report, call.phase.report = some report → report.testRunId = call.config.testRunId

structure Owned (state : MasterState Count) : Prop where
  calls : ∀ (index : Nat) call, state.starts[index]? = some call → CallOwned state call
  slot : ∀ run, state.run = some run → state.pipelineName run.pipeline = some run.runId
  replies : ∀ (index : Nat) task, state.pipelines[index]? = some task → task.RepliesOwn
  removals :
    ∀ removal ∈ state.removals,
      ∃ call, state.starts[removal.call]? = some call ∧ call.installed = some removal.run.pipeline

section Kept

omit [Counter Count]

variable {state next : MasterState Count}

def KeepsNames (state next : MasterState Count) : Prop :=
  ∀ index name, state.pipelineName index = some name → next.pipelineName index = some name

def KeepsSlot (state next : MasterState Count) : Prop :=
  ∀ run, next.run = some run → ∃ before, state.run = some before ∧ before.SameRun run

theorem KeepsNames.of_eq (same : next.pipelines = state.pipelines) : KeepsNames state next := by
  intro index name named
  rw [pipelineName, same]
  exact named

theorem KeepsSlot.of_eq (same : next.run = state.run) : KeepsSlot state next := by
  intro run active
  rw [same] at active
  exact ⟨run, active, rfl, rfl, rfl⟩

theorem KeepsSlot.of_none (free : next.run = none) : KeepsSlot state next := by
  intro run active
  rw [free] at active
  cases active

theorem KeepsSlot.of_map {change : ActiveRun → ActiveRun}
    (changed : next.run = state.run.map change) (same : ∀ run, ActiveRun.SameRun run (change run)) :
    KeepsSlot state next := by
  intro run active
  rw [changed] at active
  obtain ⟨before, present, rfl⟩ := Option.map_eq_some_iff.mp active
  exact ⟨before, present, same before⟩

theorem KeepsNames.of_set {index : Nat} {task moved : PipelineTask Count}
    (found : state.pipelines[index]? = some task)
    (changed : next.pipelines = state.pipelines.set index moved)
    (same : moved.pipeline.runId = task.pipeline.runId) :
    KeepsNames state next := by
  intro position name named
  obtain ⟨present, there, rfl⟩ := Option.map_eq_some_iff.mp named
  obtain ⟨after, moved, kept⟩ :=
    exists_set_of_some
      (fun before after => after.pipeline.runId = before.pipeline.runId)
      (fun _ => rfl) found same there
  rw [pipelineName, changed, moved]
  exact congrArg some kept

theorem KeepsNames.of_send {index : Nat} {command : PipelineCommand Count}
    (changed : next.pipelines = (state.sendPipeline index command).pipelines) :
    KeepsNames state next := by
  intro position name named
  obtain ⟨task, there, rfl⟩ := Option.map_eq_some_iff.mp named
  rw [pipelineName, changed, getElem?_sendPipeline, there]
  split
  · simp
  · simp

theorem KeepsNames.of_concat
    {task : PipelineTask Count} (changed : next.pipelines = state.pipelines ++ [task]) :
    KeepsNames state next := by
  intro index name named
  obtain ⟨present, there, rfl⟩ := Option.map_eq_some_iff.mp named
  rw [pipelineName, changed, getElem?_concat_of_some task there]
  rfl

variable {call : StartCall Count}

theorem CallOwned.frame (owned : CallOwned state call)
    (names : KeepsNames state next) (slot : call.phase.holding = true → KeepsSlot state next) :
    CallOwned next call where
  unstarted := owned.unstarted
  named := fun pipeline installed => names _ _ (owned.named pipeline installed)
  holding := by
    intro holds
    obtain ⟨pipeline, installed, own⟩ := owned.holding holds
    refine ⟨pipeline, installed, ?_⟩
    intro run active
    obtain ⟨before, present, same⟩ := slot holds run active
    rw [← same.pipeline]
    exact own before present
  removed := owned.removed
  reported := owned.reported

/-! ## Steps of one call -/

theorem CallOwned.hold (owned : CallOwned state call)
    (holds : call.phase.holding = true) (waitExit : Option WaitExit) {phase : StartPhase Count}
    (holdsOn : phase.holding = true) :
    CallOwned state { call with waitExit, phase } where
  unstarted := by
    intro early
    rw [(StartPhase.of_holding holdsOn).1] at early
    cases early
  named := owned.named
  holding := fun _ => owned.holding holds
  removed := by
    intro run taken
    rw [(StartPhase.of_holding holdsOn).2.1] at taken
    cases taken
  reported := by
    intro report returned
    rw [(StartPhase.of_holding holdsOn).2.2] at returned
    cases returned

theorem CallOwned.fail (owned : CallOwned state call) (error : MasterError) :
    CallOwned state { call with phase := .returned (.error error) } where
  unstarted := by
    intro early
    cases early
  named := owned.named
  holding := by
    intro holds
    cases holds
  removed := by
    intro run taken
    cases taken
  reported := by
    intro report returned
    cases returned

theorem CallOwned.allocate (owned : CallOwned state call)
    (phase : call.phase = .waitingBarrier) (allocated : List String) :
    CallOwned state { call with allocated, phase := .installing } where
  unstarted := fun _ => owned.unstarted (by rw [phase]; rfl)
  named := owned.named
  holding := by
    intro holds
    cases holds
  removed := by
    intro run taken
    cases taken
  reported := by
    intro report returned
    cases returned

theorem CallOwned.take {run : ActiveRun} (owned : CallOwned state call)
    (holds : call.phase.holding = true) (active : state.run = some run) :
    call.installed = some run.pipeline := by
  obtain ⟨pipeline, installed, own⟩ := owned.holding holds
  rw [installed, own run active]

theorem CallOwned.goOn {run : ActiveRun} (owned : CallOwned state call) (phase : StartPhase Count)
    (own : call.installed = some run.pipeline)
    (taken : phase.removed = some run ∨ phase.removed = none)
    (late : phase.unstarted = false) (released : phase.holding = false)
    (reported : ∀ report, phase.report = some report → report.testRunId = call.config.testRunId) :
    CallOwned state { call with phase } where
  unstarted := by
    intro early
    rw [late] at early
    cases early
  named := owned.named
  holding := by
    intro holds
    rw [released] at holds
    cases holds
  removed := by
    intro other removed
    rcases taken with same | none
    · rw [same] at removed
      cases removed
      exact own
    · rw [none] at removed
      cases removed
  reported := reported

end Kept

section Steps

variable {params : MasterParams} {state next : MasterState Count}

omit [Counter Count] in
theorem Owned.environment (owned : Owned state) (starts : next.starts = state.starts)
    (removals : next.removals = state.removals) (names : KeepsNames state next)
    (slot : KeepsSlot state next)
    (replies : ∀ (index : Nat) task, next.pipelines[index]? = some task → task.RepliesOwn) :
    Owned next where
  calls := by
    intro index call found
    rw [starts] at found
    exact (owned.calls index call found).frame names (fun _ => slot)
  slot := by
    intro run active
    obtain ⟨before, present, same⟩ := slot run active
    have named := names _ _ (owned.slot before present)
    rw [same.pipeline, same.runId] at named
    exact named
  replies := replies
  removals := by
    rw [starts, removals]
    exact owned.removals

omit [Counter Count] in
theorem Owned.call {index : Nat} {call moved : StartCall Count} (owned : Owned state)
    (found : state.starts[index]? = some call) (starts : next.starts = state.starts.set index moved)
    (installed : moved.installed = call.installed) (movedOwned : CallOwned state moved)
    (names : KeepsNames state next) (slot : KeepsSlot state next)
    (replies : ∀ (index : Nat) task, next.pipelines[index]? = some task → task.RepliesOwn)
    (removals :
      ∀ removal ∈ next.removals,
        removal ∈ state.removals ∨
          removal.call = index ∧ call.installed = some removal.run.pipeline) :
    Owned next where
  calls := by
    rw [starts]
    apply forall_set
    · intro position present there
      exact (owned.calls position present there).frame names (fun _ => slot)
    · exact movedOwned.frame names (fun _ => slot)
  slot := by
    intro run active
    obtain ⟨before, present, same⟩ := slot run active
    have named := names _ _ (owned.slot before present)
    rw [same.pipeline, same.runId] at named
    exact named
  replies := replies
  removals := by
    intro removal member
    rw [starts]
    rcases removals removal member with old | ⟨same, own⟩
    · obtain ⟨remover, there, own⟩ := owned.removals removal old
      obtain ⟨after, present, kept⟩ :=
        exists_set_of_some (fun before after => after.installed = before.installed)
          (fun _ => rfl) found installed there
      exact ⟨after, present, kept.trans own⟩
    · rw [same]
      exact ⟨moved, getElem?_set_of_some moved found, installed.trans own⟩

variable {index : Nat} {call moved : StartCall Count}

omit [Counter Count] in
theorem Owned.local (owned : Owned state)
    (found : state.starts[index]? = some call) (starts : next.starts = state.starts.set index moved)
    (installed : moved.installed = call.installed) (movedOwned : CallOwned state moved)
    (pipelines : next.pipelines = state.pipelines) (run : next.run = state.run)
    (removals : next.removals = state.removals) :
    Owned next := by
  apply owned.call found starts installed movedOwned (.of_eq pipelines) (.of_eq run)
  · rw [pipelines]
    exact owned.replies
  · rw [removals]
    exact fun removal member => Or.inl member

omit [Counter Count] in
theorem Owned.hold {waitExit : Option WaitExit}
    {phase : StartPhase Count} (owned : Owned state) (found : state.starts[index]? = some call)
    (holds : call.phase.holding = true) (holdsOn : phase.holding = true)
    (starts :
      next.starts = state.starts.set index { call with waitExit, phase })
    (pipelines : next.pipelines = state.pipelines) (run : next.run = state.run)
    (removals : next.removals = state.removals) :
    Owned next :=
  owned.local found starts rfl ((owned.calls index call found).hold holds waitExit holdsOn)
    pipelines run removals

omit [Counter Count] in
theorem Owned.replies_of_send
    (owned : Owned state) (index : Nat) (command : PipelineCommand Count) :
    ∀ (position : Nat) task,
      (state.sendPipeline index command).pipelines[position]? = some task → task.RepliesOwn := by
  intro position task found
  rw [getElem?_sendPipeline] at found
  obtain ⟨before, present, rfl⟩ := Option.map_eq_some_iff.mp found
  have known := owned.replies position before present
  split
  · intro report replied
    rw [PipelineTask.send_reply] at replied
    rw [PipelineTask.send_pipeline]
    exact known report replied
  · exact known

theorem Owned.install (runId : String) (owned : Owned state)
    (found : state.starts[index]? = some call) (early : call.phase.unstarted = true)
    (sole : ∀ (position : Nat) other,
      state.starts[position]? = some other → other.phase.holding = false) :
    Owned (state.install params index call runId) := by
  have names : KeepsNames state (state.install params index call runId) := .of_concat rfl
  have spawned :
      (state.install params index call runId).pipelineName state.pipelines.length = some runId := by
    simp [pipelineName, MasterState.install, PipelineTask.spawn, TelemetryPipeline.new]
  refine ⟨?_, ?_, ?_, ?_⟩
  · apply forall_set
    · intro position other there
      apply (owned.calls position other there).frame names
      intro holds
      rw [sole position other there] at holds
      cases holds
    · refine ⟨?_, ?_, ?_, ?_, ?_⟩
      · intro early
        cases early
      · intro pipeline installed
        cases installed
        exact spawned
      · intro _
        refine ⟨_, rfl, ?_⟩
        intro run active
        cases active
        rfl
      · intro run taken
        cases taken
      · intro report returned
        cases returned
  · intro run active
    cases active
    exact spawned
  · apply forall_concat owned.replies
    intro report replied
    cases replied
  · intro removal member
    obtain ⟨remover, there, own⟩ := owned.removals removal member
    obtain ⟨after, present, kept⟩ :=
      exists_set_of_some
        (fun before after =>
          ∀ pipeline, before.installed = some pipeline → after.installed = some pipeline)
        (fun _ _ same => same) found
        (fun pipeline installed => by
          rw [(owned.calls index call found).unstarted early] at installed
          cases installed)
        there
    exact ⟨after, present, kept _ own⟩

omit [Counter Count] in
theorem Owned.take {exit : Option WaitExit}
    (owned : Owned state) (found : state.starts[index]? = some call)
    (holds : call.phase.holding = true) (installed : moved.installed = call.installed)
    (movedOwned : CallOwned state moved) :
    Owned ((state.takeRun index exit).setStart index moved) := by
  refine owned.call found rfl installed movedOwned (.of_eq rfl) (.of_none rfl) owned.replies ?_
  intro removal member
  rcases List.mem_append.mp member with old | new
  · exact Or.inl old
  · obtain ⟨run, active, rfl⟩ := Option.map_eq_some_iff.mp (Option.mem_toList.mp new)
    exact Or.inr ⟨rfl, (owned.calls index call found).take holds active⟩

theorem Owned.of_start {action : StartAction}
    (owned : Owned state) (found : state.starts[index]? = some call)
    (sole :
      state.run = none → call.phase.installs = true →
        ∀ (position : Nat) other,
          state.starts[position]? = some other → other.phase.holding = false)
    (move : StartMove params state index call action next) :
    Owned next := by
  have own := owned.calls index call found
  cases move with
  | waitOn => exact owned
  | refuse action error => exact owned.local found rfl rfl (own.fail error) rfl rfl rfl
  | allocate now allocated phase =>
    exact owned.local found rfl rfl (own.allocate phase allocated) rfl rfl rfl
  | install now phase free =>
    have early : call.phase.unstarted = true := by rw [phase]; rfl
    exact owned.install _ found early (sole free (by rw [phase]; rfl))
  | abandon now phase =>
    have holds : call.phase.holding = true := by rw [phase]; rfl
    exact owned.take found holds rfl (own.fail _)
  | takeNone | stopped => exact owned.local found rfl rfl (own.fail _) rfl rfl rfl
  | take now run phase active =>
    have holds : call.phase.holding = true := by rw [phase]; rfl
    have mine := own.take holds active
    have kept := own.goOn (.finalizing run) mine (Or.inl rfl) rfl rfl
      (fun report reported => by cases reported)
    exact owned.take found holds rfl kept
  | finalize now run task phase =>
    have mine := own.removed run (by rw [phase]; rfl)
    have kept := own.goOn (.awaitingReport run) mine (Or.inl rfl) rfl rfl
      (fun report reported => by cases reported)
    exact owned.call found rfl rfl kept (.of_send rfl) (.of_eq rfl)
      (owned.replies_of_send run.pipeline .finalize) (fun removal member => Or.inl member)
  | reply now run task report phase there replied =>
    have mine := own.removed run (by rw [phase]; rfl)
    have named : some task.pipeline.runId = some call.config.testRunId := by
      rw [← own.named run.pipeline mine, pipelineName, there]
      rfl
    have reported : report.testRunId = call.config.testRunId :=
      (owned.replies run.pipeline task there report replied).trans (Option.some.inj named)
    have kept := own.goOn (.closing run report) mine (Or.inl rfl) rfl rfl
      (fun other same => by cases same; exact reported)
    exact owned.local found rfl rfl kept rfl rfl rfl
  | close now run report phase =>
    have mine := own.removed run (by rw [phase]; rfl)
    have reported := own.reported report (by rw [phase]; rfl)
    have kept := own.goOn (.returned (.ok report)) mine (Or.inr rfl) rfl rfl
      (fun other same => by cases same; exact reported)
    exact owned.call found rfl rfl kept (.of_send rfl) (.of_eq rfl)
      (owned.replies_of_send run.pipeline .shutdown) (fun removal member => Or.inl member)
  | _ => exact owned.hold found (by rw [‹call.phase = _›]; rfl) rfl rfl rfl rfl rfl

omit [Counter Count] in
theorem Owned.of_abort {call : AbortCall} (owned : Owned state)
    (move : AbortMove state index call next) :
    Owned next := by
  cases move with
  | take => exact owned.environment rfl rfl (.of_eq rfl) (.of_none rfl) owned.replies
  | shut run =>
    exact
      owned.environment rfl rfl (.of_send rfl) (.of_eq rfl)
        (owned.replies_of_send run.pipeline .shutdown)
  | _ => exact owned.environment rfl rfl (.of_eq rfl) (.of_eq rfl) owned.replies

omit [Counter Count] in
theorem keepsSlot_markTelemetryDone (state : MasterState Count) (workerId : String) :
    KeepsSlot state (state.markTelemetryDone workerId) := by
  by_cases anonymous : workerId = ""
  · exact .of_eq (if_pos anonymous)
  · exact .of_map (if_neg anonymous) (fun _ => ⟨rfl, rfl, rfl⟩)

omit [Counter Count] in
theorem keepsSlot_recordAck (state : MasterState Count) (response : Proto.CommandResponse) :
    KeepsSlot state (state.recordAck response) := by
  apply KeepsSlot.of_map rfl
  intro run
  split
  · exact ⟨rfl, rfl, rfl⟩
  · exact ⟨rfl, rfl, rfl⟩

theorem Owned.of_stream {stream : TelemetryStream Count} {action : StreamAction Count}
    (owned : Owned state) (move : StreamMove state index stream action next) :
    Owned next := by
  cases move with
  | forward batch pipeline =>
    exact
      owned.environment rfl rfl (.of_send rfl) (.of_eq rfl)
        (owned.replies_of_send pipeline (.batch batch))
  | mark =>
    exact
      owned.environment rfl rfl (.of_eq rfl)
        (keepsSlot_markTelemetryDone state stream.workerId) owned.replies
  | _ => exact owned.environment rfl rfl (.of_eq rfl) (.of_eq rfl) owned.replies

theorem Owned.of_pipeline {task moved : PipelineTask Count} (owned : Owned state)
    (found : state.pipelines[index]? = some task) (move : PipelineMove task moved) :
    Owned { state with pipelines := state.pipelines.set index moved } := by
  have own := owned.replies index task found
  cases move with
  | ingest batch =>
    have same := TelemetryPipeline.ingest_runId task.pipeline batch
    refine owned.environment rfl rfl (.of_set found rfl same) (.of_eq rfl) ?_
    apply forall_set owned.replies
    intro report replied
    exact (own report replied).trans same.symm
  | finalize =>
    refine owned.environment rfl rfl (.of_set found rfl rfl) (.of_eq rfl) ?_
    apply forall_set owned.replies
    intro report replied
    cases replied
    rfl
  | shutdown =>
    refine owned.environment rfl rfl (.of_set found rfl rfl) (.of_eq rfl) ?_
    exact forall_set owned.replies own

omit [Counter Count] in
theorem none_holding_of_soleInstall {action : StartAction}
    (found : state.starts[index]? = some call) (sole : state.soleInstall (.start index action)) :
    state.run = none → call.phase.installs = true →
      ∀ (position : Nat) other,
        state.starts[position]? = some other → other.phase.holding = false := by
  intro free installs position other there
  have guarded := sole free (by rw [found]; exact installs)
  rw [List.any_eq_false] at guarded
  exact Bool.eq_false_of_not_eq_true (guarded other (List.mem_of_getElem? there))

theorem Owned.of_move {action : MasterAction Count} (owned : Owned state)
    (sole : state.soleInstall action) (move : Move params state action next) :
    Owned next := by
  cases move with
  | beginStart =>
    refine ⟨?_, owned.slot, owned.replies, ?_⟩
    · apply forall_concat
      · exact fun position call there => (owned.calls position call there).frame (.of_eq rfl)
          (fun _ => .of_eq rfl)
      · refine ⟨fun _ => rfl, ?_, ?_, ?_, ?_⟩
        · intro pipeline installed
          cases installed
        · intro holds
          cases holds
        · intro run taken
          cases taken
        · intro report returned
          cases returned
    · intro removal member
      obtain ⟨call, there, own⟩ := owned.removals removal member
      exact ⟨call, getElem?_concat_of_some _ there, own⟩
  | start index action call next found move =>
    exact owned.of_start found (none_holding_of_soleInstall found sole) move
  | abort index call next found move => exact owned.of_abort move
  | stream index action stream next found move => exact owned.of_stream move
  | pipeline index task moved found move => exact owned.of_pipeline found move
  | acknowledge response =>
    exact owned.environment rfl rfl (.of_eq rfl) (keepsSlot_recordAck state response) owned.replies
  | _ => exact owned.environment rfl rfl (.of_eq rfl) (.of_eq rfl) owned.replies

omit [Counter Count] in
theorem owned_new : Owned (new : MasterState Count) := by
  refine ⟨?_, ?_, ?_, ?_⟩
  · intro index call found
    simp [new] at found
  · intro run active
    cases active
  · intro index task found
    simp [new] at found
  · intro removal member
    cases member

theorem owned_of_reaches (reached : Reaches (step params) soleInstall new state) : Owned state :=
  reached.invariant Owned
    (fun _ _ _ owned sole taken => owned.of_move sole (move_of_step taken)) owned_new

end Steps

section Result

omit [Counter Count]

/-- Every report that a `start_run` call returns is the one of its own run id. -/
def ReturnsOwnReport (state : MasterState Count) : Prop :=
  ∀ call ∈ state.starts, ∀ report ∈ call.phase.report, report.testRunId = call.config.testRunId
  deriving Decidable

/-- Every run that a `start_run` call took out of the slot is the one it installed. -/
def RemovesOwnRun (state : MasterState Count) : Prop :=
  ∀ removal ∈ state.removals,
    (state.starts[removal.call]?).bind StartCall.installed = some removal.run.pipeline
  deriving Decidable

def reportedIds (state : MasterState Count) : List (String × Option String) :=
  state.starts.map (fun call =>
    (call.config.testRunId, call.phase.report.map GlobalReport.testRunId))

end Result

/-- When runs are installed only while no other call is between its installation and its
`take`, every call takes its own run and returns its own report. -/
theorem start_run_owns_run (params : MasterParams) (state : MasterState Count)
    (reached : Reaches (step params) soleInstall new state) :
    ReturnsOwnReport state ∧ RemovesOwnRun state := by
  have owned := owned_of_reaches reached
  constructor
  · intro call member report returned
    obtain ⟨index, found⟩ := List.mem_iff_getElem?.mp member
    exact (owned.calls index call found).reported report returned
  · intro removal member
    obtain ⟨call, found, installed⟩ := owned.removals removal member
    rw [found]
    exact installed

open MasterAction (enrol advance)

theorem start_run_owns_run_sample :
    ∃ state : MasterState Nat,
      Reaches (step .sample) soleInstall new state ∧
        state.reportedIds = [("run-a", none), ("run-b", some "run-b")] ∧
        ReturnsOwnReport state ∧ RemovesOwnRun state :=
  Reaches.exists_and_of_executeChecked
    (enrol "w" ++ [MasterAction.beginStart (sampleConfig "run-a") 1] ++ advance 0 5 ++
      [MasterAction.beginAbort, .abort 0] ++ advance 0 2 ++
      [MasterAction.beginStart (sampleConfig "run-b") 1] ++ advance 1 6 ++
      [MasterAction.start 1 .timeout] ++ advance 1 2 ++ [MasterAction.pipeline 1] ++ advance 1 2)
    (by decide +kernel) (fun state reached _ => start_run_owns_run .sample state reached)

/-- An `abort` frees the slot while the first call waits, the second call installs its
run, and the first call takes that run and returns its report. -/
theorem start_run_takes_other_run_sample :
    ∃ state : MasterState Nat,
      Reaches (step .sample) unguarded new state ∧
        (state.starts.map (fun call => call.config.testRunId)).Nodup ∧
        state.reportedIds = [("run-a", some "run-b"), ("run-b", none)] ∧
        ¬ ReturnsOwnReport state ∧ ¬ RemovesOwnRun state :=
  Reaches.exists_of_executeChecked
    (enrol "w" ++ [MasterAction.beginStart (sampleConfig "run-a") 1] ++ advance 0 5 ++
      [MasterAction.beginAbort, .abort 0, .beginStart (sampleConfig "run-b") 1] ++ advance 1 2 ++
      advance 0 1 ++ [MasterAction.start 0 .timeout] ++ advance 0 2 ++
      [MasterAction.pipeline 1] ++ advance 0 2)
    (by decide +kernel)

end MasterState

end Strobengine.Distributed.Master
