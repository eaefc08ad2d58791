import Strobengine.Local.Supervisor

/-!
# Cancelled workers can be joined

A cancelled worker can always end; the only thing it may have to wait for is room in the metric
channel, which the aggregator makes.
-/

namespace Strobengine.Local

open Metrics Foundations

def WorkerTask.work (worker : WorkerTask) (queued : Nat) : Nat :=
  match worker.phase with
  | .spawned => 4
  | .connecting => 3
  | .checking => 2
  | .iterating => 2
  | .sending _ => 3 + queued
  | .closing => 1
  | .finished => 0

theorem WorkerTask.exists_step_of_cancelled
    (worker : WorkerTask) (timeoutMicros queued : Nat) {channel : ChannelState}
    (room : ∀ metric, worker.phase = .sending metric → channel ≠ .full)
    (unfinished : worker.phase ≠ .finished) :
    ∃ action moved event,
      worker.step timeoutMicros true channel action = some (moved, event) ∧
        moved.work (queued + event.enqueued.length) < worker.work queued := by
  cases phase : worker.phase with
  | spawned =>
    refine ⟨.start, _, _, by simp only [step, phase]; rfl, ?_⟩
    simp [work, phase]
  | connecting =>
    refine ⟨.ready, _, _, by simp only [step, phase]; rfl, ?_⟩
    simp [work, phase]
  | checking =>
    refine ⟨.check 0, { worker with phase := .closing }, .silent, ?_, ?_⟩
    · simp [step, phase]
    · simp [work, phase]
  | iterating =>
    refine ⟨.cancel, { worker with phase := .closing }, .abandoned, ?_, ?_⟩
    · simp [step, phase]
    · simp [work, phase]
  | sending metric =>
    cases channel with
    | accepting | closed =>
      refine ⟨.send, _, _, by simp only [step, phase]; rfl, ?_⟩
      simp only [work, phase]
      omega
    | full => exact absurd rfl (room metric phase)
  | closing =>
    refine ⟨.close, _, _, by simp only [step, phase]; rfl, ?_⟩
    simp [work, phase]
  | finished => exact absurd phase unfinished

def Phase.cleansUp : Phase → Bool
  | .cancelling _ => true
  | .tearingDown _ => true
  | _ => false

def Doomed (workers : List WorkerTask) (index : Nat) : Prop :=
  ∃ worker, workers[index]? = some worker ∧ worker.cancelled = true

theorem doomed_set {workers : List WorkerTask} {index : Nat} {worker moved : WorkerTask}
    (found : workers[index]? = some worker)
    (same : worker.cancelled = true → moved.cancelled = true)
    {position : Nat} (doomed : Doomed workers position) :
    Doomed (workers.set index moved) position := by
  obtain ⟨present, there, cancelled⟩ := doomed
  obtain ⟨after, now, kept⟩ :=
    exists_set_of_some
      (fun before after => before.cancelled = true → after.cancelled = true)
      (fun _ held => held) found same there
  exact ⟨after, now, kept cancelled⟩

theorem doomed_join {workers : List WorkerTask} {handle : Nat} {worker : WorkerTask}
    (found : workers[handle]? = some worker) {position : Nat} (doomed : Doomed workers position) :
    Doomed (workers.set handle { worker with joined := true }) position := by
  refine doomed_set found ?_ doomed
  exact fun held => held

namespace RunState

section Ending

variable {params : RunParams} {state : RunState}

private structure Closing
    (phase : Phase) (reaped pending : List Nat) (state : RunState) : Prop where
  phase : state.phase = phase
  reaped : state.reapedHandles = reaped
  doomed : ∀ index ∈ pending, Doomed state.workers index

private theorem exists_receive_of_full (full : state.channelState = .full) :
    ∃ metrics metric rest,
      state.aggregator = .receiving metrics ∧ state.queue = metric :: rest := by
  unfold channelState at full
  split at full
  · rename_i metrics receiving
    split at full
    · cases full
    · rename_i noRoom
      cases queued : state.queue with
      | nil =>
        rw [queued] at noRoom
        exact absurd (by decide) noRoom
      | cons metric rest => exact ⟨metrics, metric, rest, receiving, rfl⟩
  · cases full

private def workOf (index : Nat) (state : RunState) : Nat :=
  ((state.workers[index]?).map (fun worker => worker.work state.queue.length)).getD 0

private theorem workOf_eq {index : Nat} {worker : WorkerTask}
    (found : state.workers[index]? = some worker) :
    workOf index state = worker.work state.queue.length := by
  rw [workOf, found]
  rfl

private def Closer (params : RunParams) (phase : Phase) (reaped pending : List Nat) (index : Nat)
    (state : RunState) : Prop :=
  ∃ action next,
    uninterrupted state action ∧ step params state action = some next ∧
      Closing phase reaped pending next ∧ workOf index next < workOf index state

section Steps

variable {phase : Phase} {reaped pending : List Nat} {index : Nat} {worker : WorkerTask}

private theorem Closing.relieve (closing : Closing phase reaped pending state)
    (found : state.workers[index]? = some worker) {waiting : RequestMetric}
    (sending : worker.phase = .sending waiting) (full : state.channelState = .full) :
    Closer params phase reaped pending index state := by
  obtain ⟨metrics, metric, rest, receiving, queued⟩ := exists_receive_of_full full
  refine
    ⟨.aggregator .receive,
      { state with
        aggregator := .receiving (metrics.receive metric)
        queue := rest
        received := state.received ++ [metric] },
      True.intro, ?_, ⟨closing.phase, closing.reaped, closing.doomed⟩, ?_⟩
  · simp only [step, stepAggregator, receiving, queued]
  · rw [workOf_eq found, workOf, found, queued]
    simp only [Option.map_some, Option.getD_some, WorkerTask.work, sending, List.length_cons]
    omega

private theorem Closing.workerStep (closing : Closing phase reaped pending state)
    (found : state.workers[index]? = some worker) (cancelled : worker.cancelled = true)
    (unfinished : worker.phase ≠ .finished)
    (room : ∀ metric, worker.phase = .sending metric → state.channelState ≠ .full) :
    Closer params phase reaped pending index state := by
  obtain ⟨action, moved, event, stepped, closer⟩ :=
    worker.exists_step_of_cancelled params.timeoutMicros state.queue.length room unfinished
  have same := (WorkerTask.step_frame stepped).1
  have now : ((state.setWorker index moved).record event).workers[index]? = some moved :=
    getElem?_set_of_some moved found
  refine
    ⟨.worker index action, (state.setWorker index moved).record event, True.intro, ?_,
      ⟨closing.phase, closing.reaped, ?_⟩, ?_⟩
  · simp only [step, stepWorker, found, cancelled, Bool.true_or, stepped]
  · intro position waiting
    exact doomed_set found (fun held => same.trans held) (closing.doomed position waiting)
  · rw [workOf_eq found, workOf_eq now]
    rw [record, List.length_append]
    exact closer

end Steps

private theorem exists_ended {phase : Phase} {reaped pending : List Nat} {index : Nat}
    (member : index ∈ pending) (closing : Closing phase reaped pending state) :
    ∃ next,
      Reaches (step params) uninterrupted state next ∧
        Closing phase reaped pending next ∧
          ∃ worker, next.workers[index]? = some worker ∧ worker.phase = .finished := by
  refine
    Reaches.final_of_measure (Closing phase reaped pending)
      (fun state =>
        Closing phase reaped pending state ∧
          ∃ worker, state.workers[index]? = some worker ∧ worker.phase = .finished)
      (workOf index) ?_ closing
  intro before kept unfinal
  obtain ⟨worker, found, cancelled⟩ := kept.doomed index member
  have unfinished : worker.phase ≠ .finished :=
    fun finished => unfinal ⟨kept, worker, found, finished⟩
  by_cases blocked : (∃ metric, worker.phase = .sending metric) ∧ before.channelState = .full
  · obtain ⟨⟨waiting, sending⟩, full⟩ := blocked
    exact kept.relieve found sending full
  · refine kept.workerStep found cancelled unfinished ?_
    exact fun metric sending full => blocked ⟨⟨metric, sending⟩, full⟩

private theorem Closing.completes (phase : List Nat → Phase) (reaped : List Nat → List Nat)
    {final : Phase}
    (leaves :
      ∀ state : RunState, state.phase = phase [] → state.reapedHandles = reaped [] →
        state.step params (.main .advance) = some { state with phase := final })
    (joins :
      ∀ handle remaining (state : RunState) (worker : WorkerTask),
        state.phase = phase (handle :: remaining) →
        state.reapedHandles = reaped (handle :: remaining) →
        state.workers[handle]? = some worker → worker.phase = .finished →
          ∃ next, state.step params (.main .advance) = some next ∧
            next.phase = phase remaining ∧ next.reapedHandles = reaped remaining ∧
            next.workers = state.workers.set handle { worker with joined := true })
    (pending : List Nat) (closing : Closing (phase pending) (reaped pending) pending state) :
    ∃ next, Reaches (step params) uninterrupted state next ∧ next.phase = final := by
  induction pending generalizing state with
  | nil =>
    have left := leaves state closing.phase closing.reaped
    exact ⟨_, Reaches.single (.main .advance) True.intro left, rfl⟩
  | cons handle remaining ih =>
    obtain ⟨middle, reached, kept, worker, found, finished⟩ :=
      exists_ended List.mem_cons_self closing
    obtain ⟨joined, taken, moved, shorter, workers⟩ :=
      joins handle remaining middle worker kept.phase kept.reaped found finished
    have closer : Closing (phase remaining) (reaped remaining) remaining joined := by
      refine ⟨moved, shorter, fun index waiting => ?_⟩
      rw [workers]
      exact doomed_join found (kept.doomed index (List.mem_cons_of_mem _ waiting))
    obtain ⟨next, later, left⟩ := ih closer
    exact ⟨next, reached.trans (later.head (.main .advance) True.intro taken), left⟩

end Ending

/-! ## Who has been cancelled -/

structure Marked (state : RunState) : Prop where
  present : ∀ token ∈ state.childTokens, token < state.workers.length
  reaped : ∀ handle ∈ state.reapedHandles, Doomed state.workers handle
  cancelling :
    ∀ remaining, state.phase = .cancelling remaining →
      ∀ token ∈ state.childTokens, token ∈ remaining ∨ Doomed state.workers token
  tearing :
    ∀ remaining, state.phase = .tearingDown remaining →
      ∀ handle ∈ remaining, Doomed state.workers handle

section Preservation

variable {params : RunParams} {profile : LoadProfile} {state next : RunState} {action : RunAction}

private theorem Marked.of_set {index : Nat} {worker moved : WorkerTask}
    (marked : Marked state) (found : state.workers[index]? = some worker)
    (same : worker.cancelled = true → moved.cancelled = true) :
    Marked (state.setWorker index moved) where
  present := by
    intro token member
    rw [setWorker, List.length_set]
    exact marked.present token member
  reaped := fun handle member => doomed_set found same (marked.reaped handle member)
  cancelling := fun remaining phase token member =>
    (marked.cancelling remaining phase token member).imp_right (doomed_set found same)
  tearing := fun remaining phase handle member =>
    doomed_set found same (marked.tearing remaining phase handle member)

private theorem Marked.of_phase
    (marked : Marked state) {phase : Phase} (outside : phase.cleansUp = false) :
    Marked { state with phase } where
  present := marked.present
  reaped := marked.reaped
  cancelling := by
    rintro remaining rfl
    cases outside
  tearing := by
    rintro remaining rfl
    cases outside

private theorem Marked.join {handle : Nat} {worker : WorkerTask}
    (marked : Marked state) (found : state.workers[handle]? = some worker) :
    Marked (state.setWorker handle { worker with joined := true }) := by
  refine marked.of_set found ?_
  exact fun held => held

private theorem Marked.scaleUp {elapsed target : Nat}
    (marked : Marked state) (scaling : state.phase = .scalingUp elapsed target) :
    Marked (state.scaleUp params elapsed) where
  present := by
    intro token member
    simp only [RunState.scaleUp, spawnWorker, List.length_append, List.length_singleton]
    rcases List.mem_append.mp member with old | new
    · exact Nat.lt_succ_of_lt (marked.present token old)
    · rw [List.mem_singleton.mp new]
      exact Nat.lt_succ_self _
  reaped := by
    intro handle member
    obtain ⟨worker, found, cancelled⟩ := marked.reaped handle member
    exact ⟨worker, getElem?_concat_of_some _ found, cancelled⟩
  cancelling := by
    intro remaining phase
    rw [show (state.scaleUp params elapsed).phase = state.phase from rfl, scaling] at phase
    cases phase
  tearing := by
    intro remaining phase
    rw [show (state.scaleUp params elapsed).phase = state.phase from rfl, scaling] at phase
    cases phase

private theorem length_cancelWorker (token : Nat) :
    (state.cancelWorker token).workers.length = state.workers.length := by
  simp only [cancelWorker]
  split
  · rfl
  · exact List.length_set

private theorem doomed_cancelWorker {token : Nat} (present : token < state.workers.length) :
    Doomed (state.cancelWorker token).workers token := by
  have found := List.getElem?_eq_getElem present
  rw [workers_cancelWorker found]
  exact ⟨_, getElem?_set_of_some _ found, rfl⟩

private theorem doomed_cancelWorker_of_doomed {token position : Nat}
    (doomed : Doomed state.workers position) :
    Doomed (state.cancelWorker token).workers position := by
  simp only [cancelWorker]
  split
  · exact doomed
  · rename_i worker found
    exact doomed_set found (fun _ => rfl) doomed

private theorem Marked.scaleDown {elapsed target : Nat}
    (marked : Marked state) (supervised : Supervised profile state)
    (scaling : state.phase = .scalingDown elapsed target)
    (above : target < state.currentConcurrency) :
    Marked state.scaleDown := by
  obtain ⟨below, token, last⟩ := supervised.exists_last above
  have listed : ∀ other ∈ below ++ [token], other < state.workers.length := by
    rw [← last]
    exact marked.present
  rw [supervised.scaleDown_eq last]
  refine
    { present := ?_
      reaped := ?_
      cancelling := ?_
      tearing := ?_ }
  · intro other member
    simp only [length_cancelWorker]
    exact listed other (List.mem_append_left _ member)
  · intro handle member
    rcases List.mem_append.mp member with old | new
    · exact doomed_cancelWorker_of_doomed (marked.reaped handle old)
    · rw [List.mem_singleton.mp new]
      exact doomed_cancelWorker (listed token List.mem_concat_self)
  · intro remaining phase
    simp only [cancelWorker, scaling] at phase
    cases phase
  · intro remaining phase
    simp only [cancelWorker, scaling] at phase
    cases phase

private theorem Marked.cancelToken {token : Nat} {remaining : List Nat} (marked : Marked state)
    (cancelling : state.phase = .cancelling (token :: remaining)) :
    Marked { state.cancelWorker token with phase := .cancelling remaining } := by
  refine
    { present := ?_
      reaped := fun handle member =>
        doomed_cancelWorker_of_doomed (marked.reaped handle member)
      cancelling := ?_
      tearing := fun _ phase => nomatch phase }
  · intro other member
    simp only [length_cancelWorker]
    exact marked.present other member
  · intro left phase other member
    cases phase
    rcases marked.cancelling _ cancelling other member with waiting | doomed
    · rcases List.mem_cons.mp waiting with same | waiting
      · subst same
        exact Or.inr (doomed_cancelWorker (marked.present other member))
      · exact Or.inl waiting
    · exact Or.inr (doomed_cancelWorker_of_doomed doomed)

theorem Marked.of_move
    (dynamic : params.strategy = .dynamic profile) (supervised : Supervised profile state)
    (marked : Marked state) (move : Move params state action next) : Marked next := by
  cases move with
  | worker index action worker moved event found stepped =>
    obtain ⟨same, _⟩ := WorkerTask.step_frame stepped
    exact { marked.of_set found (fun held => same.trans held) with }
  | spawn spawned concurrency durationSecs spawning constant =>
    rw [dynamic] at constant
    cases constant
  | spawnedAll => exact marked.of_phase rfl
  | joinAwaited handle remaining worker awaiting found => exact (marked.join found).of_phase rfl
  | tickEnded =>
    exact
      { present := marked.present
        reaped := marked.reaped
        cancelling := fun remaining phase token member => by
          cases phase
          exact Or.inl member
        tearing := fun _ phase => by cases phase }
  | scaleUp elapsed target scaling => exact marked.scaleUp scaling
  | scaleDown elapsed target scaling above => exact marked.scaleDown supervised scaling above
  | joinReaped elapsed target handle remaining worker reaping reaped found =>
    have kept := marked.join found
    refine { kept with reaped := ?_ }
    intro other member
    apply kept.reaped other
    rw [setWorker, reaped]
    exact List.mem_cons_of_mem handle member
  | cancelToken token remaining cancelling => exact marked.cancelToken cancelling
  | cancelledAll cancelling =>
    refine
      { present := marked.present
        reaped := marked.reaped
        cancelling := fun _ phase => by cases phase
        tearing := ?_ }
    intro remaining phase handle member
    cases phase
    rw [supervised.handles] at member
    rcases marked.cancelling [] cancelling handle member with waiting | doomed
    · cases waiting
    · exact doomed
  | joinTorn handle remaining worker tearing found =>
    have kept := marked.join found
    refine
      { present := kept.present
        reaped := kept.reaped
        cancelling := fun _ phase => by cases phase
        tearing := ?_ }
    intro left phase other member
    cases phase
    exact kept.tearing _ tearing other (List.mem_cons_of_mem handle member)
  | receive | finish | aggregatorPanic | signal | cancelAll => exact { marked with }
  | _ => exact marked.of_phase rfl

end Preservation

end RunState

end Strobengine.Local
