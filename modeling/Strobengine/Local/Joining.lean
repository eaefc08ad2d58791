import Strobengine.Local.Run

/-!
# Every worker is joined

The handle of a worker is at every moment in exactly the lists that the source will still await, or
it has been awaited.
-/

namespace Strobengine.Local

open Metrics Foundations

theorem dropLast_append_getLast (stack : List Nat) :
    stack.dropLast ++ stack.getLast?.toList = stack := by
  cases stack using List.reverseRecOn with
  | nil => rfl
  | append_singleton => simp

namespace Phase

def reaps : Phase → Bool
  | .scalingDown _ _ => true
  | .reaping _ _ => true
  | _ => false

def joinedAll : Phase → Bool
  | .reporting => true
  | .collecting _ _ _ => true
  | .returned _ => true
  | _ => false

def pending (handles : List Nat) : Phase → List Nat
  | .awaiting remaining => remaining
  | .tearingDown remaining => remaining
  | phase => if phase.joinedAll then [] else handles

end Phase

namespace RunState

def outstanding (state : RunState) : List Nat :=
  state.reapedHandles ++ state.phase.pending state.handles

structure Joining (state : RunState) : Prop where
  finished :
    ∀ (index : Nat) (worker : WorkerTask),
      state.workers[index]? = some worker → worker.joined = true → worker.phase = .finished
  covered :
    ∀ (index : Nat) (worker : WorkerTask),
      state.workers[index]? = some worker → worker.joined = true ∨ index ∈ state.outstanding
  drained : state.phase.reaps = false → state.reapedHandles = []

theorem joining_new (params : RunParams) : Joining (new params) where
  finished := by
    intro index worker found
    cases found
  covered := by
    intro index worker found
    cases found
  drained := fun _ => rfl

section Preservation

variable {params : RunParams} {state next : RunState} {action : RunAction}

private theorem Joining.of_workers_eq (joining : Joining state)
    (workers : next.workers = state.workers)
    (kept : ∀ index ∈ state.outstanding, index ∈ next.outstanding)
    (drained : next.phase.reaps = false → next.reapedHandles = []) :
    Joining next where
  finished := by
    rw [workers]
    exact joining.finished
  covered := by
    intro index worker found
    rw [workers] at found
    rcases joining.covered index worker found with joined | waiting
    · exact Or.inl joined
    · exact Or.inr (kept index waiting)
  drained := drained

private theorem Joining.of_phase (joining : Joining state) {phase : Phase}
    (pending : phase.pending state.handles = state.phase.pending state.handles)
    (drained : phase.reaps = false → state.reapedHandles = []) :
    Joining { state with phase } := by
  refine joining.of_workers_eq ?_ ?_ drained
  · rfl
  · intro index waiting
    rw [outstanding, pending]
    exact waiting

private theorem Joining.of_quiet_phase (joining : Joining state) {before phase : Phase}
    (current : state.phase = before) (quiet : before.reaps = false)
    (pending : phase.pending state.handles = before.pending state.handles) :
    Joining { state with phase } := by
  apply joining.of_phase
  · rw [current]
    exact pending
  · intro _
    apply joining.drained
    rw [current]
    exact quiet

private theorem Joining.of_set {index : Nat} {worker moved : WorkerTask}
    (joining : Joining state) (found : state.workers[index]? = some worker)
    (workers : next.workers = state.workers.set index moved)
    (kept : ∀ index ∈ state.outstanding, index ∈ next.outstanding)
    (drained : next.phase.reaps = false → next.reapedHandles = [])
    (joined : moved.joined = worker.joined)
    (finished : worker.joined = true → moved.phase = .finished) :
    Joining next where
  finished := by
    rw [workers]
    exact forall_set joining.finished (fun held => finished (joined ▸ held))
  covered := by
    rw [workers]
    apply forall_set
    · intro position other there
      exact (joining.covered position other there).imp_right (kept position)
    · rw [joined]
      exact (joining.covered index worker found).imp_right (kept index)
  drained := drained

private theorem Joining.of_join {handle : Nat} {worker : WorkerTask} (joining : Joining state)
    (ended : worker.phase = .finished)
    (workers : next.workers = state.workers.set handle { worker with joined := true })
    (kept : ∀ index ∈ state.outstanding, index ≠ handle → index ∈ next.outstanding)
    (drained : next.phase.reaps = false → next.reapedHandles = []) :
    Joining next where
  finished := by
    rw [workers]
    exact forall_set joining.finished (fun _ => ended)
  covered := by
    rw [workers]
    apply forall_set_of_ne
    · intro position other different there
      exact
        (joining.covered position other there).imp_right
          (fun waiting => kept position waiting different)
    · exact Or.inl rfl
  drained := drained

private theorem Joining.of_spawn {worker : WorkerTask} (joining : Joining state)
    (workers : next.workers = state.workers ++ [worker]) (fresh : worker.joined = false)
    (kept : ∀ index ∈ state.outstanding, index ∈ next.outstanding)
    (waiting : state.workers.length ∈ next.outstanding)
    (drained : next.phase.reaps = false → next.reapedHandles = []) :
    Joining next where
  finished := by
    rw [workers]
    apply forall_concat joining.finished
    intro joined
    rw [fresh] at joined
    cases joined
  covered := by
    rw [workers]
    apply forall_concat
    · intro position other there
      exact (joining.covered position other there).imp_right (kept position)
    · exact Or.inr waiting
  drained := drained

private theorem Joining.of_cancel {token : Nat} (joining : Joining state)
    (workers : next.workers = (state.cancelWorker token).workers)
    (kept : ∀ index ∈ state.outstanding, index ∈ next.outstanding)
    (drained : next.phase.reaps = false → next.reapedHandles = []) :
    Joining next := by
  simp only [cancelWorker] at workers
  split at workers
  · exact joining.of_workers_eq workers kept drained
  · rename_i worker found
    exact
      joining.of_set found workers kept drained rfl
        (fun joined => joining.finished token worker found joined)

private theorem Joining.scaleDown {elapsed target : Nat}
    (joining : Joining state) (scaling : state.phase = .scalingDown elapsed target) :
    Joining state.scaleDown := by
  unfold RunState.scaleDown
  split
  · exact joining
  · rename_i token last
    refine joining.of_cancel rfl ?_ ?_
    · intro position waiting
      simp only [outstanding, cancelWorker, scaling, Phase.pending, Phase.joinedAll,
        Bool.false_eq_true, if_false, List.mem_append] at waiting ⊢
      rcases waiting with reaped | held
      · exact Or.inl (Or.inl reaped)
      · rw [← dropLast_append_getLast state.handles, List.mem_append] at held
        rcases held with kept | popped
        · exact Or.inr kept
        · exact Or.inl (Or.inr popped)
    · intro quiet
      simp [cancelWorker, scaling, Phase.reaps] at quiet

theorem Joining.of_move
    (joining : Joining state) (move : Move params state action next) : Joining next := by
  have same : ∀ index ∈ state.outstanding, index ∈ state.outstanding := fun _ waiting => waiting
  cases move with
  | worker index action worker moved event found stepped =>
    obtain ⟨_, joined⟩ := WorkerTask.step_frame stepped
    have unfinished := WorkerTask.unfinished_of_step stepped
    refine joining.of_set found rfl same joining.drained joined ?_
    intro held
    exact False.elim (unfinished (joining.finished index worker found held))
  | spawn spawned concurrency durationSecs spawning =>
    have drained := joining.drained (by rw [spawning]; rfl)
    refine joining.of_spawn rfl rfl ?_ ?_ (fun _ => drained)
    · intro position waiting
      simp only [outstanding, spawning, Phase.pending] at waiting ⊢
      simp_all [spawnWorker, Phase.joinedAll]
    · simp [outstanding, spawnWorker, Phase.pending, Phase.joinedAll]
  | joinAwaited handle remaining worker awaiting found ended =>
    refine joining.of_join ended rfl ?_ ?_
    · intro position waiting different
      simp only [outstanding, awaiting, Phase.pending] at waiting ⊢
      simp_all [setWorker]
    · exact fun _ => joining.drained (by rw [awaiting]; rfl)
  | scaleUp elapsed target scaling =>
    have drained := joining.drained (by rw [scaling]; rfl)
    refine joining.of_spawn rfl rfl ?_ ?_ (fun _ => drained)
    · intro position waiting
      simp only [outstanding, scaling, Phase.pending] at waiting ⊢
      simp_all [scaleUp, spawnWorker, Phase.joinedAll]
    · simp [outstanding, scaleUp, spawnWorker, scaling, Phase.pending, Phase.joinedAll]
  | scaleDown elapsed target scaling => exact joining.scaleDown scaling
  | scaledDown elapsed target scaling =>
    exact joining.of_phase (by rw [scaling]; rfl) (fun quiet => nomatch quiet)
  | joinReaped elapsed target handle remaining worker reaping reaped found ended =>
    refine joining.of_join ended rfl ?_ ?_
    · intro position waiting different
      simp only [outstanding, reaping, reaped, Phase.pending] at waiting ⊢
      simp_all [setWorker, Phase.joinedAll]
    · intro quiet
      simp [setWorker, reaping, Phase.reaps] at quiet
  | reapedAll elapsed target reaping reaped =>
    exact joining.of_phase (by rw [reaping]; rfl) (fun _ => reaped)
  | cancelToken token remaining cancelling =>
    refine joining.of_cancel rfl ?_ ?_
    · intro position waiting
      simp only [outstanding, cancelling, Phase.pending] at waiting ⊢
      simp_all [cancelWorker, Phase.joinedAll]
    · exact fun _ => joining.drained (by rw [cancelling]; rfl)
  | joinTorn handle remaining worker tearing found ended =>
    refine joining.of_join ended rfl ?_ ?_
    · intro position waiting different
      simp only [outstanding, tearing, Phase.pending] at waiting ⊢
      simp_all [setWorker]
    · exact fun _ => joining.drained (by rw [tearing]; rfl)
  | receive | finish | aggregatorPanic | signal | cancelAll =>
    exact joining.of_workers_eq rfl same joining.drained
  | _ =>
    have before := ‹state.phase = _›
    exact joining.of_quiet_phase before rfl rfl

end Preservation

theorem joining_of_reaches
    {params : RunParams} {guard : RunState → RunAction → Prop} {state : RunState}
    (reached : Reaches (step params) guard (new params) state) : Joining state :=
  reached.invariant Joining
    (fun _ _ _ joining _ taken => joining.of_move (move_of_step taken))
    (joining_new params)

theorem Joining.joined
    {state : RunState} (joining : Joining state) (done : state.phase.joinedAll = true)
    {index : Nat} {worker : WorkerTask} (found : state.workers[index]? = some worker) :
    worker.joined = true := by
  have none : state.outstanding = [] := by
    have quiet : state.phase.reaps = false ∧ state.phase.pending state.handles = [] := by
      cases phase : state.phase <;> rw [phase] at done <;>
        first | exact ⟨rfl, rfl⟩ | cases done
    rw [outstanding, joining.drained quiet.1, quiet.2]
    rfl
  rcases joining.covered index worker found with joined | waiting
  · exact joined
  · rw [none] at waiting
    cases waiting

theorem Joining.ended
    {state : RunState} (joining : Joining state) (done : state.phase.joinedAll = true)
    {index : Nat} {worker : WorkerTask} (found : state.workers[index]? = some worker) :
    worker.phase = .finished :=
  joining.finished index worker found (joining.joined done found)

end RunState

end Strobengine.Local
