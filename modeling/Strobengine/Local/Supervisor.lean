import Strobengine.Local.Joining

/-!
# The supervisor follows the load profile

Workers that end on their own stay among the spawned and not cancelled ones: the supervisor does
not look at them before the teardown.
-/

namespace Strobengine.Local

open Metrics Foundations

namespace Phase

def supervising : Phase → Bool
  | .ticking => true
  | .scalingUp _ _ => true
  | .scalingDown _ _ => true
  | .reaping _ _ => true
  | .sleeping _ _ => true
  | _ => false

def currentTick : Phase → Option (Nat × Nat)
  | .scalingUp elapsed target => some (elapsed, target)
  | .scalingDown elapsed target => some (elapsed, target)
  | .reaping elapsed target => some (elapsed, target)
  | .sleeping elapsed target => some (elapsed, target)
  | _ => none

def Scaled (currentConcurrency : Nat) : Phase → Prop
  | .scalingDown _ target => target ≤ currentConcurrency
  | .reaping _ target => currentConcurrency = target
  | .sleeping _ target => currentConcurrency = target
  | _ => True

end Phase

def WorkerTask.kept (worker : WorkerTask) : Bool :=
  !worker.cancelled

open WorkerTask (kept)

namespace RunState

def uncancelled (state : RunState) : Nat :=
  state.workers.countP (fun worker => !(worker.cancelled || state.cancelled))

def uninterrupted (_ : RunState) : RunAction → Prop
  | .signal => False
  | _ => True

instance (state : RunState) (action : RunAction) : Decidable (state.uninterrupted action) := by
  unfold uninterrupted
  rcases action with _ | _ | _ | _ | _ <;> dsimp only <;> infer_instance

structure Supervised (profile : LoadProfile) (state : RunState) : Prop where
  handles : state.handles = state.childTokens
  counter : state.childTokens.length = state.currentConcurrency
  distinct : state.childTokens.Nodup
  bounded : state.currentConcurrency ≤ profile.concurrencyUpperBound
  alive :
    state.phase.supervising = true →
      ∀ token ∈ state.childTokens, ∃ worker,
        state.workers[token]? = some worker ∧ worker.cancelled = false
  counted :
    state.phase.supervising = true → state.workers.countP kept = state.currentConcurrency
  atMost : state.workers.countP kept ≤ state.currentConcurrency
  aimed :
    ∀ elapsed target,
      state.phase.currentTick = some (elapsed, target) → target = profile.targetConcurrency elapsed
  scaled : state.phase.Scaled state.currentConcurrency

section Preservation

variable {params : RunParams} {profile : LoadProfile} {state next : RunState} {action : RunAction}

private theorem Supervised.of_phase (supervised : Supervised profile state) {phase : Phase}
    (supervising : phase.supervising = true → state.phase.supervising = true)
    (aimed :
      ∀ elapsed target,
        phase.currentTick = some (elapsed, target) → target = profile.targetConcurrency elapsed)
    (scaled : phase.Scaled state.currentConcurrency) :
    Supervised profile { state with phase } where
  handles := supervised.handles
  counter := supervised.counter
  distinct := supervised.distinct
  bounded := supervised.bounded
  alive := fun later => supervised.alive (supervising later)
  counted := fun later => supervised.counted (supervising later)
  atMost := supervised.atMost
  aimed := aimed
  scaled := scaled

private theorem Supervised.leave (supervised : Supervised profile state) {phase : Phase}
    (left : phase.supervising = false) :
    Supervised profile { state with phase } := by
  apply supervised.of_phase
  · intro supervising
    rw [left] at supervising
    cases supervising
  · intro elapsed target current
    cases phase <;> first | cases left; done | cases current
  · cases phase <;> first | exact True.intro | cases left

variable {worker : WorkerTask}

private theorem Supervised.of_set {index : Nat} {moved : WorkerTask}
    (supervised : Supervised profile state) (found : state.workers[index]? = some worker)
    (same : moved.cancelled = worker.cancelled) :
    Supervised profile (state.setWorker index moved) := by
  have count :
      (state.workers.set index moved).countP kept =
        state.workers.countP kept := by
    have changed := countP_set kept moved found
    rw [kept, kept, same] at changed
    exact Nat.add_right_cancel changed
  refine
    { handles := supervised.handles
      counter := supervised.counter
      distinct := supervised.distinct
      bounded := supervised.bounded
      alive := ?_
      counted := ?_
      atMost := ?_
      aimed := supervised.aimed
      scaled := supervised.scaled }
  · intro supervising token member
    obtain ⟨present, there, live⟩ := supervised.alive supervising token member
    obtain ⟨after, now, kept⟩ :=
      exists_set_of_some (fun before after => after.cancelled = before.cancelled)
        (fun _ => rfl) found same there
    exact ⟨after, now, kept.trans live⟩
  · intro supervising
    exact count.trans (supervised.counted supervising)
  · exact count.le.trans supervised.atMost

private theorem Supervised.join {handle : Nat}
    (supervised : Supervised profile state) (found : state.workers[handle]? = some worker) :
    Supervised profile (state.setWorker handle { worker with joined := true }) :=
  supervised.of_set found rfl

variable {target : Nat}

private theorem Supervised.scaleUp {elapsed : Nat} (supervised : Supervised profile state)
    (scaling : state.phase = .scalingUp elapsed target)
    (below : state.currentConcurrency < target) :
    Supervised profile (state.scaleUp params elapsed) := by
  have supervising : state.phase.supervising = true := by
    rw [scaling]
    rfl
  have alive := supervised.alive supervising
  have aimed : target = profile.targetConcurrency elapsed :=
    supervised.aimed elapsed target (by rw [scaling]; rfl)
  have count :
      (state.scaleUp params elapsed).workers.countP kept =
        state.workers.countP kept + 1 := by
    simp [RunState.scaleUp, spawnWorker, kept]
  refine
    { handles := ?_
      counter := ?_
      distinct := ?_
      bounded := ?_
      alive := ?_
      counted := ?_
      atMost := ?_
      aimed := supervised.aimed
      scaled := ?_ }
  · simp only [RunState.scaleUp, spawnWorker]
    rw [supervised.handles]
  · simp only [RunState.scaleUp, List.length_append, List.length_singleton]
    rw [supervised.counter]
  · -- the new token is the next free index, and every old one belongs to a worker
    rw [RunState.scaleUp, List.nodup_append]
    refine ⟨supervised.distinct, List.nodup_singleton _, ?_⟩
    intro token member other single same
    obtain ⟨worker, found, _⟩ := alive token member
    have bound := lt_length_of_getElem?_eq_some found
    rw [same, List.mem_singleton.mp single] at bound
    exact absurd bound (Nat.lt_irrefl _)
  · have reached := profile.targetConcurrency_le_upperBound elapsed
    rw [← aimed] at reached
    exact below.trans_le reached
  · intro _ token member
    rcases List.mem_append.mp member with old | new
    · obtain ⟨worker, found, live⟩ := alive token old
      exact ⟨worker, getElem?_concat_of_some _ found, live⟩
    · rw [List.mem_singleton.mp new]
      exact ⟨_, List.getElem?_concat_length, rfl⟩
  · intro _
    rw [count, supervised.counted supervising]
    rfl
  · rw [count]
    exact Nat.succ_le_succ supervised.atMost
  · simp only [RunState.scaleUp, spawnWorker, scaling]
    exact True.intro

theorem Supervised.exists_last (supervised : Supervised profile state)
    (above : target < state.currentConcurrency) :
    ∃ below token, state.childTokens = below ++ [token] := by
  rcases List.eq_nil_or_concat state.childTokens with empty | ⟨below, token, last⟩
  · have counter := supervised.counter
    rw [empty, List.length_nil] at counter
    omega
  · rw [List.concat_eq_append] at last
    exact ⟨below, token, last⟩

variable {token : Nat}

theorem Supervised.scaleDown_eq (supervised : Supervised profile state) {below : List Nat}
    (last : state.childTokens = below ++ [token]) :
    state.scaleDown =
      { state.cancelWorker token with
        childTokens := below
        handles := below
        reapedHandles := state.reapedHandles ++ [token]
        currentConcurrency := state.currentConcurrency - 1 } := by
  simp [RunState.scaleDown, supervised.handles, last]

private theorem countP_kept_cancelWorker (found : state.workers[token]? = some worker) :
    (state.cancelWorker token).workers.countP kept + worker.kept.toNat =
      state.workers.countP kept := by
  rw [workers_cancelWorker found]
  exact countP_set kept { worker with cancelled := true } found

private theorem Supervised.scaleDown {elapsed : Nat} (supervised : Supervised profile state)
    (scaling : state.phase = .scalingDown elapsed target)
    (above : target < state.currentConcurrency) :
    Supervised profile state.scaleDown := by
  have supervising : state.phase.supervising = true := by
    rw [scaling]
    rfl
  have alive := supervised.alive supervising
  have counted := supervised.counted supervising
  have distinct := supervised.distinct
  have counter := supervised.counter
  obtain ⟨below, token, last⟩ := supervised.exists_last above
  obtain ⟨worker, found, live⟩ := alive token (by rw [last]; exact List.mem_concat_self)
  rw [supervised.scaleDown_eq last]
  rw [last, List.nodup_append] at distinct
  rw [last, List.length_append, List.length_singleton] at counter
  have count :
      (state.cancelWorker token).workers.countP kept + 1 =
        state.workers.countP kept := by
    have changed := countP_kept_cancelWorker found
    rw [kept, live] at changed
    exact changed
  refine
    { handles := rfl
      counter := ?_
      distinct := distinct.1
      bounded := ?_
      alive := ?_
      counted := ?_
      atMost := ?_
      aimed := supervised.aimed
      scaled := ?_ }
  · exact Nat.eq_sub_of_add_eq counter
  · exact (Nat.sub_le _ 1).trans supervised.bounded
  · intro _ other member
    have different : token ≠ other :=
      Ne.symm (distinct.2.2 other member token (List.mem_singleton_self token))
    obtain ⟨present, there, kept⟩ := alive other (by rw [last]; exact List.mem_append_left _ member)
    refine ⟨present, ?_, kept⟩
    simp only [workers_cancelWorker found]
    rw [List.getElem?_set_ne different]
    exact there
  · intro _
    simp only
    omega
  · simp only
    omega
  · simp only [cancelWorker, scaling, Phase.Scaled]
    omega

private theorem Supervised.cancelToken {remaining : List Nat}
    (supervised : Supervised profile state) :
    Supervised profile { state.cancelWorker token with phase := .cancelling remaining } := by
  have count :
      (state.cancelWorker token).workers.countP kept ≤
        state.workers.countP kept := by
    cases found : state.workers[token]? with
    | none => simp only [cancelWorker, found, le_refl]
    | some => exact Nat.le.intro (countP_kept_cancelWorker found)
  exact
    { handles := supervised.handles
      counter := supervised.counter
      distinct := supervised.distinct
      bounded := supervised.bounded
      alive := fun supervising => by cases supervising
      counted := fun supervising => by cases supervising
      atMost := count.trans supervised.atMost
      aimed := fun _ _ current => by cases current
      scaled := True.intro }

theorem Supervised.of_move (dynamic : params.strategy = .dynamic profile)
    (supervised : Supervised profile state) (move : Move params state action next) :
    Supervised profile next := by
  cases move with
  | worker index action worker moved event found stepped =>
    obtain ⟨same, _⟩ := WorkerTask.step_frame stepped
    exact { supervised.of_set found same with }
  | spawn spawned concurrency durationSecs spawning constant =>
    rw [dynamic] at constant
    cases constant
  | spawnedAll | awaited | tickEnded | cancelledAll | tornDown | reportInterrupted | report
  | collect | collectFailed => exact supervised.leave rfl
  | joinAwaited handle remaining worker awaiting found => exact (supervised.join found).leave rfl
  | tickScaled elapsed other ticking strategy =>
    rw [dynamic] at strategy
    cases strategy
    refine supervised.of_phase (fun _ => by rw [ticking]; rfl) ?_ True.intro
    intro reading target current
    cases current
    rfl
  | scaleUp elapsed target scaling below => exact supervised.scaleUp scaling below
  | scaledUp elapsed target scaling reached =>
    have aimed := supervised.aimed
    rw [scaling] at aimed
    exact supervised.of_phase (fun _ => by rw [scaling]; rfl) aimed reached
  | scaleDown elapsed target scaling above => exact supervised.scaleDown scaling above
  | scaledDown elapsed target scaling reached =>
    have aimed := supervised.aimed
    have scaled := supervised.scaled
    rw [scaling] at aimed scaled
    exact supervised.of_phase (fun _ => by rw [scaling]; rfl) aimed (Nat.le_antisymm reached scaled)
  | joinReaped elapsed target handle remaining worker reaping reaped found =>
    exact { supervised.join found with }
  | reapedAll elapsed target reaping =>
    have aimed := supervised.aimed
    have scaled := supervised.scaled
    rw [reaping] at aimed scaled
    exact supervised.of_phase (fun _ => by rw [reaping]; rfl) aimed scaled
  | wake elapsed target sleeping =>
    exact
      supervised.of_phase (fun _ => by rw [sleeping]; rfl)
        (fun _ _ current => nomatch current) True.intro
  | cancelToken => exact supervised.cancelToken
  | joinTorn handle remaining worker tearing found => exact (supervised.join found).leave rfl
  | receive | finish | aggregatorPanic | signal | cancelAll => exact { supervised with }

end Preservation

variable {params : RunParams} {profile : LoadProfile} {state : RunState}

structure Follows (profile : LoadProfile) (state : RunState) : Prop where
  tokens : state.childTokens.length = state.currentConcurrency
  handles : state.handles.length = state.currentConcurrency
  bounded : state.uncancelled ≤ profile.concurrencyUpperBound
  settled :
    ∀ elapsed target,
      state.phase = .sleeping elapsed target →
        state.uncancelled = profile.targetConcurrency elapsed ∧
          ∀ worker ∈ state.workers, worker.cancelled = true → worker.joined = true
  torn : ∀ result, state.phase = .returned result → ∀ worker ∈ state.workers, worker.joined = true

end RunState

end Strobengine.Local
