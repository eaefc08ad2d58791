import Strobengine.Protocols.Http3.Session

/-!
# Accepted 0-RTT connections

An iteration that opens a connection reports that it has attempted 0-RTT, accepted or not; a
persistent iteration that opens none reports once more what was accepted before.
-/

namespace Strobengine.Protocols.Http3

open Foundations Metrics

namespace Seen

def metric? : Seen → Option RequestMetric
  | returned metric => some metric
  | _ => none

def reported (seen : Seen) : Nat :=
  seen.metric?.elim 0 RequestMetric.zeroRtt

def isAccepted : Seen → Bool
  | opened handshake => handshake.accepted
  | _ => false

def accepted (seen : Seen) : Nat :=
  seen.isAccepted.toNat

end Seen

/-- The worker has a connection whose 0-RTT was accepted and on which no request has come to its
end: the connection is being set up, or its first request is under way or still to be made. -/
def Worker.unused : Worker → Bool
  | creating (some handshake) | persistent _ (some (_, .setup _ handshake))
  | persistent _ (some (_, .again _ handshake)) => handshake.accepted
  | stateless (some (_, .setup connected)) | stateless (some (_, .request connected)) =>
    connected.handshake.accepted
  | persistent session none | persistent session (some (_, .sleep)) =>
    session.accepted && session.iterations == 0
  | persistent session (some (_, .request _)) => session.accepted && session.iterations == 1
  | _ => false

/-- The server rejects no attempt, but for that of a context. Nothing is cut off while it has an
accepted connection unused, and the first request on such a connection of a session is answered. No
later request on it is; the reconnect then succeeds, and a new 1-RTT connection is set up. -/
def Worker.usesOnce (worker : Worker) (action : Action) : Prop :=
  match worker, action.event with
  | .creating _, .connected _ _ => True
  | _, .connected _ handshake => handshake ≠ .zeroRtt false
  | .persistent session (some (_, .request _)), .answered _ _ =>
    session.accepted = true → session.iterations = 1
  | .persistent session (some (_, .connect _ _)), .connectFailed => session.accepted = false
  | .persistent session (some (_, .setup _ handshake)), .setupFailed =>
    handshake = .oneRtt → session.accepted = false
  | .persistent _ (some (_, .sleep)), .deadline => True
  | worker@(.persistent _ (some (_, .request _))), .requestFailed
  | worker, .setupFailed | worker, .deadline | worker, .cancelled => worker.unused = false
  | _, _ => True

instance (worker : Worker) (action : Action) : Decidable (worker.usesOnce action) := by
  unfold Worker.usesOnce
  split <;> infer_instance

def Worker.Sound : Worker → Prop
  | .stateless (some (_, .setup connected)) | .stateless (some (_, .request connected)) =>
    connected.handshake.isZeroRtt = connected.handshake.accepted
  | .persistent session (some (_, .request outcome))
  | .persistent session (some (_, .connect outcome _)) =>
    session.iterations ≠ 0 ∧ outcome.usedZeroRtt = false
  | .persistent session (some (_, .setup outcome handshake)) =>
    session.iterations ≠ 0 ∧ outcome.usedZeroRtt = handshake.isZeroRtt ∧
      handshake.isZeroRtt = handshake.accepted
  | .persistent session (some (_, .again outcome handshake)) =>
    session.iterations ≠ 0 ∧ outcome.usedZeroRtt = handshake.accepted ∧
      session.accepted = handshake.accepted
  | _ => True

/-- What the metrics of a step count, with the connection the worker has unused after it, is the
one it had unused before with those that the step has opened. -/
structure Balanced (before : Bool) (result : Worker × List Seen) : Prop where
  sound : result.1.Sound
  sums :
    (result.2.map Seen.reported).sum + result.1.unused.toNat =
      before.toNat + (result.2.map Seen.accepted).sum

theorem isZeroRtt_eq_accepted {handshake : Handshake} (kept : handshake ≠ .zeroRtt false) :
    handshake.isZeroRtt = handshake.accepted := by
  cases handshake with
  | oneRtt => rfl
  | zeroRtt accepted =>
    cases accepted with
    | true => rfl
    | false => exact absurd rfl kept

theorem accepted_zeroRttAccepted (handshake : Handshake) :
    handshake.zeroRttAccepted.getD false = handshake.accepted := by
  cases handshake <;> rfl

section Balance

variable {before : Bool} {next : Worker}

theorem balanced_nil (sound : next.Sound) (unused : next.unused = before) :
    Balanced before (next, []) :=
  ⟨sound, (Nat.zero_add _).trans (congrArg Bool.toNat unused)⟩

theorem balanced_opened {handshake : Handshake} (sound : next.Sound) (none : before = false)
    (unused : next.unused = handshake.accepted) :
    Balanced before (next, [.opened handshake]) := by
  refine ⟨sound, ?_⟩
  rw [none, unused]
  rfl

theorem balanced_returned {metric : RequestMetric} (sound : next.Sound)
    (counted : metric.zeroRtt + next.unused.toNat = before.toNat) :
    Balanced before (next, [.returned metric]) :=
  ⟨sound, counted⟩

end Balance

/-! ## The context and stateless iterations -/

variable {engine : Http3Engine} {action : Action} {result : Worker × List Seen}

theorem balanced_create {handshake : Option Handshake}
    (allowed : (Worker.creating handshake).usesOnce action)
    (taken : Worker.create engine handshake action.event = some result) :
    Balanced (Worker.creating handshake).unused result := by
  unfold Worker.usesOnce at allowed
  generalize action.event = event at taken allowed
  unfold Worker.create at taken
  split at taken
  · split at taken <;> cases taken
    exact balanced_opened True.intro rfl rfl
  · rename_i handshake
    cases taken
    refine balanced_nil True.intro ?_
    exact (Bool.and_true _).trans (accepted_zeroRttAccepted handshake)
  · cases taken
    exact balanced_nil True.intro rfl
  · cases taken
    exact balanced_nil True.intro (Eq.symm allowed)
  · cases taken
    exact balanced_nil True.intro (Eq.symm allowed)
  · cases taken

theorem balanced_startStateless (iteration : Iteration) (action : Action) :
    Balanced false (iteration.startStateless action) := by
  unfold Iteration.startStateless
  split
  · exact balanced_returned True.intro rfl
  · exact balanced_nil True.intro rfl
  · exact balanced_nil True.intro rfl

theorem balanced_resumeStateless {iteration : Iteration} {await : StatelessAwait}
    (sound : (Worker.stateless (some (iteration, await))).Sound)
    (allowed : (Worker.stateless (some (iteration, await))).usesOnce action)
    (taken : iteration.resumeStateless action engine await action.event = some result) :
    Balanced (Worker.stateless (some (iteration, await))).unused result := by
  unfold Worker.usesOnce at allowed
  generalize action.event = event at taken allowed
  unfold Iteration.resumeStateless at taken
  split at taken
  · cases taken
    exact balanced_nil True.intro rfl
  · split at taken <;> cases taken
    exact balanced_opened (isZeroRtt_eq_accepted allowed) rfl rfl
  · cases taken
    exact balanced_returned True.intro rfl
  · cases taken
    exact balanced_returned True.intro (congrArg Bool.toNat allowed).symm
  · cases taken
    exact balanced_nil sound rfl
  · cases taken
    exact balanced_returned True.intro (congrArg Bool.toNat sound)
  · cases taken
    exact balanced_returned True.intro (congrArg Bool.toNat sound)
  · cases taken
    exact balanced_returned True.intro (congrArg Bool.toNat allowed).symm
  · cases taken
    exact balanced_nil True.intro (Eq.symm allowed)
  · cases taken

/-! ## Persistent sessions -/

namespace Http3Session

variable {session : Http3Session} {iteration : Iteration} {action : Action}

theorem unused_of_entered (entered : session.iterations ≠ 0) :
    (Worker.persistent session none).unused = false := by
  rw [Worker.unused, beq_eq_false_iff_ne.mpr entered, Bool.and_false]

theorem balanced_enter (engine : Http3Engine) :
    Balanced (Worker.persistent session none).unused (session.enter iteration action engine) := by
  refine balanced_nil ⟨Nat.succ_ne_zero _, rfl⟩ ?_
  simp [Worker.unused, accepted]

theorem balanced_start (engine : Http3Engine) :
    Balanced (Worker.persistent session none).unused (session.start iteration action engine) := by
  unfold start
  split
  · exact balanced_returned True.intro (Nat.zero_add _)
  · exact balanced_nil True.intro rfl
  · exact balanced_enter engine

theorem balanced_complete {outcome : Outcome} {before : Bool} {status bytes : Nat}
    (entered : session.iterations ≠ 0) (reported : session.reportsZeroRtt outcome = before) :
    Balanced before (session.complete iteration action outcome status bytes) := by
  have none :
      (Worker.persistent { session with prevLostPackets := action.lostPackets } none).unused =
        false :=
    unused_of_entered entered
  refine balanced_returned True.intro ?_
  rw [none]
  exact congrArg Bool.toNat reported

theorem balanced_resume {engine : Http3Engine} {await : SessionAwait} {result : Worker × List Seen}
    (sound : (Worker.persistent session (some (iteration, await))).Sound)
    (allowed : (Worker.persistent session (some (iteration, await))).usesOnce action)
    (taken : session.resume iteration action engine await action.event = some result) :
    Balanced (Worker.persistent session (some (iteration, await))).unused result := by
  unfold Worker.usesOnce at allowed
  generalize action.event = event at taken allowed
  unfold resume at taken
  split at taken
  · cases taken
    exact balanced_enter engine
  · cases taken
    -- an accepted connection is counted by its first request
    refine balanced_complete sound.1 ?_
    rw [reportsZeroRtt, sound.2, Bool.false_or, Worker.unused]
    cases accepted : session.accepted with
    | false => rfl
    | true => simp [allowed accepted]
  · cases taken
    exact balanced_nil sound (Eq.symm allowed)
  · split at taken <;> cases taken
    exact balanced_opened ⟨sound.1, rfl, isZeroRtt_eq_accepted allowed⟩ rfl rfl
  · cases taken
    refine balanced_complete sound.1 ?_
    rw [reportsZeroRtt, sound.2, allowed]
    rfl
  · rename_i outcome handshake
    cases taken
    refine balanced_complete sound.1 ?_
    rw [reportsZeroRtt, sound.2.1, Worker.unused, ← sound.2.2]
    cases handshake with
    | oneRtt => exact allowed rfl
    | zeroRtt => rfl
  · rename_i outcome handshake
    cases taken
    exact balanced_nil ⟨sound.1, sound.2.1.trans sound.2.2, accepted_zeroRttAccepted handshake⟩ rfl
  · cases taken
    refine balanced_complete sound.1 ?_
    rw [reportsZeroRtt, sound.2.1, sound.2.2]
    exact Bool.or_self _
  · cases taken
    refine balanced_complete sound.1 ?_
    rw [reportsZeroRtt, sound.2.1, sound.2.2]
    exact Bool.or_self _
  · cases taken
    refine balanced_returned True.intro ((Nat.zero_add _).trans (congrArg Bool.toNat ?_))
    cases await with
    | sleep => rfl
    | request | connect | setup | again =>
      exact (unused_of_entered sound.1).trans (Eq.symm allowed)
  · cases taken
    refine balanced_nil True.intro ?_
    cases await <;> exact Eq.symm allowed
  · cases taken

end Http3Session

theorem balanced_step {worker : Worker} (sound : worker.Sound) (allowed : worker.usesOnce action)
    (taken : worker.step engine action = some result) : Balanced worker.unused result := by
  unfold Worker.step at taken
  split at taken
  · exact balanced_create allowed taken
  · split at taken <;> cases taken
    · exact balanced_startStateless _ action
    · exact balanced_nil True.intro rfl
  · exact balanced_resumeStateless sound allowed taken
  · unfold Worker.usesOnce at allowed
    generalize action.event = event at taken allowed
    split at taken <;> cases taken
    · exact Http3Session.balanced_start engine
    · exact balanced_nil True.intro (Eq.symm allowed)
  · exact Http3Session.balanced_resume sound allowed taken
  · cases taken

def Run (engine : Http3Engine) (guard : Worker → Action → Prop) (workers : Nat)
    (run : Tracked (List Worker) Seen) : Prop :=
  Reaches (Tracked.step (oneOf (Worker.step engine))) (guardOf guard)
    (.start (List.replicate workers .new)) run

def metrics (log : List Seen) : List RequestMetric :=
  log.filterMap Seen.metric?

theorem reported_add_unused {workers : Nat} {run : Tracked (List Worker) Seen}
    (reached : Run engine Worker.usesOnce workers run) :
    (run.log.map Seen.reported).sum + run.state.countP Worker.unused =
      run.log.countP Seen.isAccepted := by
  rw [← sum_map_toNat, ← sum_map_toNat]
  refine
    Tracked.members_ledger Worker.Sound Seen.reported Seen.accepted
      (fun worker => worker.unused.toNat) ?_ ?_ ?_ reached
  · intro worker action moved emitted sound allowed taken
    have balanced := balanced_step sound allowed taken
    exact ⟨balanced.sound, balanced.sums⟩
  · intro worker present
    rw [List.eq_of_mem_replicate present]
    exact True.intro
  · rw [sum_map_toNat]
    refine (Nat.zero_add _).trans (List.countP_eq_zero.mpr ?_)
    intro worker present
    rw [List.eq_of_mem_replicate present]
    exact Bool.false_ne_true

/-- When all workers have ended, the summary has all accepted connections, in whatever order
and at whatever times the metrics arrive. -/
theorem zeroRttAcceptedCount_eq_accepted
    {engine : Http3Engine} {workers : Nat} {run : Tracked (List Worker) Seen}
    (reached : Run engine Worker.usesOnce workers run)
    (ended : ∀ worker ∈ run.state, worker = .ended) {rounds : List Round}
    (received : (rounds.map Round.metric).Perm (metrics run.log))
    (hdr : HdrStatistics) (timelineIntervalMs : Nat) (begun finished : Nat → Nat) :
    (finalizeMetrics hdr timelineIntervalMs begun rounds finished).zeroRttAcceptedCount =
      run.log.countP Seen.isAccepted := by
  have balanced := reported_add_unused reached
  have none : run.state.countP Worker.unused = 0 := by
    refine List.countP_eq_zero.mpr ?_
    intro worker present
    rw [ended worker present]
    exact Bool.false_ne_true
  rw [none, Nat.add_zero] at balanced
  calc
    (finalizeMetrics hdr timelineIntervalMs begun rounds finished).zeroRttAcceptedCount
        = ((rounds.map Round.metric).map RequestMetric.zeroRtt).sum :=
          zeroRttAcceptedCount_finalizeMetrics hdr timelineIntervalMs begun finished rounds
    _ = ((metrics run.log).map RequestMetric.zeroRtt).sum :=
          (received.map RequestMetric.zeroRtt).sum_eq
    _ = (run.log.map Seen.reported).sum :=
          sum_map_filterMap Seen.metric? RequestMetric.zeroRtt run.log
    _ = run.log.countP Seen.isAccepted := balanced

private def eager : Http3Engine :=
  { zeroRtt := true, migrate := false, migrateEvery := 10, timeoutMicros := 5000000 }

private def Event.at (event : Event) (now : Nat) : Action :=
  { now, rebound := false, cwnd := 12000, lostPackets := 0, event }

/-- Three workers: the session of the first is accepted and connects again, also accepted;
the second is stateless and accepted once; the session of the third is rejected. -/
theorem zeroRttAcceptedCount_eq_accepted_sample :
    ∃ run : Tracked (List Worker) Seen,
      Run eager Worker.usesOnce 3 run ∧ (∀ worker ∈ run.state, worker = .ended) ∧
        (metrics run.log).length = 6 ∧
        (finalizeMetrics .sample 0 0 (receivedAtOnce (metrics run.log)) 0).zeroRttAcceptedCount =
          3 := by
  refine
    Reaches.exists_imp_of_executeChecked
      (fun run => (∀ worker ∈ run.state, worker = .ended) ∧ (metrics run.log).length = 6 ∧
        run.log.countP Seen.isAccepted = 3)
      [(0, (Event.connected 3 (.zeroRtt true)).at 1), (0, Event.ready.at 2),
        (1, Event.connectFailed.at 3), (2, (Event.connected 3 (.zeroRtt false)).at 4),
        (2, Event.ready.at 5), (0, (Event.begin none).at 6), (2, (Event.begin none).at 7),
        (0, (Event.answered 200 10).at 8), (2, (Event.answered 200 10).at 9),
        (1, (Event.begin none).at 10), (1, (Event.connected 3 (.zeroRtt true)).at 11),
        (0, (Event.begin none).at 12), (0, Event.requestFailed.at 13), (1, Event.ready.at 14),
        (0, (Event.connected 3 (.zeroRtt true)).at 15), (0, Event.ready.at 16),
        (1, (Event.answered 200 10).at 17), (0, (Event.answered 200 10).at 18),
        (1, (Event.begin none).at 19), (1, (Event.connected 3 .oneRtt).at 20),
        (1, Event.ready.at 21), (1, Event.requestFailed.at 22),
        (2, (Event.begin none).at 23), (2, Event.deadline.at 24), (0, Event.cancelled.at 25),
        (1, Event.cancelled.at 26), (2, Event.cancelled.at 27)]
      (by decide +kernel) ?_
  rintro run reached ⟨ended, returned, accepted⟩
  refine ⟨ended, returned, ?_⟩
  rw [zeroRttAcceptedCount_eq_accepted reached ended (perm_receivedAtOnce _) .sample 0 0 0]
  exact accepted

/-- The rejected attempt of a stateless iteration is counted. An accepted session is counted
by each of its two iterations. An accepted connection that cannot be set up is not counted. -/
theorem zeroRttAcceptedCount_miscounts :
    (∃ run : Tracked (List Worker) Seen,
      Run eager unguarded 1 run ∧ (∀ worker ∈ run.state, worker = .ended) ∧
        run.log.countP Seen.isAccepted = 0 ∧
        (finalizeMetrics .sample 0 0 (receivedAtOnce (metrics run.log)) 0).zeroRttAcceptedCount =
          1) ∧
    (∃ run : Tracked (List Worker) Seen,
      Run eager unguarded 1 run ∧ (∀ worker ∈ run.state, worker = .ended) ∧
        run.log.countP Seen.isAccepted = 1 ∧
        (finalizeMetrics .sample 0 0 (receivedAtOnce (metrics run.log)) 0).zeroRttAcceptedCount =
          2) ∧
    ∃ run : Tracked (List Worker) Seen,
      Run eager unguarded 1 run ∧ (∀ worker ∈ run.state, worker = .ended) ∧
        run.log.countP Seen.isAccepted = 1 ∧
        (finalizeMetrics .sample 0 0 (receivedAtOnce (metrics run.log)) 0).zeroRttAcceptedCount =
          0 := by
  refine ⟨?_, ?_, ?_⟩
  · exact
      Reaches.exists_of_executeChecked
        [(0, Event.connectFailed.at 1), (0, (Event.begin none).at 2),
          (0, (Event.connected 3 (.zeroRtt false)).at 3), (0, Event.ready.at 4),
          (0, (Event.answered 200 10).at 5), (0, Event.cancelled.at 6)]
        (by decide +kernel)
  · exact
      Reaches.exists_of_executeChecked
        [(0, (Event.connected 3 (.zeroRtt true)).at 1), (0, Event.ready.at 2),
          (0, (Event.begin none).at 3), (0, (Event.answered 200 10).at 4),
          (0, (Event.begin none).at 5), (0, (Event.answered 200 10).at 6),
          (0, Event.cancelled.at 7)]
        (by decide +kernel)
  · exact
      Reaches.exists_of_executeChecked
        [(0, Event.connectFailed.at 1), (0, (Event.begin none).at 2),
          (0, (Event.connected 3 (.zeroRtt true)).at 3), (0, Event.setupFailed.at 4),
          (0, Event.cancelled.at 5)]
        (by decide +kernel)

end Strobengine.Protocols.Http3
