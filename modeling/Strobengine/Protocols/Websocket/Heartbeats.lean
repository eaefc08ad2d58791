import Mathlib.Algebra.Group.Prod
import Strobengine.Protocols.Websocket.Roles

/-!
# Heartbeats

An iteration counts pings and unsolicited pongs while it waits for a data frame. The counts are
lost when it is cut off, and in a subscriber also by a Close, the end of the stream or an error. A
persistent session remembers the counts of its last read, and an iteration whose send fails reports
them again.
-/

namespace Strobengine.Protocols.Websocket

open Foundations Metrics

/-! ## Pings and pongs -/

def heartbeats (metric : RequestMetric) : ℕ × ℕ :=
  (metric.protocol.bind ProtocolSample.ws?).elim 0 (fun sample =>
    (sample.pingsReceived, sample.pongsUnsolicited))

def Seen.reported : Seen → ℕ × ℕ
  | returned metric => heartbeats metric
  | _ => 0

def Seen.heard : Seen → ℕ × ℕ
  | ping => (1, 0)
  | pong => (0, 1)
  | _ => 0

structure Quiet (seen : List Seen) : Prop where
  reported : (seen.map Seen.reported).sum = 0
  heard : (seen.map Seen.heard).sum = 0

theorem quiet_nil : Quiet [] :=
  ⟨rfl, rfl⟩

theorem Quiet.opened {seen : List Seen} (quiet : Quiet seen) : Quiet (.opened :: seen) :=
  ⟨by simpa [Seen.reported] using quiet.reported, by simpa [Seen.heard] using quiet.heard⟩

theorem quiet_error (latency : Nat) (fault : Option ChaosFault) :
    Quiet [.returned (RequestMetric.error latency fault)] :=
  ⟨rfl, rfl⟩

namespace RoleWorker

variable {Link Task Step : Type}

def counted (count : Task → ℕ × ℕ) (worker : RoleWorker Link Task) : ℕ × ℕ :=
  match worker.suspended with
  | some (_, .working task) => count task
  | _ => 0

theorem counted_zero (worker : RoleWorker Link Task) : worker.counted (fun _ => 0) = 0 := by
  unfold counted
  split <;> rfl

def attends (count : Task → ℕ × ℕ) (cuts : RoleEvent Step → Bool)
    (worker : RoleWorker Link Task) (action : RoleAction Step) : Prop :=
  cuts action.event = true → worker.counted count = 0
  deriving Decidable

structure Counts (role : Role Link Task Step) (count : Task → ℕ × ℕ)
    (cuts : RoleEvent Step → Bool) : Prop where
  begins : ∀ iteration nowNs, count (role.task iteration nowNs) = 0
  suspends :
    ∀ iteration action link task step nextLink next,
      role.work iteration action link task step = some (.suspended nextLink next) →
        ((role.heard step).map Seen.reported).sum + count next =
          count task + ((role.heard step).map Seen.heard).sum
  returns :
    ∀ iteration action link task step nextLink metric,
      role.work iteration action link task step = some (.returned nextLink metric) →
        (cuts (.work step) = true → count task = 0) →
          ((role.heard step).map Seen.reported).sum + heartbeats metric =
            count task + ((role.heard step).map Seen.heard).sum
  deadline : cuts .deadline = true
  cancelled : cuts .cancelled = true

section Counting

variable {role : Role Link Task Step} {count : Task → ℕ × ℕ} {cuts : RoleEvent Step → Bool}
  {worker : RoleWorker Link Task} {iteration : RoleIteration} {action : RoleAction Step}

theorem quiet_enter (counts : Counts role count cuts) :
    Quiet (worker.enter role iteration action).2 ∧
      (worker.enter role iteration action).1.counted count = 0 := by
  unfold enter
  split
  · exact ⟨quiet_error _ _, rfl⟩
  · exact ⟨quiet_nil, counts.begins _ _⟩

theorem quiet_applyChaos (counts : Counts role count cuts) :
    Quiet (worker.applyChaos role iteration action).2 ∧
      (worker.applyChaos role iteration action).1.counted count = 0 := by
  unfold applyChaos
  split
  · exact ⟨quiet_error _ _, rfl⟩
  · exact ⟨quiet_nil, rfl⟩
  · exact quiet_enter counts

theorem quiet_start (counts : Counts role count cuts) :
    Quiet (worker.start role iteration action).2 ∧
      (worker.start role iteration action).1.counted count = 0 := by
  unfold start
  split
  · exact quiet_applyChaos counts
  · exact ⟨quiet_nil, rfl⟩

theorem quiet_connected (counts : Counts role count cuts) :
    Quiet (worker.connected role iteration action).2 ∧
      (worker.connected role iteration action).1.counted count = 0 := by
  unfold connected
  exact ⟨(quiet_applyChaos counts).1.opened, (quiet_applyChaos counts).2⟩

theorem balanced_step (counts : Counts role count cuts) {timeoutMicros : Nat}
    {result : RoleWorker Link Task × List Seen} (allowed : worker.attends count cuts action)
    (taken : worker.step role timeoutMicros action = some result) :
    (result.2.map Seen.reported).sum + result.1.counted count =
      worker.counted count + (result.2.map Seen.heard).sum := by
  have balanced (nothing : worker.counted count = 0)
      (quiet : Quiet result.2 ∧ result.1.counted count = 0) :
      (result.2.map Seen.reported).sum + result.1.counted count =
        worker.counted count + (result.2.map Seen.heard).sum := by
    rw [quiet.1.reported, quiet.1.heard, nothing, quiet.2]
  cases moves_of_step taken with
  | cancelled event => exact balanced (allowed (event ▸ counts.cancelled)) ⟨quiet_nil, rfl⟩
  | begins place => exact balanced (by rw [counted, place]) (quiet_start counts)
  | connects place => exact balanced (by rw [counted, place]) (quiet_connected counts)
  | refused place => exact balanced (by rw [counted, place]) ⟨quiet_error _ _, rfl⟩
  | enters place => exact balanced (by rw [counted, place]) (quiet_enter counts)
  | expires place event => exact balanced (allowed (event ▸ counts.deadline)) ⟨quiet_error _ _, rfl⟩
  | @works iteration task step link done place event worked =>
    have before : worker.counted count = count task := by rw [counted, place]
    rw [before]
    cases done with
    | suspended =>
      have kept := counts.suspends _ _ _ _ _ _ _ worked
      simpa [progress, suspend, counted] using kept
    | returned =>
      have reports :=
        counts.returns _ _ _ _ _ _ _ worked (fun cut => before ▸ allowed (event ▸ cut))
      simpa [progress, finish, counted, Seen.reported, Seen.heard] using reports

end Counting

end RoleWorker

/-! ## Publishers and subscribers -/

theorem counts_publisher (engine : RoleEngine) :
    RoleWorker.Counts engine.publisher (fun _ => 0) (fun _ => true) where
  begins _ _ := rfl
  suspends _ _ _ _ _ _ _ _ := rfl
  returns iteration action link task step nextLink metric worked _ := by
    have silent : heartbeats metric = 0 := by
      simp only [RoleEngine.publisher] at worked
      unfold RoleEngine.publish at worked
      split at worked <;> cases worked <;> rfl
    rw [silent]
    rfl
  deadline := rfl
  cancelled := rfl

def SubscriberTask.count (task : SubscriberTask) : ℕ × ℕ :=
  (task.pings, task.pongs)

/-- Everything but a data frame ends a subscriber's iteration without a report. -/
def subscriberCuts : RoleEvent SubscriberStep → Bool
  | .work (.frame .close) | .work .streamEnded | .work .readFailed | .work .timedOut
  | .deadline | .cancelled => true
  | _ => false

theorem heartbeats_received (task : SubscriberTask) (iteration : RoleIteration)
    (action : RoleAction SubscriberStep) (data : List UInt8) :
    heartbeats (task.received iteration action data) = task.count := by
  unfold heartbeats SubscriberTask.received SubscriberTask.count
  split
  · rfl
  · rename_i nothing
    rw [not_or, Nat.not_lt, Nat.le_zero, Nat.not_lt, Nat.le_zero] at nothing
    rw [nothing.1, nothing.2]
    rfl

theorem counts_subscriber : RoleWorker.Counts subscriber SubscriberTask.count subscriberCuts where
  begins _ _ := rfl
  suspends iteration action link task step nextLink next worked := by
    simp only [subscriber] at worked ⊢
    unfold subscribe at worked
    split at worked <;> cases worked <;>
      simp [SubscriberStep.heard, SubscriberTask.count, Seen.reported, Seen.heard]
  returns iteration action link task step nextLink metric worked allowed := by
    simp only [subscriber] at worked ⊢
    unfold subscribe at worked
    split at worked <;> cases worked
    · exact (zero_add _).trans (heartbeats_received _ _ _ _)
    · exact (zero_add _).trans (heartbeats_received _ _ _ _)
    all_goals
      rw [allowed rfl]
      rfl
  deadline := rfl
  cancelled := rfl

def PersistentWsSession.remembered (session : PersistentWsSession) : ℕ × ℕ :=
  (session.lastPingsReceived, session.lastPongsReceived)

theorem PersistentWsSession.heartbeats_metric (session : PersistentWsSession)
    (iteration : Iteration)
    (now latency status bytes : Nat) :
    heartbeats (session.metric iteration now latency status bytes) = session.remembered := by
  simp only [heartbeats, metric, wsSample, remembered]
  split
  · rfl
  · rename_i nothing
    simp only [WsSample.isSignificant, Nat.lt_irrefl, decide_false, Bool.false_or,
      Bool.or_false, Bool.or_eq_true, decide_eq_true_eq, not_or, Nat.not_lt, Nat.le_zero]
      at nothing
    rw [nothing.1, nothing.2]
    rfl

def countedAt : Option (Iteration × Await) → ℕ × ℕ
  | some (_, .read _ pings pongs) => (pings, pongs)
  | _ => 0

def FreshAt (session : PersistentWsSession) : Option (Iteration × Await) → Prop
  | some (_, .read _ _ _) => session.remembered = 0
  | _ => True

def Turn.seen (turn : Turn) : List Seen :=
  turn.emitted.map Output.seen

structure Turn.Calm (turn : Turn) : Prop where
  quiet : Quiet turn.seen
  counted : countedAt turn.suspended = 0
  fresh : FreshAt turn.session turn.suspended

namespace PersistentWsSession

variable {session : PersistentWsSession} (iteration : Iteration) (now : Nat)

theorem calm_error (latency : Nat) (fault : Option ChaosFault) :
    (session.finish iteration none (RequestMetric.error latency fault)).Calm :=
  ⟨quiet_error _ _, rfl, True.intro⟩

theorem calm_suspend {await : Await} (counted : countedAt (some (iteration, await)) = 0)
    (fresh : FreshAt session (some (iteration, await))) :
    (session.suspend iteration await).Calm :=
  ⟨quiet_nil, counted, fresh⟩

theorem calm_fail (latency : Nat) (nothing : session.remembered = 0) :
    (session.fail iteration now latency).Calm := by
  refine ⟨⟨?_, rfl⟩, rfl, True.intro⟩
  have silent := session.heartbeats_metric iteration now latency 0 0
  rw [nothing] at silent
  simpa [fail, finish, Turn.seen, Output.seen, Seen.reported] using silent

theorem calm_sendFailed (latency : Nat) (nothing : session.remembered = 0) :
    (session.sendFailed iteration now latency).Calm := by
  apply calm_fail
  exact nothing

theorem calm_accepted (engine : WebSocketEngine) (latency : Nat) (connection : Connection) :
    (session.accepted iteration engine latency connection).Calm :=
  calm_suspend iteration rfl True.intro

theorem calm_flushed (latency : Nat) : (session.flushed iteration latency).Calm :=
  calm_suspend iteration rfl rfl

theorem calm_sendAndReceive (latency : Nat) (connected : session.stream.isSome) :
    (session.sendAndReceive iteration now latency).Calm := by
  obtain ⟨connection, stream⟩ := Option.isSome_iff_exists.mp connected
  simp only [sendAndReceive, stream]
  exact calm_suspend iteration rfl True.intro

theorem calm_ensureConnected : (session.ensureConnected iteration now).Calm := by
  unfold ensureConnected
  split
  · rename_i usable
    rw [Bool.and_eq_true] at usable
    exact calm_sendAndReceive iteration now 0 usable.1
  · exact calm_suspend iteration rfl True.intro

theorem calm_start : (session.start iteration now).Calm := by
  unfold start
  split
  · exact calm_error iteration _ _
  · exact calm_suspend iteration rfl True.intro
  · exact calm_ensureConnected iteration now

theorem calm_connected (start : Nat) : (session.connected iteration now start).Calm :=
  calm_sendAndReceive iteration now _ rfl

end PersistentWsSession

def Worker.cuts : Event → Bool
  | .timedOut | .deadline | .cancelled => true
  | _ => false

/-- An iteration that has counted something is not cut off, and no send fails after a read that
has counted something. -/
def Worker.attends (worker : Worker) (action : Action) : Prop :=
  (cuts action.event = true → countedAt worker.suspended = 0) ∧
    (action.event = .sendFailed → worker.session.remembered = 0)
  deriving Decidable

structure Turn.Balances (turn : Turn) (before : ℕ × ℕ) (event : Event) : Prop where
  fresh : FreshAt turn.session turn.suspended
  sums :
    ((event.seen ++ turn.seen).map Seen.reported).sum + countedAt turn.suspended =
      before + ((event.seen ++ turn.seen).map Seen.heard).sum

theorem Turn.Calm.balances {turn : Turn} (calm : turn.Calm) {before : ℕ × ℕ} {event : Event}
    (nothing : before = 0) (quiet : Quiet event.seen) : turn.Balances before event := by
  refine ⟨calm.fresh, ?_⟩
  simp [quiet.reported, quiet.heard, calm.quiet.reported, calm.quiet.heard, calm.counted, nothing]

theorem PersistentWsSession.balances_finish (session : PersistentWsSession)
    (iteration : Iteration) (now latency status bytes : Nat) (response : Option Reply)
    {event : Event} (quiet : Quiet event.seen) :
    (session.finish iteration response
      (session.metric iteration now latency status bytes)).Balances session.remembered
        event := by
  refine ⟨True.intro, ?_⟩
  simp [quiet.reported, quiet.heard, finish, Turn.seen, Output.seen, Seen.reported, Seen.heard,
    countedAt, session.heartbeats_metric]

theorem Worker.balances_resume {engine : WebSocketEngine} {session : PersistentWsSession}
    {iteration : Iteration} {now : Nat} {await : Await} {event : Event} {turn : Turn}
    (fresh : FreshAt session (some (iteration, await)))
    (whole : cuts event = true → countedAt (some (iteration, await)) = 0)
    (sends : event = .sendFailed → session.remembered = 0)
    (resumed : resume engine session iteration now await event = some turn) :
    turn.Balances (countedAt (some (iteration, await))) event := by
  unfold resume at resumed
  split at resumed
  · cases resumed
    exact (session.calm_ensureConnected iteration now).balances rfl quiet_nil
  · cases resumed
    exact (session.calm_connected iteration now _).balances rfl quiet_nil.opened
  · cases resumed
    exact (session.calm_error iteration _ _).balances rfl quiet_nil
  · obtain ⟨connection, _, rfl⟩ := Option.map_eq_some_iff.mp resumed
    exact (session.calm_accepted iteration engine _ connection).balances rfl quiet_nil
  · cases resumed
    exact (session.calm_sendFailed iteration now _ (sends rfl)).balances rfl quiet_nil
  · cases resumed
    exact (session.calm_flushed iteration _).balances rfl quiet_nil
  · cases resumed
    exact (session.calm_sendFailed iteration now _ (sends rfl)).balances rfl quiet_nil
  · obtain ⟨⟨reply, connection⟩, _, rfl⟩ := Option.map_eq_some_iff.mp resumed
    exact PersistentWsSession.balances_finish _ iteration now _ _ _ _ quiet_nil
  · cases resumed
    refine ⟨fresh, ?_⟩
    simp [Event.seen, PersistentWsSession.suspend, Turn.seen, countedAt, Seen.reported, Seen.heard]
  · cases resumed
    refine ⟨fresh, ?_⟩
    simp [Event.seen, PersistentWsSession.suspend, Turn.seen, countedAt, Seen.reported, Seen.heard]
  · cases resumed
    exact PersistentWsSession.balances_finish _ iteration now _ _ _ _ quiet_nil
  · cases resumed
    exact (PersistentWsSession.calm_fail iteration now _ fresh).balances (whole rfl) quiet_nil
  · cases resumed
    exact (session.calm_error iteration _ _).balances (whole rfl) quiet_nil
  · cases resumed

def Worker.Fresh (worker : Worker) : Prop :=
  FreshAt worker.session worker.suspended

theorem Worker.balances_observed {engine : WebSocketEngine} {worker next : Worker} {action : Action}
    {emitted : List Seen} (fresh : worker.Fresh) (allowed : worker.attends action)
    (taken : worker.observed engine action = some (next, emitted)) :
    next.Fresh ∧
      (emitted.map Seen.reported).sum + countedAt next.suspended =
        countedAt worker.suspended + (emitted.map Seen.heard).sum := by
  unfold Fresh at fresh
  obtain ⟨whole, sends⟩ := allowed
  cases moves_of_observed taken with
  | answered => exact ⟨fresh, (zero_add _).trans (add_zero _).symm⟩
  | cancelled happened =>
    rw [whole (by rw [happened, cuts])]
    exact ⟨True.intro, rfl⟩
  | begins idle happened started =>
    rename_i fault turn
    have balances : turn.Balances 0 (.begin fault) := by
      rw [← started]
      exact (worker.session.calm_start _ _).balances rfl quiet_nil
    rw [idle]
    exact ⟨balances.fresh, balances.sums⟩
  | resumes place resumed =>
    rename_i iteration await turn
    rw [place] at fresh whole ⊢
    have balances : turn.Balances (countedAt (some (iteration, await))) action.event :=
      balances_resume fresh whole sends resumed
    exact ⟨balances.fresh, balances.sums⟩

namespace Session

def counted : Session → ℕ × ℕ
  | persistent worker => countedAt worker.suspended
  | publisher worker => worker.counted (fun _ => 0)
  | subscriber worker => worker.counted SubscriberTask.count

/-- No iteration is cut off when it has counted a heartbeat frame. -/
def attends : Session → SessionAction → Prop
  | persistent worker, .persistent action => worker.attends action
  | subscriber worker, .subscriber action =>
    worker.attends SubscriberTask.count subscriberCuts action
  | _, _ => True

instance : ∀ (session : Session) (action : SessionAction), Decidable (session.attends action)
  | persistent worker, .persistent action => inferInstanceAs (Decidable (worker.attends action))
  | subscriber worker, .subscriber action =>
    inferInstanceAs (Decidable (worker.attends SubscriberTask.count subscriberCuts action))
  | publisher _, _
  | persistent _, .push _ | persistent _, .publisher _ | persistent _, .subscriber _
  | subscriber _, .push _ | subscriber _, .persistent _ | subscriber _, .publisher _ =>
    isTrue True.intro

def Fresh : Session → Prop
  | persistent worker => worker.Fresh
  | _ => True

theorem balanced_step {engine : RoleEngine} {session next : Session} {action : SessionAction}
    {emitted : List Seen} (fresh : session.Fresh) (allowed : session.attends action)
    (taken : session.step engine action = some (next, emitted)) :
    next.Fresh ∧
      (emitted.map Seen.reported).sum + next.counted =
        session.counted + (emitted.map Seen.heard).sum := by
  unfold step at taken
  split at taken
  · obtain ⟨result, stepped, moved⟩ := Option.map_eq_some_iff.mp taken
    cases moved
    exact Worker.balances_observed fresh allowed stepped
  · obtain ⟨pushed, stepped, moved⟩ := Option.map_eq_some_iff.mp taken
    cases moved
    obtain ⟨connection, _, rfl⟩ := Option.map_eq_some_iff.mp stepped
    exact ⟨fresh, (zero_add _).trans (add_zero _).symm⟩
  · obtain ⟨result, stepped, moved⟩ := Option.map_eq_some_iff.mp taken
    cases moved
    exact ⟨True.intro,
      RoleWorker.balanced_step (counts_publisher engine)
        (fun _ => RoleWorker.counted_zero _) stepped⟩
  · obtain ⟨result, stepped, moved⟩ := Option.map_eq_some_iff.mp taken
    cases moved
    exact ⟨True.intro, RoleWorker.balanced_step counts_subscriber allowed stepped⟩
  · cases taken

end Session

def Session.idle : Session → Bool
  | persistent worker => worker.suspended.isNone
  | publisher worker => worker.suspended.isNone
  | subscriber worker => worker.suspended.isNone

theorem Session.counted_of_idle {session : Session} (idle : session.idle = true) :
    session.counted = 0 := by
  cases session with
  | persistent =>
    rw [Session.idle, Option.isNone_iff_eq_none] at idle
    rw [Session.counted, idle]
    rfl
  | publisher worker => exact RoleWorker.counted_zero worker
  | subscriber =>
    rw [Session.idle, Option.isNone_iff_eq_none] at idle
    rw [Session.counted, RoleWorker.counted, idle]

/-- The samples of a session report every ping and every unsolicited pong that was read, as
long as no iteration is cut off when it has counted one. -/
theorem heartbeats_reported {engine : RoleEngine} {session : Session}
    {run : Tracked Session Seen} (created : engine.createWorkerContext = some session)
    (reached :
      Reaches (Tracked.step (Session.step engine)) (Tracked.guardOn Session.attends)
        (.start session) run)
    (idle : run.state.idle = true) :
    (run.log.map Seen.reported).sum = (run.log.map Seen.heard).sum := by
  have new : session.Fresh ∧ session.counted = 0 :=
    RoleEngine.of_createWorkerContext (fun session => session.Fresh ∧ session.counted = 0)
      created ⟨True.intro, rfl⟩ ⟨True.intro, rfl⟩ ⟨True.intro, rfl⟩
  have ledger :=
    Tracked.ledger Session.Fresh Seen.reported Seen.heard Session.counted
      (fun _ _ _ _ _ fresh allowed taken => Session.balanced_step fresh allowed taken)
      new.1 (by rw [Tracked.start, new.2]; rfl) reached
  rw [Session.counted_of_idle idle, add_zero] at ledger
  exact ledger.2

def pinged : List SessionAction :=
  [.persistent ⟨0, .begin none⟩, .persistent ⟨1, .connected⟩, .persistent ⟨2, .accepted⟩,
    .persistent ⟨3, .flushed⟩, .persistent ⟨4, .ping⟩]

/-- A persistent session reads a ping and a pong before its data frame, and another ping
before the Close that ends its second iteration. -/
theorem heartbeats_reported_sample :
    ∃ run : Tracked Session Seen,
      Reaches (Tracked.step (Session.step (roleEngine none))) (Tracked.guardOn Session.attends)
          (.start (.persistent (.new (roleEngine none).toWebSocketEngine))) run ∧
        run.state.idle = true ∧ (run.log.map Seen.heard).sum = (2, 1) ∧
          (run.log.map Seen.reported).sum = (2, 1) := by
  refine
    Reaches.exists_imp_of_executeChecked
      (fun run => run.state.idle = true ∧ (run.log.map Seen.heard).sum = (2, 1))
      (pinged ++ [.persistent ⟨5, .answer [1]⟩, .persistent ⟨6, .pong⟩, .persistent ⟨7, .data⟩,
        .persistent ⟨8, .begin none⟩, .persistent ⟨9, .accepted⟩, .persistent ⟨10, .flushed⟩,
        .persistent ⟨11, .ping⟩, .persistent ⟨12, .terminated⟩])
      (by decide +kernel) ?_
  rintro run reached ⟨idle, heard⟩
  have created :
      (roleEngine none).createWorkerContext =
        some (.persistent (.new (roleEngine none).toWebSocketEngine)) := by
    decide
  exact ⟨idle, heard, (heartbeats_reported created reached idle).trans heard⟩

/-- A ping is lost when the read times out, and in a subscriber when a Close follows; it is
reported twice when the next send fails. -/
theorem heartbeats_lost_and_repeated :
    (∃ run : Tracked Session Seen,
        Reaches (Tracked.step (Session.step (roleEngine none))) unguarded
            (.start (.persistent (.new (roleEngine none).toWebSocketEngine))) run ∧
          run.state.idle = true ∧ (run.log.map Seen.heard).sum = (1, 0) ∧
            (run.log.map Seen.reported).sum = (0, 0)) ∧
      (∃ run : Tracked Session Seen,
          Reaches (Tracked.step (Session.step (roleEngine none))) unguarded
              (.start (.persistent (.new (roleEngine none).toWebSocketEngine))) run ∧
            run.state.idle = true ∧ (run.log.map Seen.heard).sum = (1, 0) ∧
              (run.log.map Seen.reported).sum = (2, 0)) ∧
        ∃ run : Tracked Session Seen,
          Reaches (Tracked.step (Session.step (roleEngine (some "subscriber")))) unguarded
              (.start (.subscriber .new)) run ∧
            run.state.idle = true ∧ (run.log.map Seen.heard).sum = (1, 0) ∧
              (run.log.map Seen.reported).sum = (0, 0) := by
  refine ⟨?_, ?_, ?_⟩
  · exact
      Reaches.exists_of_executeChecked
        (pinged ++ [.persistent ⟨5, .timedOut⟩])
        (by decide +kernel)
  · exact
      Reaches.exists_of_executeChecked
        (pinged ++ [.persistent ⟨5, .answer [1]⟩, .persistent ⟨6, .data⟩,
          .persistent ⟨7, .begin none⟩, .persistent ⟨8, .sendFailed⟩])
        (by decide +kernel)
  · exact
      Reaches.exists_of_executeChecked
        [.subscriber ⟨0, 0, .begin none⟩, .subscriber ⟨1, 0, .connected⟩,
          .subscriber ⟨2, 0, .work (.frame .ping)⟩, .subscriber ⟨3, 0, .work (.frame .close)⟩]
        (by decide +kernel)

end Strobengine.Protocols.Websocket
