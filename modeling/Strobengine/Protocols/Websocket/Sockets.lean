import Strobengine.Foundations.Episodes
import Strobengine.Protocols.Websocket.Roles

/-!
# Sockets that are not reused

A publisher and a subscriber look at their connection when they have it, so a successful iteration
is marked as reuse even if it has opened the connection; a metric of an error is marked as no reuse.
-/

namespace Strobengine.Protocols.Websocket

open Foundations Metrics

namespace Seen

def isOpened : Seen → Bool
  | opened => true
  | _ => false

def metric? : Seen → Option RequestMetric
  | returned metric => some metric
  | _ => none

def isReturned : Seen → Bool
  | returned _ => true
  | _ => false

def created : Seen → Option Bool
  | returned metric => some (!metric.connection.isSocketReused)
  | _ => none

end Seen

def sockets : Episodes Seen where
  opens := Seen.isOpened
  mark := Seen.created
  apart output opens := by
    cases output with
    | opened => rfl
    | _ => cases opens

theorem check_returned {metric : RequestMetric} {opened : Bool}
    (marked : metric.connection.isSocketReused = !opened) :
    [Seen.returned metric].foldlM sockets.check opened = some false := by
  simp [Episodes.check, sockets, Seen.isOpened, Seen.created, marked]

namespace RoleWorker

variable {Link Task Step : Type}

def opened (worker : RoleWorker Link Task) : Bool :=
  worker.suspended.any (fun place => place.1.opened)

theorem opened_eq {worker : RoleWorker Link Task} {iteration : RoleIteration}
    {await : RoleAwait Task} (place : worker.suspended = some (iteration, await)) :
    worker.opened = iteration.opened := by
  rw [opened, place, Option.any_some]

/-- An iteration that has opened the connection fails, one that has found it open succeeds,
and none fails to open it or is cancelled when it has. -/
def marks (ending : Task → Step → Option Bool) (worker : RoleWorker Link Task)
    (action : RoleAction Step) : Prop :=
  match worker.suspended, action.event with
  | none, .begin fault => worker.link.isSome = true → fault ≠ some .connectionDrop
  | some (_, .connect), .connectFailed => False
  | some (iteration, .working task), .work step =>
    ∀ success ∈ ending task step, success = !iteration.opened
  | some (iteration, _), .deadline => iteration.opened = true
  | some (iteration, _), .cancelled => iteration.opened = false
  | _, _ => True

instance (ending : Task → Step → Option Bool) (worker : RoleWorker Link Task)
    (action : RoleAction Step) : Decidable (worker.marks ending action) := by
  unfold marks
  split <;> infer_instance

structure Marks (role : Role Link Task Step) (ending : Task → Step → Option Bool) : Prop where
  heard : ∀ step opened, (role.heard step).foldlM sockets.check opened = some opened
  returns :
    ∀ iteration action link task step nextLink metric,
      role.work iteration action link task step = some (.returned nextLink metric) →
        ∃ success, ending task step = some success ∧ metric.connection.isSocketReused = success

/-- An iteration has opened nothing while it connects, and has a connection when it sleeps. -/
def Placed (worker : RoleWorker Link Task) : Prop :=
  match worker.suspended with
  | some (iteration, .connect) => iteration.opened = false
  | some (_, .sleep) => worker.link.isSome = true
  | _ => True

structure Marked (before : Bool) (result : RoleWorker Link Task × List Seen) : Prop where
  placed : result.1.Placed
  checked : result.2.foldlM sockets.check before = some result.1.opened

section Marking

variable {role : Role Link Task Step} {worker : RoleWorker Link Task}
  {iteration : RoleIteration} {action : RoleAction Step}

theorem marked_finish {link : Option Link} {metric : RequestMetric} {before : Bool}
    (mark : metric.connection.isSocketReused = !before) :
    Marked before (worker.finish link metric) :=
  ⟨True.intro, check_returned mark⟩

theorem marked_enter (linked : worker.link.isSome = true) :
    Marked iteration.opened (worker.enter role iteration action) := by
  obtain ⟨link, present⟩ := Option.isSome_iff_exists.mp linked
  simp only [enter, present]
  exact ⟨True.intro, rfl⟩

theorem marked_applyChaos (linked : worker.link.isSome = true)
    (dropped : iteration.fault = some .connectionDrop → iteration.opened = true) :
    Marked iteration.opened (worker.applyChaos role iteration action) := by
  unfold applyChaos
  split
  · rename_i drop
    exact marked_finish (by rw [dropped drop]; rfl)
  · exact ⟨linked, rfl⟩
  · exact marked_enter linked

theorem marked_start (nothing : iteration.opened = false)
    (kept : worker.link.isSome = true → iteration.fault ≠ some .connectionDrop) :
    Marked false (worker.start role iteration action) := by
  unfold start
  split
  · rename_i linked
    have marked : Marked iteration.opened (worker.applyChaos role iteration action) :=
      marked_applyChaos linked (fun drop => absurd drop (kept linked))
    rw [nothing] at marked
    exact marked
  · exact ⟨nothing, congrArg some nothing.symm⟩

theorem marked_connected (nothing : iteration.opened = false) :
    Marked iteration.opened (worker.connected role iteration action) := by
  rw [nothing]
  have marked :
      Marked (RoleIteration.opened { iteration with opened := true })
        (applyChaos role { worker with link := some role.connect }
          { iteration with opened := true } action) :=
    marked_applyChaos rfl (fun _ => rfl)
  exact ⟨marked.placed, marked.checked⟩

theorem marked_step {ending : Task → Step → Option Bool} (spec : Marks role ending)
    {timeoutMicros : Nat} {result : RoleWorker Link Task × List Seen}
    (placed : worker.Placed) (allowed : worker.marks ending action)
    (taken : worker.step role timeoutMicros action = some result) :
    Marked worker.opened result := by
  unfold marks at allowed
  unfold Placed at placed
  cases moves_of_step taken with
  | cancelled event =>
    refine ⟨True.intro, ?_⟩
    cases place : worker.suspended with
    | none => rw [opened, place]; rfl
    | some suspended =>
      obtain ⟨iteration, await⟩ := suspended
      have nothing : iteration.opened = false := by
        rw [place, event] at allowed
        cases await <;> exact allowed
      rw [opened_eq place, nothing]
      rfl
  | begins place event =>
    have before : worker.opened = false := by rw [opened, place]; rfl
    simp only [place, event] at allowed
    rw [before]
    exact marked_start rfl allowed
  | connects place =>
    simp only [place] at placed
    rw [opened_eq place]
    exact marked_connected placed
  | refused place event => simp only [place, event] at allowed
  | enters place =>
    simp only [place] at placed
    rw [opened_eq place]
    exact marked_enter placed
  | @works iteration task step link done place event worked =>
    simp only [place, event] at allowed
    rw [opened_eq place]
    cases done with
    | suspended =>
      refine ⟨True.intro, ?_⟩
      rw [List.foldlM_append, spec.heard]
      rfl
    | returned =>
      obtain ⟨success, ends, mark⟩ := spec.returns _ _ _ _ _ _ _ worked
      refine ⟨True.intro, ?_⟩
      rw [List.foldlM_append, spec.heard]
      exact check_returned (mark.trans (allowed success ends))
  | @expires iteration await place event =>
    have isOpened : iteration.opened = true := by
      rw [place, event] at allowed
      cases await <;> exact allowed
    rw [opened_eq place, isOpened]
    exact marked_finish rfl

end Marking

end RoleWorker

/-! ## Publishers and subscribers -/

def PublisherTask.ending : PublisherTask → PublisherStep → Option Bool
  | .flush fed _ _, .flushed => some fed
  | .flush _ _ _, .flushFailed => some false
  | _, _ => none

theorem marks_publisher (engine : RoleEngine) :
    RoleWorker.Marks engine.publisher PublisherTask.ending where
  heard _ _ := rfl
  returns iteration action link task step nextLink metric worked := by
    simp only [RoleEngine.publisher] at worked
    unfold RoleEngine.publish at worked
    split at worked <;> cases worked
    · exact ⟨true, rfl, rfl⟩
    · exact ⟨false, rfl, rfl⟩
    · exact ⟨false, rfl, rfl⟩

def SubscriberTask.ending (_ : SubscriberTask) : SubscriberStep → Option Bool
  | .frame (.binary _) | .frame (.text _) => some true
  | .frame .ping | .frame .pong | .frame .other => none
  | .frame .close | .streamEnded | .readFailed | .timedOut => some false

theorem marks_subscriber : RoleWorker.Marks subscriber SubscriberTask.ending where
  heard step opened := by
    simp only [subscriber]
    unfold SubscriberStep.heard
    split <;> rfl
  returns iteration action link task step nextLink metric worked := by
    simp only [subscriber] at worked
    unfold subscribe at worked
    split at worked <;> cases worked
    · exact ⟨true, rfl, rfl⟩
    · exact ⟨true, rfl, rfl⟩
    all_goals exact ⟨false, rfl, rfl⟩

def openedAt : Option (Iteration × Await) → Bool
  | some (_, .ready latency) | some (_, .flush latency) | some (_, .read latency _ _) =>
    decide (0 < latency)
  | _ => false

def Turn.Marked (before : Bool) (turn : Turn) : Prop :=
  (turn.emitted.map Output.seen).foldlM sockets.check before = some (openedAt turn.suspended)

namespace PersistentWsSession

variable {session : PersistentWsSession} (iteration : Iteration) (now : Nat)

theorem marked_finish (response : Option Reply) {metric : RequestMetric} {before : Bool}
    (mark : metric.connection.isSocketReused = !before) :
    (session.finish iteration response metric).Marked before :=
  check_returned mark

theorem marked_metric (latency status bytes : Nat) (response : Option Reply) :
    (session.finish iteration response
      (session.metric iteration now latency status bytes)).Marked (decide (0 < latency)) := by
  apply marked_finish
  cases latency <;> rfl

theorem marked_sendAndReceive (latency : Nat) :
    (session.sendAndReceive iteration now latency).Marked (decide (0 < latency)) := by
  unfold sendAndReceive
  split
  · exact session.marked_metric iteration now latency 0 0 none
  · rfl

theorem marked_ensureConnected : (session.ensureConnected iteration now).Marked false := by
  unfold ensureConnected
  split
  · exact marked_sendAndReceive iteration now 0
  · rfl

theorem marked_start (kept : iteration.fault ≠ some .connectionDrop) :
    (session.start iteration now).Marked false := by
  unfold start
  split
  · rename_i drop
    exact absurd drop kept
  · rfl
  · exact marked_ensureConnected iteration now

end PersistentWsSession

namespace Worker

/-- Connecting takes a microsecond and does not fail, no fault drops the connection, the
deadline only strikes an iteration that has opened the connection and the end of the run only
one that has not. -/
def marks (worker : Worker) (action : Action) : Prop :=
  match worker.suspended, action.event with
  | none, .begin fault => fault ≠ some .connectionDrop
  | some (_, .connect start), .connected => start < action.now
  | some (_, .connect _), .connectFailed => False
  | place, .deadline => openedAt place = true
  | place, .cancelled => openedAt place = false
  | _, _ => True

instance (worker : Worker) (action : Action) : Decidable (worker.marks action) := by
  unfold marks
  split <;> infer_instance

theorem marked_resume {engine : WebSocketEngine} {session : PersistentWsSession}
    {iteration : Iteration} {now : Nat} {await : Await} {event : Event} {turn : Turn}
    (connects : ∀ start, await = .connect start → event = .connected → start < now)
    (opens : ∀ start, await = .connect start → event ≠ .connectFailed)
    (expires : event = .deadline → openedAt (some (iteration, await)) = true)
    (resumed : resume engine session iteration now await event = some turn) :
    (event.seen ++ turn.emitted.map Output.seen).foldlM sockets.check
        (openedAt (some (iteration, await))) = some (openedAt turn.suspended) := by
  unfold resume at resumed
  split at resumed
  · cases resumed
    exact session.marked_ensureConnected iteration now
  · rename_i start
    cases resumed
    have positive : 0 < now - start := Nat.sub_pos_of_lt (connects start rfl rfl)
    have isOpened : openedAt (session.connected iteration now start).suspended = true :=
      decide_eq_true positive
    rw [isOpened]
    rfl
  · exact absurd rfl (opens _ rfl)
  · obtain ⟨connection, _, rfl⟩ := Option.map_eq_some_iff.mp resumed
    rfl
  · cases resumed
    exact PersistentWsSession.marked_metric iteration now _ 0 0 none
  · cases resumed
    rfl
  · cases resumed
    exact PersistentWsSession.marked_metric iteration now _ 0 0 none
  · obtain ⟨⟨reply, connection⟩, _, rfl⟩ := Option.map_eq_some_iff.mp resumed
    exact PersistentWsSession.marked_metric iteration now _ _ _ _
  · cases resumed
    rfl
  · cases resumed
    rfl
  · cases resumed
    exact PersistentWsSession.marked_metric iteration now _ 0 0 none
  · cases resumed
    exact PersistentWsSession.marked_metric iteration now _ 0 0 none
  · cases resumed
    rw [expires rfl]
    refine check_returned ?_
    rfl
  · cases resumed

theorem marked_observed {engine : WebSocketEngine} {worker next : Worker} {action : Action}
    {emitted : List Seen} (allowed : worker.marks action)
    (taken : worker.observed engine action = some (next, emitted)) :
    emitted.foldlM sockets.check (openedAt worker.suspended) = some (openedAt next.suspended) := by
  unfold marks at allowed
  cases moves_of_observed taken with
  | answered => rfl
  | cancelled happened =>
    have nothing : openedAt worker.suspended = false := by
      rw [happened] at allowed
      cases place : worker.suspended with
      | none => rfl
      | some suspended =>
        obtain ⟨iteration, await⟩ := suspended
        rw [place] at allowed
        cases await <;> exact allowed
    rw [nothing]
    rfl
  | begins idle happened started =>
    rw [idle, happened] at allowed
    rw [idle, ← started]
    exact worker.session.marked_start _ _ allowed
  | resumes place resumed =>
    rename_i iteration await turn
    rw [place] at allowed ⊢
    refine marked_resume ?_ ?_ ?_ resumed
    · rintro start rfl happened
      rw [happened] at allowed
      exact allowed
    · rintro start rfl happened
      rw [happened] at allowed
      exact allowed
    · intro happened
      rw [happened] at allowed
      cases await <;> exact allowed

end Worker

namespace Session

def opened : Session → Bool
  | persistent worker => openedAt worker.suspended
  | publisher worker => worker.opened
  | subscriber worker => worker.opened

/-- The conditions under which the mark of a metric is right, by the kind of the session. -/
def marks : Session → SessionAction → Prop
  | persistent worker, .persistent action => worker.marks action
  | publisher worker, .publisher action => worker.marks PublisherTask.ending action
  | subscriber worker, .subscriber action => worker.marks SubscriberTask.ending action
  | _, _ => True

instance (session : Session) (action : SessionAction) : Decidable (session.marks action) := by
  unfold marks
  split <;> infer_instance

def Placed : Session → Prop
  | persistent _ => True
  | publisher worker => worker.Placed
  | subscriber worker => worker.Placed

theorem marked_step {engine : RoleEngine} {session next : Session} {action : SessionAction}
    {emitted : List Seen} (placed : session.Placed) (allowed : session.marks action)
    (taken : session.step engine action = some (next, emitted)) :
    next.Placed ∧ emitted.foldlM sockets.check session.opened = some next.opened := by
  unfold step at taken
  split at taken
  · obtain ⟨result, stepped, moved⟩ := Option.map_eq_some_iff.mp taken
    cases moved
    exact ⟨True.intro, Worker.marked_observed allowed stepped⟩
  · obtain ⟨pushed, stepped, moved⟩ := Option.map_eq_some_iff.mp taken
    cases moved
    obtain ⟨connection, _, rfl⟩ := Option.map_eq_some_iff.mp stepped
    exact ⟨True.intro, rfl⟩
  · obtain ⟨result, stepped, moved⟩ := Option.map_eq_some_iff.mp taken
    cases moved
    have marked := RoleWorker.marked_step (marks_publisher engine) placed allowed stepped
    exact ⟨marked.placed, marked.checked⟩
  · obtain ⟨result, stepped, moved⟩ := Option.map_eq_some_iff.mp taken
    cases moved
    have marked := RoleWorker.marked_step marks_subscriber placed allowed stepped
    exact ⟨marked.placed, marked.checked⟩
  · cases taken

end Session

theorem totalSocketsCreated_eq_countP (log : List Seen) :
    (AggregatedMetrics.ofReceived (log.filterMap Seen.metric?)).totalSocketsCreated =
      log.countP (fun output => output.created == some true) := by
  rw [AggregatedMetrics.totalSocketsCreated_ofReceived, List.countP_filterMap]
  congr 1
  funext output
  cases output with
  | returned metric =>
    cases reused : metric.connection.isSocketReused <;>
      simp [Seen.metric?, Seen.created, reused]
  | _ => rfl

/-- A metric is marked as no reuse exactly when its iteration has opened a connection, and
between two iterations as many sockets are counted as created as were opened. -/
theorem sockets_marked {engine : RoleEngine} {session : Session} {run : Tracked Session Seen}
    (created : engine.createWorkerContext = some session)
    (reached :
      Reaches (Tracked.step (Session.step engine)) (Tracked.guardOn Session.marks)
        (.start session) run) :
    (∀ (before : List Seen) (metric : RequestMetric) (after : List Seen),
      run.log = before ++ Seen.returned metric :: after →
        (metric.connection.isSocketReused = false ↔ Seen.opened ∈ since Seen.isReturned before)) ∧
      (run.state.opened = false →
        (AggregatedMetrics.ofReceived (run.log.filterMap Seen.metric?)).totalSocketsCreated =
          run.log.countP Seen.isOpened) := by
  have new : session.Placed ∧ session.opened = false :=
    RoleEngine.of_createWorkerContext (fun session => session.Placed ∧ session.opened = false)
      created ⟨True.intro, rfl⟩ ⟨True.intro, rfl⟩ ⟨True.intro, rfl⟩
  have accepted : sockets.Accepts run.log run.state.opened :=
    Episodes.accepts_of_reaches Session.Placed Session.opened
      (fun _ _ _ _ placed allowed taken => Session.marked_step placed allowed taken)
      new.1 new.2 reached
  constructor
  · intro before metric after split
    have returns : (fun output => (sockets.mark output).isSome) = Seen.isReturned := by
      funext output
      cases output <;> rfl
    have mark := accepted.mark_iff split rfl
    rw [returns, Bool.not_eq_true'] at mark
    rw [mark]
    constructor
    · rintro ⟨earlier, member, opens⟩
      cases earlier with
      | opened => exact member
      | _ => cases opens
    · intro member
      exact ⟨.opened, member, rfl⟩
  · intro closed
    have count := accepted.count
    rw [closed] at count
    rw [totalSocketsCreated_eq_countP]
    exact count

theorem sockets_marked_sample :
    ∃ run : Tracked Session Seen,
      Reaches (Tracked.step (Session.step (roleEngine none))) (Tracked.guardOn Session.marks)
          (.start (.persistent (.new (roleEngine none).toWebSocketEngine))) run ∧
        (run.log.filterMap Seen.metric?).length = 2 ∧ run.log.countP Seen.isOpened = 1 ∧
          (AggregatedMetrics.ofReceived (run.log.filterMap Seen.metric?)).totalSocketsCreated =
            1 := by
  refine
    Reaches.exists_imp_of_executeChecked
      (fun run => run.state.opened = false ∧ (run.log.filterMap Seen.metric?).length = 2 ∧
        run.log.countP Seen.isOpened = 1)
      [.persistent ⟨0, .begin none⟩, .persistent ⟨90, .connected⟩,
        .persistent ⟨91, .accepted⟩, .persistent ⟨92, .flushed⟩,
        .persistent ⟨93, .answer [1]⟩, .persistent ⟨94, .data⟩,
        .persistent ⟨95, .begin none⟩, .persistent ⟨96, .accepted⟩,
        .persistent ⟨97, .flushed⟩, .persistent ⟨98, .timedOut⟩]
      (by decide +kernel) ?_
  rintro run reached ⟨closed, metrics, opened⟩
  have created :
      (roleEngine none).createWorkerContext =
        some (.persistent (.new (roleEngine none).toWebSocketEngine)) := by
    decide
  exact ⟨metrics, opened, ((sockets_marked created reached).2 closed).trans opened⟩

/-- A publisher that has opened its connection counts none, a subscriber whose read times out
on its connection counts another, and a persistent session counts one that it could not
open. -/
theorem sockets_miscounted :
    (∃ run : Tracked Session Seen,
        Reaches (Tracked.step (Session.step (roleEngine (some "publisher")))) unguarded
            (.start (.publisher .new)) run ∧
          run.log.countP Seen.isOpened = 1 ∧
            (AggregatedMetrics.ofReceived
              (run.log.filterMap Seen.metric?)).totalSocketsCreated = 0) ∧
      (∃ run : Tracked Session Seen,
          Reaches (Tracked.step (Session.step (roleEngine (some "subscriber")))) unguarded
              (.start (.subscriber .new)) run ∧
            run.log.countP Seen.isOpened = 1 ∧
              (AggregatedMetrics.ofReceived
                (run.log.filterMap Seen.metric?)).totalSocketsCreated = 2) ∧
        ∃ run : Tracked Session Seen,
          Reaches (Tracked.step (Session.step (roleEngine none))) unguarded
              (.start (.persistent (.new (roleEngine none).toWebSocketEngine))) run ∧
            run.log.countP Seen.isOpened = 0 ∧
              (AggregatedMetrics.ofReceived
                (run.log.filterMap Seen.metric?)).totalSocketsCreated = 1 := by
  refine ⟨?_, ?_, ?_⟩
  · exact
      Reaches.exists_of_executeChecked
        [.publisher ⟨0, 0, .begin none⟩, .publisher ⟨90, 0, .connected⟩,
          .publisher ⟨91, 0, .work .accepted⟩, .publisher ⟨92, 0, .work .flushed⟩]
        (by decide +kernel)
  · exact
      Reaches.exists_of_executeChecked
        [.subscriber ⟨0, 0, .begin none⟩, .subscriber ⟨90, 0, .connected⟩,
          .subscriber ⟨91, 0, .work .timedOut⟩, .subscriber ⟨92, 0, .begin none⟩,
          .subscriber ⟨93, 0, .work .timedOut⟩]
        (by decide +kernel)
  · exact
      Reaches.exists_of_executeChecked
        [.persistent ⟨0, .begin none⟩, .persistent ⟨90, .connectFailed⟩]
        (by decide +kernel)

end Strobengine.Protocols.Websocket
