import Strobengine.Protocols.Websocket.Persistent

/-!
# Whose response it is

The next data frame on a connection answers the oldest message that is still outstanding there. An
iteration that times out or is dropped leaves its message outstanding, and from then on every
iteration is given the response to an earlier one.
-/

namespace Strobengine.Protocols.Websocket

open Foundations Metrics

namespace Connection

def outstanding (connection : Connection) : List Question :=
  connection.arriving.map Reply.question ++ connection.unanswered

theorem outstanding_accept (connection : Connection) (question : Question) :
    (connection.accept question).outstanding = connection.outstanding ++ [question] := by
  simp [outstanding, accept]

theorem outstanding_answer {connection answered : Connection} {content : List UInt8}
    (step : connection.answer content = some answered) :
    answered.outstanding = connection.outstanding := by
  unfold answer at step
  split at step
  · cases step
  · rename_i question rest waiting
    cases step
    simp [outstanding, waiting]

theorem outstanding_read {connection after : Connection} {reply : Reply}
    (step : connection.read = some (reply, after)) :
    connection.outstanding = reply.question :: after.outstanding := by
  unfold read at step
  split at step
  · cases step
  · rename_i first rest arrived
    cases step
    simp [outstanding, arrived]

end Connection

/-- A response answers the message of the iteration that returns it. -/
def Output.Own : Output → Prop
  | .returned iteration response _ => ∀ reply ∈ response, reply.question.iteration = iteration

/-! ## What is outstanding -/

/-- Between two iterations nothing is outstanding on a connection that will be used
again. -/
def PersistentWsSession.Clear (session : PersistentWsSession) : Prop :=
  ∀ connection ∈ session.stream, session.isMaxReached = true ∨ connection.outstanding = []

/-- Nothing is outstanding before the message of an iteration is sent, and afterwards only
this one. -/
def Paired (session : PersistentWsSession) : Option (Iteration × Await) → Prop
  | some (_, .ready _) =>
    ∃ connection, session.stream = some connection ∧ connection.outstanding = []
  | some (iteration, .flush _) | some (iteration, .read _ _ _) =>
    ∃ connection question,
      session.stream = some connection ∧ connection.outstanding = [question] ∧
        question.iteration = iteration.number
  | _ => session.Clear

structure Turn.Correct (turn : Turn) : Prop where
  paired : Paired turn.session turn.suspended
  own : ∀ output ∈ turn.emitted, output.Own

namespace PersistentWsSession

variable {session : PersistentWsSession}

theorem clear_of_none (none : session.stream = none) : session.Clear := by
  intro connection member
  rw [none] at member
  cases member

theorem clear_of_outstanding {connection : Connection}
    (stream : session.stream = some connection) (settled : connection.outstanding = []) :
    session.Clear := by
  intro other member
  rw [stream] at member
  cases member
  exact Or.inr settled

theorem clear_of_max (spent : session.isMaxReached = true) : session.Clear :=
  fun _ _ => Or.inl spent

section Turns

variable {session : PersistentWsSession} (iteration : Iteration) (now : Nat)

theorem correct_finish (clear : session.Clear) (metric : RequestMetric) :
    (session.finish iteration none metric).Correct where
  paired := clear
  own := by
    intro output member
    rw [List.mem_singleton.mp member]
    intro reply response
    cases response

theorem correct_suspend {await : Await} (paired : Paired session (some (iteration, await))) :
    (session.suspend iteration await).Correct where
  paired := paired
  own := by
    intro output member
    cases member

theorem correct_sendAndReceive (latency : Nat)
    (settled : ∀ connection ∈ session.stream, connection.outstanding = []) :
    (session.sendAndReceive iteration now latency).Correct := by
  unfold sendAndReceive
  split
  · rename_i none
    exact correct_finish iteration (clear_of_none none) _
  · rename_i connection stream
    exact correct_suspend iteration ⟨connection, stream, settled connection stream⟩

theorem correct_ensureConnected (clear : session.Clear) :
    (session.ensureConnected iteration now).Correct := by
  unfold ensureConnected
  split
  · rename_i usable
    simp only [Bool.and_eq_true, Bool.not_eq_true'] at usable
    apply correct_sendAndReceive
    intro connection stream
    rcases clear connection stream with spent | settled
    · rw [usable.2] at spent
      cases spent
    · exact settled
  · exact correct_suspend iteration clear

theorem correct_start (clear : session.Clear) : (session.start iteration now).Correct := by
  unfold start
  split
  · exact correct_finish iteration clear _
  · exact correct_suspend iteration clear
  · exact correct_ensureConnected iteration now clear

theorem correct_connected (start : Nat) : (session.connected iteration now start).Correct := by
  apply correct_sendAndReceive
  intro connection stream
  cases stream
  rfl

theorem correct_accepted (engine : WebSocketEngine) (latency : Nat)
    {connection : Connection} (settled : connection.outstanding = []) :
    (session.accepted iteration engine latency connection).Correct := by
  apply correct_suspend
  refine ⟨_, ⟨iteration.number, engine.payloadText iteration.fault⟩, rfl, ?_, rfl⟩
  rw [Connection.outstanding_accept, settled]
  rfl

theorem correct_sendFailed (latency : Nat) : (session.sendFailed iteration now latency).Correct :=
  correct_finish iteration (clear_of_none rfl) _

theorem correct_terminated (latency pings pongs : Nat) :
    (session.terminated iteration now latency pings pongs).Correct :=
  correct_finish iteration (clear_of_none rfl) _

theorem correct_received (latency pings pongs : Nat)
    {connection after : Connection} {reply : Reply} {question : Question}
    (read : connection.read = some (reply, after))
    (outstanding : connection.outstanding = [question])
    (own : question.iteration = iteration.number) :
    (session.received iteration now latency pings pongs reply after).Correct := by
  rw [Connection.outstanding_read read, List.cons.injEq] at outstanding
  obtain ⟨rfl, settled⟩ := outstanding
  constructor
  · exact clear_of_outstanding rfl settled
  · intro output member
    rw [List.mem_singleton.mp member]
    intro returned response
    cases response
    exact own

end Turns

end PersistentWsSession

def Await.settled (session : PersistentWsSession) : Await → Event → Prop
  | .read _ _ _, .timedOut => session.isMaxReached = true
  | .read _ _ _, .deadline => session.isMaxReached = true
  | .flush _, .deadline => session.isMaxReached = true
  | _, _ => True

instance (session : PersistentWsSession) (await : Await) (event : Event) :
    Decidable (await.settled session event) := by
  unfold Await.settled
  split <;> infer_instance

namespace Worker

open PersistentWsSession

def settled (worker : Worker) (action : Action) : Prop :=
  ∀ suspended ∈ worker.suspended, suspended.2.settled worker.session action.event
  deriving Decidable

variable {session : PersistentWsSession}

theorem clear_of_deadline {iteration : Iteration} {await : Await}
    (paired : Paired session (some (iteration, await)))
    (allowed : await.settled session .deadline) : session.Clear := by
  cases await with
  | sleep | connect => exact paired
  | ready =>
    obtain ⟨connection, stream, outstanding⟩ := paired
    exact clear_of_outstanding stream outstanding
  | flush | read => exact clear_of_max allowed

variable {engine : WebSocketEngine}

theorem correct_resume {iteration : Iteration}
    {now : Nat} {await : Await} {event : Event} {turn : Turn}
    (paired : Paired session (some (iteration, await))) (allowed : await.settled session event)
    (resumed : resume engine session iteration now await event = some turn) :
    turn.Correct := by
  unfold resume at resumed
  split at resumed
  · cases resumed
    exact correct_ensureConnected iteration now paired
  · cases resumed
    exact correct_connected iteration now _
  · cases resumed
    exact correct_finish iteration paired _
  · obtain ⟨connection, stream, rfl⟩ := Option.map_eq_some_iff.mp resumed
    obtain ⟨same, held, outstanding⟩ := paired
    rw [stream] at held
    cases held
    exact correct_accepted iteration engine _ outstanding
  · cases resumed
    exact correct_sendFailed iteration now _
  · cases resumed
    exact correct_suspend iteration paired
  · cases resumed
    exact correct_sendFailed iteration now _
  · obtain ⟨⟨reply, after⟩, found, rfl⟩ := Option.map_eq_some_iff.mp resumed
    obtain ⟨connection, stream, read⟩ := Option.bind_eq_some_iff.mp found
    obtain ⟨same, question, held, outstanding, own⟩ := paired
    rw [stream] at held
    cases held
    exact correct_received iteration now _ _ _ read outstanding own
  · cases resumed
    exact correct_suspend iteration paired
  · cases resumed
    exact correct_suspend iteration paired
  · cases resumed
    exact correct_terminated iteration now _ _ _
  · cases resumed
    exact correct_finish iteration (clear_of_max allowed) _
  · cases resumed
    exact correct_finish iteration (clear_of_deadline paired allowed) _
  · cases resumed

theorem paired_answer {suspended : Option (Iteration × Await)}
    {before connection : Connection} {content : List UInt8} (stream : session.stream = some before)
    (answered : before.answer content = some connection) (paired : Paired session suspended) :
    Paired { session with stream := some connection } suspended := by
  have same := Connection.outstanding_answer answered
  have clear :
      session.Clear → Clear { session with stream := some connection } := by
    intro clear other member
    cases member
    rw [same]
    exact clear before stream
  cases suspended with
  | none => exact clear paired
  | some place =>
    obtain ⟨iteration, await⟩ := place
    cases await with
    | sleep | connect => exact clear paired
    | ready =>
      obtain ⟨held, there, outstanding⟩ := paired
      rw [stream] at there
      cases there
      exact ⟨connection, rfl, same.trans outstanding⟩
    | _ =>
      -- the message of the iteration is sent
      obtain ⟨held, question, there, outstanding, own⟩ := paired
      rw [stream] at there
      cases there
      exact ⟨connection, question, rfl, same.trans outstanding, own⟩

def Correct (worker : Worker) : Prop :=
  worker.running = true → Paired worker.session worker.suspended

theorem correct_advance {worker : Worker} {now : Nat}
    {suspended : Option (Iteration × Await)} {event : Event} {result : Worker × List Output}
    (same : worker.suspended = suspended) (paired : Paired worker.session suspended)
    (allowed : ∀ place ∈ suspended, place.2.settled worker.session event)
    (taken : worker.advance engine now suspended event = some result) :
    result.1.Correct ∧ ∀ output ∈ result.2, output.Own := by
  unfold advance at taken
  split at taken
  · obtain ⟨answered, step, rfl⟩ := Option.map_eq_some_iff.mp taken
    obtain ⟨connection, found, rfl⟩ := Option.map_eq_some_iff.mp step
    obtain ⟨before, stream, answer⟩ := Option.bind_eq_some_iff.mp found
    refine ⟨fun _ => ?_, fun output member => by cases member⟩
    change Paired _ worker.suspended
    rw [same]
    exact paired_answer stream answer paired
  · cases taken
    exact ⟨fun running => (by cases running), fun output member => by cases member⟩
  · rename_i fault
    cases taken
    have correct := correct_start ⟨worker.iterations, now, fault⟩ now paired
    exact ⟨fun _ => correct.paired, correct.own⟩
  · cases taken
  · obtain ⟨turn, resumed, rfl⟩ := Option.map_eq_some_iff.mp taken
    have correct := correct_resume paired (allowed _ rfl) resumed
    exact ⟨fun _ => correct.paired, correct.own⟩

theorem correct_step {worker next : Worker} {action : Action}
    {emitted : List Output} (correct : worker.Correct) (allowed : worker.settled action)
    (taken : worker.step engine action = some (next, emitted)) :
    next.Correct ∧ ∀ output ∈ emitted, output.Own := by
  cases running : worker.running with
  | false => simp [step, running] at taken
  | true =>
    rw [step, if_pos running] at taken
    exact correct_advance rfl (correct running) allowed taken

end Worker

/-- As long as no message is left behind on a connection that is used again, every response
answers the message of the iteration that returns it. -/
theorem responses_are_own {engine : WebSocketEngine} {run : Tracked Worker Output}
    (reached :
      Reaches (Tracked.step (Worker.step engine)) (Tracked.guardOn Worker.settled)
        (.start (Worker.new engine)) run) :
    ∀ output ∈ run.log, output.Own := by
  have initially : (Worker.new engine).Correct := fun _ => PersistentWsSession.clear_of_none rfl
  exact
    Tracked.forall_log Worker.Correct Output.Own
      (fun _ _ _ _ correct allowed taken => Worker.correct_step correct allowed taken)
      initially reached

def answered (now : Nat) : List Action :=
  [⟨now, .accepted⟩, ⟨now, .flushed⟩, ⟨now, .ping⟩, ⟨now, .answer [1, 2]⟩, ⟨now, .data⟩]

def responses (log : List Output) : List (Nat × Nat) :=
  log.filterMap (fun
    | .returned iteration response _ =>
      response.map (fun reply => (iteration, reply.question.iteration)))

theorem responses_are_own_sample :
    ∃ run : Tracked Worker Output,
      Reaches (Tracked.step (Worker.step ⟨none, some 2, 5000000⟩))
          (Tracked.guardOn Worker.settled) (.start (Worker.new ⟨none, some 2, 5000000⟩)) run ∧
        responses run.log = [(0, 0), (2, 2)] ∧ ∀ output ∈ run.log, output.Own :=
  Reaches.exists_and_of_executeChecked
    ([⟨0, .begin none⟩, ⟨10, .connected⟩] ++ answered 20 ++
      [⟨30, .begin none⟩, ⟨30, .accepted⟩, ⟨30, .flushed⟩, ⟨40, .timedOut⟩,
        ⟨50, .answer []⟩, ⟨60, .begin none⟩, ⟨60, .connected⟩] ++ answered 70)
    (by decide +kernel) (fun _ reached _ => responses_are_own reached)

/-- The first iteration times out, its response arrives later, and the second iteration
returns it as its own. -/
theorem late_response_is_taken_for_another :
    ∃ run : Tracked Worker Output,
      Reaches (Tracked.step (Worker.step ⟨none, none, 5000000⟩)) unguarded
          (.start (Worker.new ⟨none, none, 5000000⟩)) run ∧
        responses run.log = [(1, 0)] ∧ ¬ ∀ output ∈ run.log, output.Own := by
  refine
    Reaches.exists_and_of_executeChecked
      [⟨0, .begin none⟩, ⟨10, .connected⟩, ⟨10, .accepted⟩, ⟨10, .flushed⟩,
        ⟨5000010, .timedOut⟩, ⟨5000020, .begin none⟩, ⟨5000030, .answer [1, 2]⟩,
        ⟨5000030, .accepted⟩, ⟨5000030, .flushed⟩, ⟨5000030, .data⟩]
      (by decide +kernel) (fun run _ returned own => ?_)
  have member : (1, 0) ∈ responses run.log := by
    rw [returned]
    exact List.mem_singleton_self _
  obtain ⟨⟨iteration, response, metric⟩, present, paired⟩ := List.mem_filterMap.mp member
  obtain ⟨reply, there, same⟩ := Option.map_eq_some_iff.mp paired
  have equal := own _ present reply there
  rw [Prod.mk.injEq] at same
  omega

end Strobengine.Protocols.Websocket
