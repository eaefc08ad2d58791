import Strobengine.Protocols.GraphqlWs.Session

/-!
# Reconnecting after a failed read

A failed iteration should leave a session that connects anew. Not every path calls `reset`: a read
of the subscription that times out does not, nor does any failure after corrupted-payload chaos,
nor a deadline.
-/

namespace Strobengine.Protocols.GraphqlWs

open Foundations Metrics Rust

/-- A read has timed out or found the connection closed. The deadline of an iteration that
is suspended in a read is a timeout of this read. -/
def Ending.isFailedRead : Ending → Bool
  | .onRead .timeout => true
  | .onRead .closed => true
  | .onDeadline reading => reading
  | _ => false

theorem Ending.isFailedRead_onRead_iff (event : ReadEvent) :
    (Ending.onRead event).isFailedRead = true ↔ event = .timeout ∨ event = .closed := by
  cases event <;> simp [Ending.isFailedRead]

def Output.use? : Output → Option Output
  | .returned _ _ => none
  | output => some output

open Output (use?)

def Output.isFailedRead : Output → Bool
  | .returned ending _ => ending.isFailedRead
  | _ => false

/-- After a failed read the connection is not used again: what follows is nothing, or begins
with a new connection and `connection_init`. -/
def Reconnects (log : List Output) : Prop :=
  ∀ before output after,
    log = before ++ output :: after → output.isFailedRead = true →
      after.filterMap use? = [] ∨ [.opened, .sent connectionInit] <+: after.filterMap use?

structure Turn.Safe (turn : Turn) : Prop where
  resets :
    ∀ before output after,
      turn.emitted = before ++ output :: after → output.isFailedRead = true →
        after.filterMap use? = [] ∧ turn.session = {} ∧ turn.suspended = none
  onStream :
    ∀ iteration await,
      turn.suspended = some (iteration, await) →
        await = .sleep ∨ await = .connect ∨ turn.session.stream = true

theorem Message.received_ne_timeout (json : JsonCodec) (message : Message) :
    message.received json ≠ .event .timeout := by
  cases message with
  | text =>
    unfold Message.received
    dsimp only
    split <;> simp
  | _ => simp [Message.received]

namespace GraphqlWsSession

section Turns

variable (engine : GraphqlWsEngine) (session : GraphqlWsSession) (iteration : Iteration) (now : Nat)

theorem safe_finish {ending : Ending} (metric : RequestMetric)
    (reset : ending.isFailedRead = true → session = {}) :
    (session.finish ending metric).Safe where
  resets := by
    intro before output after split failed
    obtain ⟨rfl, rfl, rfl⟩ : before = [] ∧ output = .returned ending metric ∧ after = [] := by
      cases before with
      | nil =>
        cases split
        exact ⟨rfl, rfl, rfl⟩
      | cons =>
        have lengths := congrArg List.length split
        simp [finish] at lengths
    exact ⟨rfl, reset failed, rfl⟩
  onStream := by
    intro _ _ suspended
    cases suspended

theorem safe_suspend {await : Await} {emitted : List Output}
    (uses : ∀ output ∈ emitted, output.isFailedRead = false)
    (connected : await = .sleep ∨ await = .connect ∨ session.stream = true) :
    (session.suspend iteration await emitted).Safe where
  resets := by
    intro before output after split failed
    have member : output ∈ emitted := by
      change emitted = _ at split
      rw [split]
      simp
    rw [uses output member] at failed
    cases failed
  onStream := by
    intro _ _ suspended
    cases suspended
    exact connected

theorem safe_timedOut_init : (session.timedOut iteration now .init).Safe :=
  safe_finish {} _ (fun _ => rfl)

variable {purpose : Purpose}

theorem safe_closed (valid : purpose ≠ .corrupted) :
    (session.closed iteration now purpose).Safe := by
  cases purpose with
  | init | subscription => exact safe_finish {} _ (fun _ => rfl)
  | corrupted => exact absurd rfl valid

theorem safe_nextFrame {deadline : Nat}
    (stream : session.stream = true) (inTime : purpose = .init ∨ now < deadline) :
    (session.nextFrame iteration now purpose deadline).Safe := by
  unfold nextFrame
  by_cases late : deadline ≤ now
  · rw [if_pos late]
    rcases inTime with rfl | early
    · exact session.safe_timedOut_init iteration now
    · omega
  · rw [if_neg late, if_pos stream]
    exact session.safe_suspend iteration (by simp [Output.isFailedRead]) (Or.inr (Or.inr stream))

theorem safe_startRead (stream : session.stream = true) (purpose : Purpose) :
    (session.startRead engine iteration now purpose).Safe := by
  have positive := engine.timeout_pos
  exact session.safe_nextFrame iteration now stream (Or.inr (by omega))

theorem safe_send (request : Request) (message : Message) :
    (session.send iteration now request message).Safe := by
  unfold send
  split
  · rename_i stream
    exact session.safe_suspend iteration (by simp [Output.isFailedRead]) (Or.inr (Or.inr stream))
  · exact safe_finish {} _ (fun _ => rfl)

theorem safe_exchange (stream : session.stream = true) :
    (session.exchange engine iteration now).Safe := by
  unfold exchange
  split
  · exact session.safe_send iteration now _ _
  · split
    · exact session.safe_startRead engine iteration now stream _
    · split
      · exact session.safe_finish _ (by simp [Ending.isFailedRead])
      · exact session.safe_send iteration now _ _

theorem safe_ensureInitialized (stream : session.stream = true) :
    (session.ensureInitialized engine iteration now).Safe := by
  unfold ensureInitialized
  split
  · exact session.safe_exchange engine iteration now stream
  · exact session.safe_send iteration now _ _

theorem safe_ensureConnected : (session.ensureConnected engine iteration now).Safe := by
  unfold ensureConnected
  split
  · rename_i stream
    exact session.safe_ensureInitialized engine iteration now stream
  · exact session.safe_suspend iteration (by simp) (Or.inr (Or.inl rfl))

theorem safe_runIteration : (session.runIteration engine iteration now).Safe := by
  unfold runIteration
  split
  · exact session.safe_finish _ (by simp [Ending.isFailedRead])
  · exact session.safe_suspend iteration (by simp) (Or.inl rfl)
  · exact session.safe_ensureConnected engine iteration now

theorem safe_connected : (session.connected engine iteration now).Safe := by
  have safe := safe_ensureInitialized engine { session with stream := true } iteration now rfl
  refine ⟨?_, safe.onStream⟩
  intro before output after split failed
  cases before with
  | nil =>
    cases split
    cases failed
  | cons first rest => exact safe.resets rest output after (List.cons.inj split).2 failed

theorem safe_sent (stream : session.stream = true) (request : Request) :
    (session.sent engine iteration now request).Safe := by
  cases request with
  | init | corrupted => exact session.safe_startRead engine iteration now stream _
  | subscribe =>
    apply safe_startRead
    exact stream

theorem safe_onEvent {event : ReadEvent} (deadline : Nat)
    (stream : session.stream = true) (alive : event ≠ .timeout)
    (valid : event = .closed → purpose ≠ .corrupted) :
    (session.onEvent engine iteration now deadline purpose event).Safe := by
  unfold onEvent
  split
  · exact absurd rfl alive
  · exact session.safe_closed iteration now (valid rfl)
  · exact safe_exchange engine _ iteration now stream
  · exact safe_finish {} _ (fun _ => rfl)
  · exact session.safe_nextFrame iteration now stream (Or.inl rfl)
  · exact session.safe_finish _ (by simp [Ending.isFailedRead])
  · -- after a corrupted payload: neither a timeout nor a close
    apply safe_finish
    intro failed
    rcases (Ending.isFailedRead_onRead_iff _).mp failed with late | closed
    · exact absurd late alive
    · exact absurd rfl (valid closed)
  · exact safe_finish _ _ (by simp [Ending.isFailedRead])
  · exact safe_finish _ _ (by simp [Ending.isFailedRead])
  · exact safe_finish _ _ (by simp [Ending.isFailedRead])
  · exact safe_finish _ _ (by simp [Ending.isFailedRead])
  · exact safe_finish {} _ (fun _ => rfl)

theorem safe_received {deadline : Nat} {message : Message} (stream : session.stream = true)
    (valid : message.received engine.json = .event .closed → purpose ≠ .corrupted)
    (inTime : message.received engine.json = .skipped → purpose = .init ∨ now < deadline) :
    (session.received engine iteration now purpose deadline message).Safe := by
  unfold received
  cases arrived : message.received engine.json with
  | event event =>
    have alive : event ≠ .timeout := by
      rintro rfl
      exact message.received_ne_timeout engine.json arrived
    apply session.safe_onEvent engine iteration now deadline stream alive
    rintro rfl
    exact valid arrived
  | answered =>
    simp only [stream, if_true]
    exact session.safe_suspend iteration (by simp [Output.isFailedRead]) (Or.inr (Or.inr stream))
  | skipped => exact session.safe_nextFrame iteration now stream (inTime arrived)

end Turns

end GraphqlWsSession

/-! ## Steps of the worker -/

/-- Excluded are the three ways in which a failed read keeps the session: the timeout of a
read for a subscription or after a corrupted payload, a connection that is closed after a
corrupted payload, and the deadline of an iteration that is suspended in a read. -/
def Await.resetting (engine : GraphqlWsEngine) (now : Nat) : Await → WorkerEvent → Prop
  | .read _ _, .deadline => False
  | .read purpose _, .timedOut => purpose = .init
  | .read purpose _, .streamFailed => purpose ≠ .corrupted
  | .read purpose deadline, .message message =>
    (message.received engine.json = .event .closed → purpose ≠ .corrupted) ∧
      (message.received engine.json = .skipped → purpose = .init ∨ now < deadline)
  | .pong purpose deadline, .sent => purpose = .init ∨ now < deadline
  | .pong purpose deadline, .sendFailed => purpose = .init ∨ now < deadline
  | _, _ => True

instance (engine : GraphqlWsEngine) (now : Nat) (await : Await) (event : WorkerEvent) :
    Decidable (await.resetting engine now event) := by
  unfold Await.resetting
  split <;> infer_instance

namespace Worker

open GraphqlWsSession

def resetting (engine : GraphqlWsEngine) (worker : Worker) (action : WorkerAction) : Prop :=
  ∀ suspended ∈ worker.suspended, suspended.2.resetting engine action.now action.event
  deriving Decidable

variable {engine : GraphqlWsEngine} {now : Nat} {event : WorkerEvent} {turn : Turn}

theorem safe_resume {session : GraphqlWsSession} {iteration : Iteration} {await : Await}
    (onStream : await = .sleep ∨ await = .connect ∨ session.stream = true)
    (allowed : await.resetting engine now event)
    (resumed : resume engine session iteration now await event = some turn) :
    turn.Safe := by
  unfold resume at resumed
  split at resumed
  case h_8 purpose deadline =>
    split at resumed <;> cases resumed
    cases allowed
    exact session.safe_timedOut_init iteration now
  all_goals cases resumed
  · exact session.safe_ensureConnected engine iteration now
  · exact session.safe_connected engine iteration now
  · exact safe_finish {} _ (fun _ => rfl)
  · exact session.safe_sent engine iteration now (by simpa using onStream) _
  · exact safe_finish {} _ (fun _ => rfl)
  · exact session.safe_received engine iteration now (by simpa using onStream) allowed.1 allowed.2
  · exact session.safe_closed iteration now allowed
  · exact session.safe_nextFrame iteration now (by simpa using onStream) allowed
  · exact session.safe_nextFrame iteration now (by simpa using onStream) allowed
  · cases allowed
  · exact session.safe_finish _ (by simp [Ending.isFailedRead])

def OnStream (worker : Worker) : Prop :=
  ∀ iteration await,
    worker.suspended = some (iteration, await) →
      await = .sleep ∨ await = .connect ∨ worker.session.stream = true

structure Disconnected (worker : Worker) : Prop where
  stream : worker.session.stream = false
  initialized : worker.session.initialized = false
  early :
    ∀ iteration await,
      worker.suspended = some (iteration, await) → await = .sleep ∨ await = .connect

variable {worker : Worker}

theorem cases_of_advance {suspended : Option (Iteration × Await)} {result : Worker × List Output}
    (onStream :
      ∀ iteration await,
        suspended = some (iteration, await) →
          await = .sleep ∨ await = .connect ∨ worker.session.stream = true)
    (allowed : ∀ place ∈ suspended, place.2.resetting engine now event)
    (taken : worker.advance engine now suspended event = some result) :
    (result.1.suspended = none ∧ result.2 = []) ∨
      ∃ turn : Turn, turn.Safe ∧ worker.take turn = result := by
  unfold advance at taken
  split at taken
  · cases taken
    exact Or.inl ⟨rfl, rfl⟩
  · rename_i fault
    cases taken
    exact Or.inr ⟨_, worker.session.safe_runIteration engine ⟨now, fault⟩ now, rfl⟩
  · cases taken
  · rename_i iteration await _
    obtain ⟨turn, resumed, same⟩ := Option.map_eq_some_iff.mp taken
    have safe := safe_resume (onStream iteration await rfl) (allowed (iteration, await) rfl) resumed
    exact Or.inr ⟨turn, safe, same⟩

variable {next : Worker} {action : WorkerAction} {emitted : List Output}

theorem cases_of_step (onStream : worker.OnStream) (allowed : worker.resetting engine action)
    (taken : worker.step engine action = some (next, emitted)) :
    (next.suspended = none ∧ emitted = []) ∨
      ∃ turn : Turn, turn.Safe ∧ worker.take turn = (next, emitted) := by
  cases running : worker.running with
  | false => simp [step, running] at taken
  | true =>
    rw [step, if_pos running] at taken
    exact cases_of_advance onStream allowed taken

theorem onStream_take (safe : turn.Safe) : (worker.take turn).1.OnStream := by
  intro iteration await suspended
  have there : turn.suspended = some (iteration, await) := suspended
  have kept : (worker.take turn).1.session = turn.session := by
    simp [take, there]
  rw [kept]
  exact safe.onStream iteration await there

theorem disconnected_take (reset : turn.session = {}) (ended : turn.suspended = none) :
    (worker.take turn).1.Disconnected := by
  have session : (worker.take turn).1.session = {} := by
    simp [take, reset]
  refine ⟨by rw [session], by rw [session], ?_⟩
  intro iteration await suspended
  rw [show (worker.take turn).1.suspended = turn.suspended from rfl, ended] at suspended
  cases suspended

theorem OnStream.of_step (onStream : worker.OnStream) (allowed : worker.resetting engine action)
    (taken : worker.step engine action = some (next, emitted)) : next.OnStream := by
  rcases cases_of_step onStream allowed taken with ⟨ended, _⟩ | ⟨turn, safe, result⟩
  · intro iteration await suspended
    rw [ended] at suspended
    cases suspended
  · have kept : (worker.take turn).1.OnStream := onStream_take safe
    rw [result] at kept
    exact kept

structure Early (turn : Turn) : Prop where
  unused : turn.emitted.filterMap use? = []
  stream : turn.session.stream = false
  initialized : turn.session.initialized = false
  early :
    ∀ iteration await, turn.suspended = some (iteration, await) → await = .sleep ∨ await = .connect

theorem Early.take (worker : Worker) (early : Early turn) :
    (worker.take turn).2.filterMap use? = [] ∧ (worker.take turn).1.Disconnected := by
  refine ⟨early.unused, ?_, ?_, early.early⟩
  · unfold Worker.take
    dsimp only
    split
    · exact early.stream
    · rfl
  · unfold Worker.take
    dsimp only
    split
    · exact early.initialized
    · rfl

section Early

variable {session : GraphqlWsSession}
  (stream : session.stream = false) (initialized : session.initialized = false)
include stream initialized

theorem early_finish (ending : Ending) (metric : RequestMetric) :
    Early (session.finish ending metric) :=
  ⟨rfl, stream, initialized, fun _ _ suspended => by cases suspended⟩

theorem early_ensureConnected (engine : GraphqlWsEngine) (iteration : Iteration)
    (now : Nat) : Early (session.ensureConnected engine iteration now) := by
  unfold ensureConnected
  rw [if_neg (by simp [stream])]
  refine ⟨rfl, stream, initialized, ?_⟩
  intro _ _ suspended
  cases suspended
  exact Or.inr rfl

theorem early_runIteration (engine : GraphqlWsEngine) (iteration : Iteration) (now : Nat) :
    Early (session.runIteration engine iteration now) := by
  unfold runIteration
  split
  · exact early_finish stream initialized _ _
  · refine ⟨rfl, stream, initialized, ?_⟩
    intro _ _ suspended
    cases suspended
    exact Or.inl rfl
  · exact early_ensureConnected stream initialized engine iteration now

omit stream in
theorem emitted_connected (engine : GraphqlWsEngine) (iteration : Iteration) (now : Nat) :
    (session.connected engine iteration now).emitted = [.opened, .sent connectionInit] := by
  simp [connected, ensureInitialized, initialized, send, suspend]

theorem early_or_opened_of_resume
    {engine : GraphqlWsEngine} {iteration : Iteration} {now : Nat} {await : Await}
    {event : WorkerEvent} {turn : Turn} (early : await = .sleep ∨ await = .connect)
    (resumed : resume engine session iteration now await event = some turn) :
    Early turn ∨ turn.emitted = [.opened, .sent connectionInit] := by
  rcases early with rfl | rfl
  · cases event <;> cases resumed
    · exact Or.inl (early_ensureConnected stream initialized engine iteration now)
    · exact Or.inl (early_finish stream initialized _ _)
  · cases event <;> cases resumed
    · exact Or.inr (emitted_connected initialized engine iteration now)
    · exact Or.inl (early_finish rfl rfl _ _)
    · exact Or.inl (early_finish stream initialized _ _)

end Early

theorem Disconnected.of_advance
    {suspended : Option (Iteration × Await)} {result : Worker × List Output}
    (stream : worker.session.stream = false) (initialized : worker.session.initialized = false)
    (early :
      ∀ iteration await, suspended = some (iteration, await) → await = .sleep ∨ await = .connect)
    (taken : worker.advance engine now suspended event = some result) :
    result.2.filterMap use? = [] ∧ result.1.Disconnected ∨
      [.opened, .sent connectionInit] <+: result.2.filterMap use? := by
  unfold advance at taken
  split at taken
  · cases taken
    exact Or.inl ⟨rfl, stream, initialized, fun _ _ suspended => by cases suspended⟩
  · cases taken
    exact Or.inl ((early_runIteration stream initialized engine _ now).take worker)
  · cases taken
  · rename_i iteration await _
    obtain ⟨turn, resumed, rfl⟩ := Option.map_eq_some_iff.mp taken
    rcases early_or_opened_of_resume stream initialized (early iteration await rfl) resumed
      with stays | opened
    · exact Or.inl (stays.take worker)
    · refine Or.inr ?_
      rw [show (worker.take turn).2 = turn.emitted from rfl, opened]
      exact List.prefix_rfl

theorem Disconnected.of_step (disconnected : worker.Disconnected)
    (taken : worker.step engine action = some (next, emitted)) :
    emitted.filterMap use? = [] ∧ next.Disconnected ∨
      [.opened, .sent connectionInit] <+: emitted.filterMap use? := by
  cases running : worker.running with
  | false => simp [step, running] at taken
  | true =>
    rw [step, if_pos running] at taken
    exact
      Disconnected.of_advance disconnected.stream disconnected.initialized
        disconnected.early taken

theorem disconnected_of_failedRead
    (onStream : worker.OnStream) (allowed : worker.resetting engine action)
    (taken : worker.step engine action = some (next, emitted))
    (before : List Output) (output : Output) (after : List Output)
    (split : emitted = before ++ output :: after) (failed : output.isFailedRead = true) :
    after.filterMap use? = [] ∧ next.Disconnected := by
  rcases cases_of_step onStream allowed taken with ⟨_, nothing⟩ | ⟨turn, safe, result⟩
  · rw [nothing] at split
    cases before <;> cases split
  · cases result
    obtain ⟨unused, reset, ended⟩ := safe.resets before output after split failed
    exact ⟨unused, disconnected_take reset ended⟩

/-- The next iteration that is not faulted begins with a new connection. -/
def Connects (engine : GraphqlWsEngine) (worker : Worker) : Prop :=
  worker.running = true → worker.suspended = none →
    ∀ now, ∃ next,
      worker.step engine ⟨now, .begin none⟩ = some (next, []) ∧
        next.suspended = some (⟨now, none⟩, .connect)

theorem Disconnected.connects (engine : GraphqlWsEngine) (disconnected : worker.Disconnected) :
    worker.Connects engine := by
  intro running idle now
  simp [step, running, advance, idle, runIteration,
    ensureConnected, disconnected.stream, suspend, take]

end Worker

/-- In every run without the excluded steps, a failed read is followed by a new connection
and `connection_init` before any other use of the network, which the next iteration that is not
faulted begins with if none has done so yet. -/
theorem failed_reads_reconnect
    {engine : GraphqlWsEngine} {persistent : Bool} {run : Tracked Worker Output}
    (reached :
      Reaches (Tracked.step (Worker.step engine))
        (Tracked.guardOn (Worker.resetting engine)) (.start (Worker.new persistent)) run) :
    Reconnects run.log ∧
      ∀ before output after,
        run.log = before ++ output :: after → output.isFailedRead = true →
          after.filterMap use? = [] → run.state.Connects engine := by
  have followed {before after : List Output} {output : Output}
      (split : run.log = before ++ output :: after) (failed : output.isFailedRead = true) :=
    Tracked.followed use? [.opened, .sent connectionInit]
      (fun output => output.isFailedRead = true) Worker.OnStream Worker.Disconnected
      (fun _ _ _ _ onStream allowed taken => onStream.of_step allowed taken)
      (fun _ _ _ _ disconnected taken => disconnected.of_step taken)
      (fun _ _ _ _ onStream allowed taken =>
        Worker.disconnected_of_failedRead onStream allowed taken)
      (fun _ _ suspended => by cases suspended) reached split failed
  constructor
  · intro before output after split failed
    exact (followed split failed).imp_left And.left
  · intro before output after split failed unused
    rcases followed split failed with ⟨_, disconnected⟩ | opened
    · exact disconnected.connects engine
    · rw [unused] at opened
      cases List.prefix_nil.mp opened

theorem failed_reads_reconnect_sample :
    ∃ run : Tracked Worker Output,
      Reaches (Tracked.step (Worker.step .sample)) (Tracked.guardOn (Worker.resetting .sample))
          (.start (Worker.new true)) run ∧
        run.log.any Output.isFailedRead = true ∧
        run.log.filterMap use? =
          [.opened, .sent connectionInit, .reading, .sent (.text "subscribe"), .reading,
            .reading, .opened, .sent connectionInit] ∧
        Reconnects run.log :=
  Reaches.exists_and₂_of_executeChecked
    (firstMessage 0 ++ [⟨1, .begin none⟩, ⟨2, .message .close⟩, ⟨3, .begin none⟩, ⟨4, .connected⟩])
    (by decide +kernel) (fun _ reached _ _ => (failed_reads_reconnect reached).1)

/-- The second iteration waits five seconds for an event in vain; the third reads from the
same connection. -/
theorem timedOut_read_keeps_connection :
    ∃ run : Tracked Worker Output,
      Reaches (Tracked.step (Worker.step .sample)) unguarded (.start (Worker.new true)) run ∧
        ¬ Reconnects run.log := by
  refine
    Reaches.exists_imp_of_executeChecked
      (fun run =>
        run.log = run.log.take 7 ++
          Output.returned (.onRead .timeout) (RequestMetric.error 5000000 none) :: [.reading])
      (firstMessage 0 ++ [⟨1, .begin none⟩, ⟨5000001, .timedOut⟩, ⟨5000002, .begin none⟩])
      (by decide +kernel) ?_
  intro run reached log reconnects
  have followed := reconnects _ _ _ log rfl
  revert followed
  decide

end Strobengine.Protocols.GraphqlWs
