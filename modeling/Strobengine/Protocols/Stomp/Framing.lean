import Strobengine.Protocols.Stomp.Session

/-!
# Whole frames on every connection

Every error that an iteration handles resets the session. An iteration that is dropped handles
nothing: if it was in the middle of a frame, the next frame is written right behind the incomplete
one.
-/

namespace Strobengine.Protocols.Stomp

open Foundations Metrics
open WireFrame (encode)

namespace Worker

/-- No iteration is dropped while a frame is partly written on a connected session. -/
def undisturbed (worker : Worker) : WorkerAction → Prop
  | .deadline | .cancelled => worker.session.connected = true → worker.session.midFrame = false
  | _ => True

instance (worker : Worker) (action : WorkerAction) : Decidable (worker.undisturbed action) := by
  unfold undisturbed
  cases action <;> dsimp only <;> infer_instance

end Worker

namespace StompSession

def Orderly (session : StompSession) : Prop :=
  ∀ connection ∈ session.connections, Write.orderly encode connection.log = true

structure Ready (session : StompSession) : Prop where
  closed : ∀ connection ∈ session.closed, Write.orderly encode connection.log = true
  stream : ∀ connection ∈ session.stream, Write.Settled encode connection.log

theorem Ready.orderly {session : StompSession} (ready : session.Ready) : session.Orderly := by
  intro connection member
  rcases List.mem_append.mp member with old | held
  · exact ready.closed connection old
  · exact Write.orderly_of_settled (ready.stream connection (Option.mem_toList.mp held))

theorem ready_new : new.Ready where
  closed := fun _ member => nomatch member
  stream := fun _ member => nomatch member

theorem ready_of_closed {session : StompSession} (orderly : session.Orderly) {next : StompSession}
    (closed : next.closed = session.connections) (none : next.stream = none) : next.Ready where
  closed := by
    rw [closed]
    exact orderly
  stream := by
    rw [none]
    exact fun _ member => nomatch member

end StompSession

namespace Worker

def Holds (phase : Phase) (connected : Bool) (log : List (Write WireFrame)) : Prop :=
  match phase with
  | .iterating _ (.write _) | .disconnecting =>
    ∃ earlier current, log = earlier ++ [current] ∧ Write.Settled encode earlier
  | .iterating _ (.read _) => Write.Settled encode log
  | _ =>
    Write.orderly encode log = true ∧
      (connected = true → Write.Settled encode log)

structure Framed (worker : Worker) : Prop where
  closed :
    ∀ connection ∈ worker.session.closed, Write.orderly encode connection.log = true
  stream :
    ∀ connection ∈ worker.session.stream, Holds worker.phase worker.session.connected connection.log

theorem Holds.writing_or_resting {phase : Phase} {connected : Bool} {log : List (Write WireFrame)}
    (holds : Holds phase connected log) :
    (∃ earlier current, log = earlier ++ [current] ∧ Write.Settled encode earlier) ∨
      (Write.orderly encode log = true ∧
        (connected = true → Write.Settled encode log)) := by
  unfold Holds at holds
  split at holds
  · exact Or.inl holds
  · exact Or.inl holds
  · exact Or.inr ⟨Write.orderly_of_settled holds, fun _ => holds⟩
  · exact Or.inr holds

theorem Holds.orderly {phase : Phase} {connected : Bool} {log : List (Write WireFrame)}
    (holds : Holds phase connected log) : Write.orderly encode log = true := by
  rcases holds.writing_or_resting with ⟨earlier, current, rfl, settled⟩ | ⟨orderly, _⟩
  · exact Write.orderly_append settled (Write.orderly_singleton current)
  · exact orderly

theorem Framed.orderly {worker : Worker} (framed : worker.Framed) : worker.session.Orderly := by
  intro connection member
  rcases List.mem_append.mp member with old | held
  · exact framed.closed connection old
  · exact (framed.stream connection (Option.mem_toList.mp held)).orderly

end Worker

namespace StompSession

variable {session : StompSession} {engine : StompEngine} {chaosFault : Option ChaosFault}

theorem Ready.framed (ready : session.Ready) {phase : Phase}
    (notWriting : ∀ log : List (Write WireFrame), Write.Settled encode log →
      Worker.Holds phase session.connected log) :
    Worker.Framed { session, phase } where
  closed := ready.closed
  stream := fun connection held => notWriting _ (ready.stream connection held)

theorem Ready.framed_finish (ready : session.Ready) : session.finish.Framed :=
  ready.framed fun _ settled => ⟨Write.orderly_of_settled settled, fun _ => settled⟩

theorem Orderly.framed_fail (orderly : session.Orderly) : session.fail.Framed :=
  (ready_of_closed orderly rfl rfl).framed_finish

theorem Orderly.framed_close (orderly : session.Orderly) : session.close.Framed :=
  (ready_of_closed orderly rfl rfl).framed fun _ settled =>
    ⟨Write.orderly_of_settled settled, fun _ => settled⟩

theorem Ready.framed_writeFrame (ready : session.Ready) (request : Request) (frame : WireFrame) :
    (session.writeFrame chaosFault request frame).Framed := by
  unfold writeFrame
  split
  · exact ready.orderly.framed_fail
  · rename_i connection held
    refine ⟨ready.closed, ?_⟩
    rintro _ ⟨⟩
    exact ⟨connection.log, _, rfl, ready.stream connection held⟩

theorem Ready.framed_await
    (ready : session.Ready) (expected : Expected) {resume : StompSession → Frame → Worker}
    (resumes : ∀ (next : StompSession) (frame : Frame), next.Ready → (resume next frame).Framed) :
    (session.await chaosFault expected resume).Framed := by
  have moved (decoder : Decoder) : Ready { session with decoder } := { ready with }
  unfold await
  split
  · exact resumes _ _ (moved _)
  · exact (moved _).orderly.framed_fail
  · split
    · exact (moved _).orderly.framed_fail
    · exact (moved _).framed fun _ settled => settled

theorem Ready.framed_acknowledge (ready : session.Ready) (message : Frame) :
    (session.acknowledge engine chaosFault message).Framed := by
  unfold acknowledge
  dsimp only
  split
  · exact ready.framed_finish
  · exact ready.framed_finish
  · exact ready.framed_writeFrame _ _

theorem Ready.framed_drainMessage (ready : session.Ready) :
    (session.drainMessage engine chaosFault).Framed :=
  ready.framed_await _ fun _ message next => next.framed_acknowledge message

theorem Ready.framed_exchange (ready : session.Ready) :
    (session.exchange engine chaosFault).Framed := by
  unfold exchange
  split
  · refine Ready.framed_writeFrame ?_ _ _
    exact { ready with }
  · split
    · exact ready.framed_drainMessage
    · exact ready.framed_writeFrame _ _

theorem Ready.framed_resume (ready : session.Ready) (expected : Expected) (frame : Frame) :
    (resume engine chaosFault expected session frame).Framed := by
  cases expected with
  | connected => exact Ready.framed_exchange { ready with }
  | receipt => exact ready.framed_finish
  | message => exact ready.framed_acknowledge frame

theorem Ready.framed_afterWrite (ready : session.Ready) (request : Request) :
    (session.afterWrite engine chaosFault request).Framed := by
  cases request with
  | connect => exact ready.framed_await _ fun _ frame next => next.framed_resume _ frame
  | subscribe => exact Ready.framed_drainMessage { ready with }
  | send receiptId =>
    cases receiptId with
    | none => exact ready.framed_finish
    | some => exact ready.framed_await _ fun _ frame next => next.framed_resume _ frame
  | ack => exact ready.framed_finish

/-! ## Sessions that may hold an incomplete frame -/

structure Resting (session : StompSession) : Prop where
  orderly : session.Orderly
  connected :
    session.connected = true →
      ∀ connection ∈ session.stream, Write.Settled encode connection.log

theorem Resting.ready (resting : session.Resting) (connected : session.connected = true) :
    session.Ready where
  closed := fun connection old => resting.orderly connection (List.mem_append_left _ old)
  stream := resting.connected connected

theorem Resting.framed (resting : session.Resting) {phase : Phase}
    (notWriting : ∀ log : List (Write WireFrame), Write.orderly encode log = true →
      (session.connected = true → Write.Settled encode log) →
        Worker.Holds phase session.connected log) :
    Worker.Framed { session, phase } where
  closed := fun connection old => resting.orderly connection (List.mem_append_left _ old)
  stream := fun connection held =>
    notWriting _
      (resting.orderly connection
        (List.mem_append_right _ (Option.mem_toList.mpr held)))
      (fun connected => resting.connected connected connection held)

theorem Resting.framed_finish (resting : session.Resting) : session.finish.Framed :=
  resting.framed fun _ orderly settled => ⟨orderly, settled⟩

theorem Resting.framed_ensureConnected (resting : session.Resting) :
    (session.ensureConnected engine chaosFault).Framed := by
  unfold ensureConnected
  split
  · rename_i connected
    exact (resting.ready connected).framed_exchange
  · exact resting.framed fun _ orderly settled => ⟨orderly, settled⟩

theorem Resting.framed_runIteration (resting : session.Resting) :
    (session.runIteration engine chaosFault).Framed := by
  unfold runIteration
  split
  · exact resting.framed fun _ orderly settled => ⟨orderly, settled⟩
  · exact resting.orderly.framed_fail
  · exact resting.framed_ensureConnected

theorem Orderly.framed_opened (orderly : session.Orderly) : (session.opened chaosFault).Framed := by
  apply Ready.framed_writeFrame
  refine ⟨orderly, ?_⟩
  rintro _ ⟨⟩
  exact fun _ member => nomatch member

theorem Resting.framed_shutdown (resting : session.Resting) : session.shutdown.Framed := by
  unfold shutdown
  split
  · rename_i connection connected held
    have ready := resting.ready connected
    refine ⟨ready.closed, ?_⟩
    rintro _ ⟨⟩
    exact ⟨connection.log, _, rfl, ready.stream connection held⟩
  · exact resting.orderly.framed_close

end StompSession

namespace Worker

variable {engine : StompEngine} {worker next : Worker} {action : WorkerAction}

theorem framed_new : new.Framed :=
  StompSession.ready_new.framed_finish

theorem settled_of_not_midFrame
    {earlier : List (Write WireFrame)} {current : Write WireFrame} {connection : Connection}
    (log : connection.log = earlier ++ [current]) (settled : Write.Settled encode earlier)
    (intact : connection.midFrame = false) : Write.Settled encode connection.log := by
  rw [Connection.midFrame, log, List.getLast?_concat] at intact
  rw [log]
  refine Write.settled_append settled ?_
  intro write member
  rw [List.mem_singleton.mp member]
  exact intact

theorem Framed.resting_of_undisturbed (framed : worker.Framed)
    (intact : worker.session.connected = true → worker.session.midFrame = false) :
    worker.session.Resting where
  orderly := framed.orderly
  connected := by
    intro connected connection held
    have whole := intact connected
    rw [StompSession.midFrame, held] at whole
    rcases (framed.stream connection held).writing_or_resting with
      ⟨earlier, current, log, settled⟩ | ⟨_, settled⟩
    · exact settled_of_not_midFrame log settled whole
    · exact settled connected

theorem Framed.ready_of_flushed (framed : worker.Framed)
    (writing :
      ∀ log : List (Write WireFrame), Holds worker.phase worker.session.connected log →
        ∃ earlier current, log = earlier ++ [current] ∧ Write.Settled encode earlier)
    (flushed : worker.session.stream.any Connection.flushed = true) :
    worker.session.Ready where
  closed := framed.closed
  stream := by
    intro connection held
    obtain ⟨earlier, current, log, settled⟩ := writing _ (framed.stream connection held)
    rw [held] at flushed
    refine settled_of_not_midFrame log settled ?_
    change connection.flushed = true at flushed
    rw [Connection.flushed, log, List.getLast?_concat] at flushed
    rw [Connection.midFrame, log, List.getLast?_concat]
    exact Write.torn_of_whole flushed

theorem Framed.of_write (framed : worker.Framed)
    (writing :
      ∀ log : List (Write WireFrame), Holds worker.phase worker.session.connected log ↔
        ∃ earlier current, log = earlier ++ [current] ∧ Write.Settled encode earlier)
    {count : Nat} (taken : worker.write count = some next) : next.Framed := by
  unfold write at taken
  split at taken
  · cases taken
  · rename_i connection held
    split at taken
    · cases taken
    · rename_i advanced moved
      cases taken
      refine ⟨framed.closed, ?_⟩
      rintro _ ⟨⟩
      obtain ⟨earlier, current, log, settled⟩ := (writing _).mp (framed.stream connection held)
      rw [Connection.advance, log, List.getLast?_concat, List.dropLast_concat] at moved
      dsimp only at moved
      split at moved
      · cases moved
        exact (writing _).mpr ⟨earlier, _, rfl, settled⟩
      · cases moved

theorem Framed.of_step (framed : worker.Framed) (allowed : worker.undisturbed action)
    (taken : worker.step engine action = some next) : next.Framed := by
  obtain ⟨session, phase⟩ := worker
  have resting (outside : ∀ log : List (Write WireFrame), Holds phase session.connected log →
      session.connected = true → Write.Settled encode log) : session.Resting :=
    { orderly := framed.orderly
      connected := fun connected connection held =>
        outside _ (framed.stream connection held) connected }
  unfold step at taken
  dsimp only at taken
  split at taken
  · cases taken
    exact (resting fun _ holds => holds.2).framed_runIteration
  · cases taken
    exact (resting fun _ holds => holds.2).framed_shutdown
  · cases taken
    exact (framed.resting_of_undisturbed allowed).framed_finish
  · cases taken
    exact (framed.resting_of_undisturbed allowed).framed_shutdown
  · cases taken
    exact (resting fun _ holds => holds.2).framed_ensureConnected
  · cases taken
    exact framed.orderly.framed_opened
  · cases taken
    exact framed.orderly.framed_fail
  · exact framed.of_write (fun _ => Iff.rfl) taken
  · split at taken
    · rename_i flushed
      cases taken
      exact (framed.ready_of_flushed (fun _ holds => holds) flushed).framed_afterWrite _
    · cases taken
  · cases taken
    exact framed.orderly.framed_fail
  · split at taken
    · cases taken
      have ready : session.Ready := ⟨framed.closed, framed.stream⟩
      refine StompSession.Ready.framed_await ?_ _ fun _ frame later =>
        later.framed_resume _ frame
      exact { ready with }
    · cases taken
  · cases taken
    exact framed.orderly.framed_fail
  · exact framed.of_write (fun _ => Iff.rfl) taken
  · split at taken
    · cases taken
      exact framed.orderly.framed_close
    · cases taken
  · cases taken
    exact framed.orderly.framed_close
  · cases taken

theorem framed_of_reaches (reached : Reaches (step engine) undisturbed new worker) :
    worker.Framed :=
  Reaches.invariant Framed
    (fun _ _ _ framed allowed taken => framed.of_step allowed taken) framed_new reached

/-! ## What is on the wire -/

theorem bytes_of_orderly {connection : Connection}
    (orderly : Write.orderly encode connection.log = true) :
    ∃ tail,
      connection.bytes = connection.frames.flatMap Frame.encode ++ tail ∧
        (tail = [] ∨
          ∃ write ∈ connection.log, tail <+: write.item.encode ∧ tail ≠ write.item.encode) := by
  have nonempty (frame : WireFrame) : frame.encode ≠ [] := frame.val.encode_ne_nil
  obtain ⟨tail, written, front⟩ := Write.stream_of_orderly nonempty orderly
  refine ⟨tail, ?_, front⟩
  rw [Connection.bytes, written, Connection.frames, List.flatMap_map]
  rfl

/-- Unless an iteration is dropped in the middle of a frame, every connection carries whole
frames and at most one incomplete frame, and nothing is written after that one. -/
theorem connections_carry_whole_frames (engine : StompEngine) (worker : Worker)
    (reached : Reaches (step engine) undisturbed new worker) :
    ∀ connection ∈ worker.session.connections,
      Write.orderly encode connection.log = true ∧
        ∃ tail,
          connection.bytes = connection.frames.flatMap Frame.encode ++ tail ∧
            (tail = [] ∨
              ∃ write ∈ connection.log, tail <+: write.item.encode ∧ tail ≠ write.item.encode) := by
  intro connection member
  have orderly := (framed_of_reaches reached).orderly connection member
  exact ⟨orderly, bytes_of_orderly orderly⟩

/-- A broker reads the frames that are out as a whole, and nothing else, however the bytes of
the connection are cut on their way. -/
theorem broker_decodes_written_frames
    (reached : Reaches (step engine) undisturbed new worker) {connection : Connection}
    (member : connection ∈ worker.session.connections) {chunks : List (List UInt8)}
    (cutting : chunks.flatten = connection.bytes) :
    (Decoder.new.feed chunks).frames = connection.frames ∧
      (Decoder.new.feed chunks).error = none := by
  obtain ⟨tail, written, front⟩ :=
    bytes_of_orderly ((framed_of_reaches reached).orderly connection member)
  have wellFormed : ∀ frame ∈ connection.frames, frame.WellFormed := by
    intro frame present
    obtain ⟨wire, _, rfl⟩ := List.mem_map.mp present
    exact wire.property
  have waits : Grammar.decoder.pull tail = .more tail := by
    rcases front with rfl | ⟨write, _, begins, proper⟩
    · rfl
    · exact write.item.property.pull_of_prefix begins proper
  have yielded :=
    Decoder.view_feed_frames_append connection.frames tail chunks wellFormed waits
      (cutting.trans written)
  exact ⟨congrArg Yield.items yielded, congrArg Yield.error yielded⟩

def producer : StompEngine where
  destination := "/q"
  mode := .produce
  ack := .auto
  receipt := false
  payload := [104, 105]
  headers := []
  payloadFits := by decide

def firstSend : List WorkerAction :=
  [.begin none, .opened, .wrote connectFrame.encode.length, .written,
    .received (Frame.new "CONNECTED").encode]

theorem connections_carry_whole_frames_sample :
    ∃ worker,
      Reaches (step producer) undisturbed new worker ∧
        worker.session.connections.map (fun connection => connection.frames.map Frame.command) =
            [["CONNECT", "SEND"]] ∧
          ∀ connection ∈ worker.session.connections,
            Write.orderly encode connection.log = true :=
  -- the second SEND fails after three bytes
  Reaches.exists_and_of_executeChecked
    (firstSend ++
      [WorkerAction.wrote (producer.sendFrame none 0).encode.length, .written, .begin none,
        .wrote 3, .writeFailed])
    (by decide +kernel) (fun worker reached _ => fun connection member =>
      (connections_carry_whole_frames producer worker reached connection member).1)

/-- Every byte arrives in a chunk of its own; the second SEND is still being written. -/
theorem broker_decodes_written_frames_sample :
    ∃ worker,
      Reaches (step producer) undisturbed new worker ∧
        worker.session.connections.map (fun connection => connection.frames.map Frame.command) =
            [["CONNECT", "SEND"]] ∧
          ∀ connection ∈ worker.session.connections,
            (Decoder.new.feed (connection.bytes.map ([·]))).frames = connection.frames :=
  Reaches.exists_and_of_executeChecked
    (firstSend ++
      [WorkerAction.wrote (producer.sendFrame none 0).encode.length, .written, .begin none,
        .wrote 3])
    (by decide +kernel) (fun _ reached _ => fun connection member =>
      (broker_decodes_written_frames reached member (List.flatMap_singleton' connection.bytes)).1)

/-- The deadline drops an iteration after three bytes of its SEND. The next iteration
writes its SEND behind them, and the broker reads a command that no client has sent. -/
theorem deadline_tears_frame_sample :
    ∃ worker,
      Reaches (step producer) unguarded new worker ∧
        ∃ connection ∈ worker.session.connections,
          Write.orderly encode connection.log = false ∧
            (Decoder.new.push connection.bytes).drain.frames.map Frame.command =
              ["CONNECT", "SENSEND"] :=
  Reaches.exists_of_executeChecked
    (firstSend ++ [WorkerAction.wrote 3, .deadline, .begin none,
        .wrote (producer.sendFrame none 0).encode.length])
    (by decide +kernel)

end Worker

end Strobengine.Protocols.Stomp
