import Strobengine.Protocols.Stomp.Session
import Strobengine.Protocols.Stomp.Wrapping

/-!
# What the decoder of a session holds

The size guard looks at the pending bytes alone; the consumed bytes that are still in the buffer
are bounded because every call of `next_frame` compacts it.
-/

namespace Strobengine.Protocols.Stomp

open Foundations Metrics

namespace Decoder

def maxBuffered : Nat :=
  maxFrameBytes + readChunk + 4095

/-- The decoders that `read_frame` leaves or goes through. A chunk is read only when there is
no frame and the pending bytes are within the limit. -/
inductive Reading : Decoder → Prop where
  | new : Reading new
  | nextFrame {decoder : Decoder} : Reading decoder → Reading decoder.nextFrame.2
  | read {before decoder : Decoder} {chunk : List UInt8} :
      Reading before → before.nextFrame = (.ok none, decoder) →
        decoder.pending ≤ maxFrameBytes → chunk ≠ [] → chunk.length ≤ readChunk →
          Reading (decoder.push chunk)

structure Waiting (decoder : Decoder) : Prop where
  called : ∃ before, Reading before ∧ before.nextFrame = (.ok none, decoder)
  small : decoder.pending ≤ maxFrameBytes

theorem Waiting.read {decoder : Decoder} (waiting : decoder.Waiting) {chunk : List UInt8}
    (some : chunk ≠ []) (short : chunk.length ≤ readChunk) : (decoder.push chunk).Reading := by
  obtain ⟨before, reading, called⟩ := waiting.called
  exact reading.read called waiting.small some short

theorem Reading.called {decoder after : Decoder} {outcome : Except CodecError (Option Frame)}
    (reading : decoder.Reading) (called : decoder.nextFrame = (outcome, after)) :
    after.Reading := by
  have moved := reading.nextFrame
  rwa [called] at moved

theorem pos_compact_lt (decoder : Decoder) : decoder.compact.pos < 4096 := by
  unfold compact
  split
  · exact Nat.zero_lt_succ _
  · omega

theorem pos_nextFrame_lt (decoder : Decoder) : decoder.nextFrame.2.pos < 4096 := by
  have skipped : decoder.skipHeartbeats.pos < 4096 := pos_compact_lt _
  rw [nextFrame_eq_front]
  cases decoder.front with
  | stopped => exact skipped
  | body command headers cursor =>
    dsimp only
    cases scanBody decoder.skipHeartbeats.buf cursor (contentLengthOf headers) with
    | incomplete | failed => exact skipped
    | complete => exact pos_compact_lt _

theorem length_push_le {decoder : Decoder} {chunk : List UInt8} (consumed : decoder.pos < 4096)
    (small : decoder.pending ≤ maxFrameBytes) (short : chunk.length ≤ readChunk) :
    (decoder.push chunk).buf.length ≤ maxBuffered := by
  have grown : (decoder.push chunk).buf.length = decoder.buf.length + chunk.length :=
    List.length_append
  unfold pending at small
  unfold maxBuffered
  omega

theorem Reading.length_le {decoder : Decoder} (reading : decoder.Reading) :
    decoder.buf.length ≤ maxBuffered := by
  induction reading with
  | new => exact Nat.zero_le _
  | @nextFrame decoder _ bounded => exact Nat.le_trans decoder.length_nextFrame_le bounded
  | @read before decoder chunk _ called small _ short _ =>
    have moved := pos_nextFrame_lt before
    rw [called] at moved
    exact length_push_le moved small short

theorem pending_nextFrame_lt {decoder after : Decoder} {frame : Frame}
    (called : decoder.nextFrame = (.ok (some frame), after)) :
    after.pending < decoder.pending := by
  rw [← length_unread, ← length_unread]
  exact unread_nextFrame_lt called

end Decoder

theorem reading_awaitFrame (expected : Expected) {decoder : Decoder} (reading : decoder.Reading) :
    (awaitFrame expected decoder).2.Reading ∧ ((awaitFrame expected decoder).1 = .waiting →
        (awaitFrame expected decoder).2.Waiting) := by
  induction size : decoder.unread.length using Nat.strongRecOn generalizing decoder with
  | ind size ih =>
    rw [awaitFrame]
    split
    · rename_i error after called
      exact ⟨reading.called called, fun waiting => by cases waiting⟩
    · rename_i after called
      split
      · exact ⟨reading.called called, fun waiting => by cases waiting⟩
      · rename_i small
        exact ⟨reading.called called, fun _ => ⟨⟨decoder, reading, called⟩, not_lt.mp small⟩⟩
    · rename_i frame after called
      split
      · exact ⟨reading.called called, fun waiting => by cases waiting⟩
      · split
        · exact ⟨reading.called called, fun waiting => by cases waiting⟩
        · have shorter := Decoder.unread_nextFrame_lt called
          exact ih after.unread.length (size ▸ shorter) (reading.called called) rfl

structure Worker.Reads (worker : Worker) : Prop where
  reading : worker.session.decoder.Reading
  waiting :
    ∀ chaosFault expected, worker.phase = .iterating chaosFault (.read expected) →
      worker.session.decoder.Waiting

namespace StompSession

variable {session : StompSession} (reading : session.decoder.Reading)
  {engine : StompEngine} {chaosFault : Option ChaosFault}
include reading

theorem reads_of_phase {phase : Phase}
    (other : ∀ chaosFault expected, phase ≠ .iterating chaosFault (.read expected)) :
    Worker.Reads { session, phase } where
  reading := reading
  waiting chaosFault expected here := absurd here (other chaosFault expected)

theorem reads_finish : session.finish.Reads :=
  reads_of_phase reading (fun _ _ here => nomatch here)

omit reading in
theorem reads_fail : session.fail.Reads :=
  reads_of_phase .new (fun _ _ here => nomatch here)

theorem reads_writeFrame (request : Request) (frame : WireFrame) :
    (session.writeFrame chaosFault request frame).Reads := by
  unfold writeFrame
  split
  · exact reads_fail
  · exact { reading, waiting := fun _ _ here => nomatch here }

theorem reads_await (expected : Expected) {resume : StompSession → Frame → Worker}
    (resumed :
      ∀ later : StompSession, later.decoder.Reading → ∀ frame, (resume later frame).Reads) :
    (session.await chaosFault expected resume).Reads := by
  obtain ⟨left, waits⟩ := reading_awaitFrame expected reading
  unfold await
  split
  · rename_i frame decoder ended
    rw [ended] at left
    exact resumed _ left frame
  · exact reads_fail
  · rename_i decoder ended
    rw [ended] at left waits
    split
    · exact reads_fail
    · exact { reading := left, waiting := fun _ _ _ => waits rfl }

theorem reads_acknowledge (message : Frame) :
    (session.acknowledge engine chaosFault message).Reads := by
  unfold acknowledge
  dsimp only
  split
  · exact reads_finish reading
  · exact reads_finish reading
  · exact reads_writeFrame reading _ _

theorem reads_drainMessage : (session.drainMessage engine chaosFault).Reads :=
  reads_await reading _ fun _ later frame => reads_acknowledge later frame

theorem reads_exchange : (session.exchange engine chaosFault).Reads := by
  unfold exchange
  split
  · refine reads_writeFrame ?_ _ _
    exact reading
  · split
    · exact reads_drainMessage reading
    · exact reads_writeFrame reading _ _

theorem reads_resume (expected : Expected) (frame : Frame) :
    (resume engine chaosFault expected session frame).Reads := by
  cases expected with
  | connected =>
    refine reads_exchange ?_
    exact reading
  | receipt => exact reads_finish reading
  | message => exact reads_acknowledge reading frame

theorem reads_afterWrite (request : Request) :
    (session.afterWrite engine chaosFault request).Reads := by
  unfold afterWrite
  split
  · exact reads_await reading _ fun _ later frame => reads_resume later _ frame
  · refine reads_drainMessage ?_
    exact reading
  · exact reads_finish reading
  · exact reads_await reading _ fun _ later frame => reads_resume later _ frame
  · exact reads_finish reading

theorem reads_ensureConnected : (session.ensureConnected engine chaosFault).Reads := by
  unfold ensureConnected
  split
  · exact reads_exchange reading
  · exact { reading, waiting := fun _ _ here => nomatch here }

theorem reads_runIteration : (session.runIteration engine chaosFault).Reads := by
  unfold runIteration
  split
  · exact { reading, waiting := fun _ _ here => nomatch here }
  · exact reads_fail
  · exact reads_ensureConnected reading

theorem reads_close : session.close.Reads where
  reading := reading
  waiting _ _ here := nomatch here

theorem reads_shutdown : session.shutdown.Reads := by
  unfold shutdown
  split
  · exact { reading, waiting := fun _ _ here => nomatch here }
  · exact reads_close reading

end StompSession

namespace Worker

open StompSession

variable {engine : StompEngine} {worker next : Worker} {action : WorkerAction}

theorem reads_new : new.Reads :=
  reads_finish .new

theorem Reads.of_write (reads : worker.Reads) {count : Nat}
    (taken : worker.write count = some next) : next.Reads := by
  unfold write at taken
  split at taken
  · cases taken
  · split at taken
    · cases taken
    · cases taken
      exact { reads with }

theorem Reads.of_step (reads : worker.Reads) (taken : worker.step engine action = some next) :
    next.Reads := by
  have reading := reads.reading
  obtain ⟨session, phase⟩ := worker
  unfold step at taken
  dsimp only at taken
  split at taken
  · cases taken
    exact reads_runIteration reading
  · cases taken
    exact reads_shutdown reading
  · cases taken
    exact reads_finish reading
  · cases taken
    exact reads_shutdown reading
  · cases taken
    exact reads_ensureConnected reading
  · cases taken
    exact reads_writeFrame .new _ _
  · cases taken
    exact reads_fail
  · exact reads.of_write taken
  · split at taken
    · cases taken
      exact reads_afterWrite reading _
    · cases taken
  · cases taken
    exact reads_fail
  · split at taken
    · rename_i chunk
      cases taken
      exact
        reads_await ((reads.waiting _ _ rfl).read chunk.1 chunk.2) _
          fun _ later frame => reads_resume later _ frame
    · cases taken
  · cases taken
    exact reads_fail
  · exact reads.of_write taken
  · split at taken
    · cases taken
      exact reads_close reading
    · cases taken
  · cases taken
    exact reads_close reading
  · cases taken

structure CallBounded (decoder : Decoder) : Prop where
  within : decoder.pos ≤ decoder.buf.length
  buffered : decoder.buf.length ≤ Decoder.maxBuffered
  withinAfter : decoder.nextFrame.2.pos ≤ decoder.nextFrame.2.buf.length
  compacted : decoder.nextFrame.2.pos < 4096
  compactKeeps : decoder.compact.unread = decoder.unread
  skipKeeps : decoder.skipHeartbeats.unread = decoder.unread.dropWhile isEol
  commandLine :
    ∀ newline, find decoder.skipHeartbeats.unread lineFeed = some newline →
      stripCr (decoder.skipHeartbeats.unread.take newline) ≠ []
  onePass :
    decoder.nextFrame = match decoder.front with
      | .stopped outcome => (outcome, decoder.skipHeartbeats)
      | .body command headers cursor =>
        decoder.skipHeartbeats.finish command headers
          (scanBody decoder.skipHeartbeats.buf cursor (contentLengthOf headers))
  progress :
    ∀ frame, decoder.nextFrame.1 = .ok (some frame) → decoder.nextFrame.2.pending < decoder.pending

theorem callBounded_of_reading {decoder : Decoder} (reading : decoder.Reading) :
    CallBounded decoder where
  within := decoder.within
  buffered := reading.length_le
  withinAfter := decoder.nextFrame.2.within
  compacted := decoder.pos_nextFrame_lt
  compactKeeps := decoder.unread_compact
  skipKeeps := decoder.unread_skipHeartbeats
  commandLine _ found := mt List.isEmpty_iff.mpr (Decoder.command_line_not_blank found)
  onePass := decoder.nextFrame_eq_front
  progress _ framed := Decoder.pending_nextFrame_lt (Prod.ext framed rfl)

/-- In every run a session holds a decoder of `read_frame`, and whatever `read_frame` goes
through, the position and the buffer are bounded, what is unread is kept, and a frame takes
pending bytes. -/
theorem session_decoder_bounded :
    (∀ engine worker, Reaches (step engine) unguarded new worker →
      worker.session.decoder.Reading) ∧
      ∀ decoder : Decoder, decoder.Reading → CallBounded decoder :=
  ⟨fun _ _ reached =>
    (Reaches.invariant Reads (fun _ _ _ reads _ taken => reads.of_step taken) reads_new
      reached).reading,
    fun _ => callBounded_of_reading⟩

end Worker

end Strobengine.Protocols.Stomp
