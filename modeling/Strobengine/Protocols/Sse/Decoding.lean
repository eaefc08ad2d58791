import Strobengine.Foundations.Sequence
import Strobengine.Protocols.Sse.Session
import Strobengine.Rust.Lossy

/-!
# Chunks and characters

Every chunk is decoded on its own before it is parsed. The decoded chunks are the stream only where
no chunk ends within a character.
-/

namespace Strobengine.Protocols.Sse

open Foundations Metrics Rust

inductive Wire where
  | opened
  | chunk (bytes : List UInt8)
  | parsed (event : SseEvent)
  deriving DecidableEq, Repr

namespace Wire

def isOpened : Wire → Bool
  | .opened => true
  | _ => false

def chunk? : Wire → Option (List UInt8)
  | .chunk bytes => some bytes
  | _ => none

def event? : Wire → Option SseEvent
  | .parsed event => some event
  | _ => none

def chunks (log : List Wire) : List (List UInt8) :=
  (since isOpened log).filterMap chunk?

def events (log : List Wire) : List SseEvent :=
  (since isOpened log).filterMap event?

def fed (log : List Wire) : List String :=
  (chunks log).map fromUtf8Lossy

end Wire

def WorkerEvent.arriving : WorkerEvent → List Wire
  | .connected _ => [.opened]
  | .chunk bytes => [.chunk bytes]
  | _ => []

def Output.wire? : Output → Option Wire
  | .parsed event => some (.parsed event)
  | .returned _ => none

def Worker.wired (engine : SseEngine) : Emitting Worker WorkerAction Wire
  | worker, action =>
    (worker.step engine action).map (fun result =>
      (result.1, action.event.arriving ++ result.2.filterMap Output.wire?))

/-! ## What is parsed -/

theorem parseSseChunks_concat (buffer : String) (chunks : List String) (chunk : String) :
    parseSseChunks buffer (chunks ++ [chunk]) =
      ((parseSseChunks buffer chunks).1 ++ (parseSseChunk (parseSseChunks buffer chunks).2 chunk).1,
        (parseSseChunk (parseSseChunks buffer chunks).2 chunk).2) := by
  induction chunks generalizing buffer with
  | nil => simp [parseSseChunks]
  | cons first rest ih => simp [parseSseChunks, ih]

def Parsed (log : List Wire) : Prop :=
  Wire.events log = (parseSseChunks "" (Wire.fed log)).1

def Left (log : List Wire) (buffer : String) : Prop :=
  (parseSseChunks "" (Wire.fed log)).2 = buffer

theorem Parsed.read {log : List Wire} {buffer : String} (parsed : Parsed log)
    (left : Left log buffer) {bytes : List UInt8} {events : List SseEvent} {rest : String}
    (result : parseSseChunk buffer (fromUtf8Lossy bytes) = (events, rest)) :
    Parsed (log ++ .chunk bytes :: events.map .parsed) ∧
      Left (log ++ .chunk bytes :: events.map .parsed) rest := by
  have later :
      since Wire.isOpened (log ++ .chunk bytes :: events.map .parsed) =
        since Wire.isOpened log ++ .chunk bytes :: events.map .parsed :=
    since_append log (by simp [Wire.isOpened])
  have chunks :
      Wire.fed (log ++ .chunk bytes :: events.map .parsed) =
        Wire.fed log ++ [fromUtf8Lossy bytes] := by
    simp [Wire.fed, Wire.chunks, later, Wire.chunk?, Function.comp_def]
  have seen :
      Wire.events (log ++ .chunk bytes :: events.map .parsed) = Wire.events log ++ events := by
    simp [Wire.events, later, List.filterMap_cons, Wire.event?, Function.comp_def]
  have whole := parseSseChunks_concat "" (Wire.fed log) (fromUtf8Lossy bytes)
  rw [← chunks, left, ← parsed, result] at whole
  exact ⟨seen.trans (congrArg Prod.fst whole).symm, congrArg Prod.snd whole⟩

theorem parsed_opened (log : List Wire) :
    Parsed (log ++ [.opened]) ∧ Left (log ++ [.opened]) "" := by
  have none : since Wire.isOpened (log ++ [.opened]) = [] := since_concat_of_marked log rfl
  simp [Parsed, Left, Wire.events, Wire.fed, Wire.chunks, none, parseSseChunks]

def SessionIteration.isReading : SessionIteration → Bool
  | .reading _ _ _ _ _ => true
  | _ => false

structure SseSession.Follows (session : SseSession) (iteration : Option SessionIteration)
    (log : List Wire) : Prop where
  parsed : Parsed log
  left : session.stream = true → Left log session.buffer
  closed : session.stream = false → session.buffer = ""
  stream : ∀ suspended ∈ iteration, suspended.isReading = session.stream

structure StatelessIteration.Follows (iteration : Option StatelessIteration) (log : List Wire) :
    Prop where
  parsed : Parsed log
  left :
    ∀ reqStart fault statusCode totalBytes buffer,
      iteration = some (.reading reqStart fault statusCode totalBytes buffer) → Left log buffer

def Worker.Follows (worker : Worker) (log : List Wire) : Prop :=
  match worker with
  | .stateless iteration => StatelessIteration.Follows iteration log
  | .persistent session iteration => session.Follows iteration log
  | .ended => Parsed log

theorem filterMap_wire_parsed (events : List SseEvent) (metric : RequestMetric) :
    (events.map Output.parsed ++ [Output.returned metric]).filterMap Output.wire? =
      events.map Wire.parsed := by
  rw [List.filterMap_append, List.filterMap_map]
  simp [Function.comp_def, Output.wire?]

theorem Worker.Follows.quietly {worker : Worker} {log quiet : List Wire} (none : quiet = [])
    (follows : worker.Follows log) : worker.Follows (log ++ quiet) := by
  rw [none, List.append_nil]
  exact follows

open Worker.Follows (quietly)

theorem eq_nil_pair {parsed : List SseEvent × String} (empty : parsed.1.isEmpty = true) :
    parsed = ([], parsed.2) :=
  Prod.ext (List.isEmpty_iff.mp empty) rfl

namespace StatelessIteration

theorem follows_idle {log : List Wire} (parsed : Parsed log) :
    (Worker.stateless none).Follows log where
  parsed := parsed
  left _ _ _ _ _ here := nomatch here

theorem follows_readChunk {log : List Wire} {buffer : String} (parsed : Parsed log)
    (left : Left log buffer) (now reqStart : Nat) (fault : Option ChaosFault)
    (statusCode totalBytes : Nat) (bytes : List UInt8) :
    let result := readChunk now reqStart fault statusCode totalBytes buffer bytes
    result.1.Follows (log ++ (.chunk bytes :: result.2.filterMap Output.wire?)) := by
  unfold readChunk
  dsimp only
  split
  · rename_i empty
    obtain ⟨later, rest⟩ := parsed.read left (eq_nil_pair empty)
    refine ⟨later, ?_⟩
    rintro _ _ _ _ _ ⟨⟩
    exact rest
  · rw [filterMap_wire_parsed]
    exact follows_idle (parsed.read left rfl).1

theorem follows_step {engine : SseEngine} {now : Nat} {iteration : Option StatelessIteration}
    {event : WorkerEvent} {result : Worker × List Output} {log : List Wire}
    (follows : Follows iteration log)
    (taken : Worker.stepStateless engine now iteration event = some result) :
    result.1.Follows (log ++ (event.arriving ++ result.2.filterMap Output.wire?)) := by
  have idle := follows_idle follows.parsed
  unfold Worker.stepStateless at taken
  split at taken <;> cases taken
  · unfold start
    split
    · exact idle.quietly rfl
    · exact quietly rfl ⟨follows.parsed, fun _ _ _ _ _ here => nomatch here⟩
    · exact quietly rfl ⟨follows.parsed, fun _ _ _ _ _ here => nomatch here⟩
  · exact quietly rfl ⟨follows.parsed, fun _ _ _ _ _ here => nomatch here⟩
  · obtain ⟨parsed, left⟩ := parsed_opened log
    unfold connected
    split
    · exact follows_idle parsed
    · refine ⟨parsed, ?_⟩
      rintro _ _ _ _ _ ⟨⟩
      exact left
  · exact idle.quietly rfl
  · exact follows_readChunk follows.parsed (follows.left _ _ _ _ _ rfl) now _ _ _ _ _
  · exact idle.quietly rfl
  · exact idle.quietly rfl
  · exact idle.quietly rfl
  · exact quietly rfl follows.parsed

end StatelessIteration

namespace SseSession

variable {session : SseSession} {iteration : Option SessionIteration} {log : List Wire}

theorem Follows.suspend (follows : session.Follows iteration log)
    {suspended : SessionIteration} (reading : suspended.isReading = session.stream) :
    (Worker.persistent session (some suspended)).Follows log :=
  { follows with stream := by rintro _ ⟨⟩; exact reading }

theorem Follows.idle (follows : session.Follows iteration log) :
    (Worker.persistent session none).Follows log :=
  { follows with stream := fun _ here => nomatch here }

theorem Follows.dropStream (follows : session.Follows iteration log) :
    (Worker.persistent session.dropStream none).Follows log where
  parsed := follows.parsed
  left here := nomatch here
  closed _ := rfl
  stream _ here := nomatch here

theorem follows_readChunk (follows : session.Follows iteration log)
    (stream : session.stream = true) (now iterationStart reqStart : Nat) (wasConnected : Bool)
    (fault : Option ChaosFault) (totalBytes : Nat) (bytes : List UInt8) :
    let result :=
      session.readChunk now iterationStart reqStart wasConnected fault totalBytes bytes
    result.1.Follows (log ++ (.chunk bytes :: result.2.filterMap Output.wire?)) := by
  have left := follows.left stream
  have open' (closed : session.stream = false) : False := by
    rw [stream] at closed
    cases closed
  unfold readChunk
  dsimp only
  split
  · rename_i empty
    obtain ⟨later, rest⟩ := follows.parsed.read left (eq_nil_pair empty)
    exact
      { parsed := later
        left := fun _ => rest
        closed := fun closed => (open' closed).elim
        stream := by rintro _ ⟨⟩; exact stream.symm }
  · rw [filterMap_wire_parsed]
    obtain ⟨later, rest⟩ := follows.parsed.read left rfl
    exact
      { parsed := later
        left := fun _ => rest
        closed := fun closed => (open' closed).elim
        stream := fun _ here => nomatch here }

theorem follows_step {engine : SseEngine} {now : Nat} {event : WorkerEvent}
    {result : Worker × List Output} (follows : session.Follows iteration log)
    (taken : Worker.stepPersistent engine now session iteration event = some result) :
    result.1.Follows (log ++ (event.arriving ++ result.2.filterMap Output.wire?)) := by
  unfold Worker.stepPersistent at taken
  split at taken <;> cases taken
  · unfold start
    split
    · exact follows.idle.quietly rfl
    · split
      · rename_i stream
        refine quietly rfl (follows.suspend ?_)
        exact stream.symm
      · rename_i closed
        have closed : false = session.stream := by simpa using closed
        split
        · exact follows.idle.quietly rfl
        all_goals
          refine quietly rfl (follows.suspend ?_)
          exact closed
  · have sleeping := follows.stream _ rfl
    refine quietly rfl (follows.suspend ?_)
    exact sleeping
  · obtain ⟨parsed, left⟩ := parsed_opened log
    exact
      { parsed
        left := fun _ => (follows.closed (follows.stream _ rfl).symm).symm ▸ left
        closed := fun here => nomatch here
        stream := by rintro _ ⟨⟩; rfl }
  · exact follows.idle.quietly rfl
  · exact follows_readChunk follows (follows.stream _ rfl).symm now _ _ _ _ _ _
  · exact follows.dropStream.quietly rfl
  · exact follows.dropStream.quietly rfl
  · exact follows.idle.quietly rfl
  · exact quietly rfl follows.parsed

end SseSession

theorem Worker.Follows.of_step {engine : SseEngine} {worker next : Worker} {action : WorkerAction}
    {log wires : List Wire} (follows : worker.Follows log)
    (taken : worker.wired engine action = some (next, wires)) : next.Follows (log ++ wires) := by
  obtain ⟨result, stepped, shown⟩ := Option.map_eq_some_iff.mp taken
  cases shown
  cases worker with
  | stateless => exact StatelessIteration.follows_step follows stepped
  | persistent => exact SseSession.follows_step follows stepped
  | ended => cases stepped

theorem Worker.follows_new (engine : SseEngine) (withSession : Bool) :
    (Worker.new engine withSession).Follows [] := by
  cases withSession with
  | false => exact StatelessIteration.follows_idle rfl
  | true =>
    exact
      { parsed := rfl
        left := fun here => nomatch here
        closed := fun _ => rfl
        stream := fun _ here => nomatch here }

theorem Worker.Follows.parsed {worker : Worker} {log : List Wire} (follows : worker.Follows log) :
    Parsed log := by
  cases worker with
  | stateless => exact StatelessIteration.Follows.parsed follows
  | persistent => exact SseSession.Follows.parsed follows
  | ended => exact follows

def Wire.text (log : List Wire) : String :=
  String.join (Wire.fed log)

/-- The events of a connection are those of the text that the parser was given. Where the
stream is a text, that is the part of it that has arrived if and only if no chunk ends within a
character. -/
theorem fed_text_iff_chunks_whole
    {engine : SseEngine} {withSession : Bool} {run : Tracked Worker Wire}
    (reached :
      Reaches (Tracked.step (Worker.wired engine)) unguarded
        (.start (Worker.new engine withSession)) run)
    {stream : String} {unread : List UInt8}
    (valid : (Wire.chunks run.log).flatten ++ unread = utf8 stream) :
    Wire.events run.log = (parseSseChunk "" (Wire.text run.log)).1 ∧
      (utf8 (Wire.text run.log) ++ unread = utf8 stream ↔
        ∀ chunk ∈ Wire.chunks run.log, ∃ piece, chunk = utf8 piece) := by
  have parsed : Parsed run.log :=
    (Tracked.invariant Worker.Follows (fun _ _ _ _ _ follows _ taken => follows.of_step taken)
      (Worker.follows_new engine withSession) reached).parsed
  have whole : parseSseChunks "" (Wire.fed run.log) = parseSseChunk "" (Wire.text run.log) := by
    unfold Wire.text
    cases Wire.fed run.log with
    | nil =>
      rw [parseSseChunks, parseSseChunk, drainFrames]
      rfl
    | cons chunk chunks => exact parseSseChunks_cons "" chunk chunks
  refine ⟨parsed.trans (congrArg Prod.fst whole), ?_⟩
  rw [← valid, List.append_left_inj]
  exact utf8_join_fromUtf8Lossy_iff (Wire.chunks run.log)

private def accented : String :=
  "data:\u00e9\n\n"

theorem fed_text_iff_chunks_whole_sample :
    ∃ run : Tracked Worker Wire,
      Reaches (Tracked.step (Worker.wired ⟨none, 5000000⟩)) unguarded
          (.start (Worker.new ⟨none, 5000000⟩ true)) run ∧
        Wire.chunks run.log = [[100, 97, 116, 97, 58, 195, 169], [10, 10]] ∧
        Wire.events run.log = (parseSseChunk "" (Wire.text run.log)).1 ∧
        utf8 (Wire.text run.log) ++ [] = utf8 accented := by
  refine
    Reaches.exists_imp_of_executeChecked
      (fun run => Wire.chunks run.log = [[100, 97, 116, 97, 58, 195, 169], [10, 10]] ∧
        (Wire.chunks run.log).flatten ++ [] = utf8 accented)
      [⟨0, .begin none⟩, ⟨1, .connected 200⟩, ⟨2, .chunk [100, 97, 116, 97, 58, 195, 169]⟩,
        ⟨3, .chunk [10, 10]⟩]
      (by decide +kernel) ?_
  rintro run reached ⟨chunks, valid⟩
  obtain ⟨events, fed⟩ := fed_text_iff_chunks_whole reached valid
  refine ⟨chunks, events, fed.mpr ?_⟩
  rw [chunks]
  simp only [List.forall_mem_cons]
  exact ⟨⟨"data:\u00e9", by decide +kernel⟩, ⟨"\n\n", by decide +kernel⟩, by simp⟩

/-- Some run parses other data from the stream than the stream has. -/
def Garbles (withSession : Bool) (stream : String) : Prop :=
  ∃ run : Tracked Worker Wire,
    Reaches (Tracked.step (Worker.wired ⟨none, 5000000⟩)) unguarded
        (.start (Worker.new ⟨none, 5000000⟩ withSession)) run ∧
      (Wire.chunks run.log).flatten = utf8 stream ∧ Wire.text run.log ≠ stream ∧
      Wire.events run.log ≠ (parseSseChunk "" stream).1

/-- A cut within the character changes the data of the event, with and without a session. -/
theorem cut_character_garbled : Garbles false accented ∧ Garbles true accented := by
  constructor
  all_goals
    exact
      Reaches.exists_of_executeChecked
        [⟨0, .begin none⟩, ⟨1, .connected 200⟩, ⟨2, .chunk [100, 97, 116, 97, 58, 195]⟩,
          ⟨3, .chunk [169, 10, 10]⟩]
        (by decide +kernel)

end Strobengine.Protocols.Sse
