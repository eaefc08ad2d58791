import Strobengine.Foundations.Execution
import Strobengine.Foundations.WriteLog
import Strobengine.Protocols.Stomp.Requests

/-!
# A worker and its session

Every await point of `produce`, `consume`, `connect` and `shutdown` is a state in which the
iteration is suspended. Sockets accept and deliver any number of bytes at a time, and an iteration
may be dropped wherever it is suspended: by its deadline, after which the worker goes on, or by the
cancellation of the worker.
-/

namespace Strobengine.Protocols.Stomp

open Foundations Metrics

def readChunk : Nat :=
  16 * 1024

def maxFrameBytes : Nat :=
  16 * 1024 * 1024

structure Connection where
  log : List (Write WireFrame)
  deriving DecidableEq, Repr

namespace Connection

def opened : Connection :=
  { log := [] }

def startWrite (connection : Connection) (frame : WireFrame) : Connection :=
  { log := connection.log ++ [{ item := frame, sent := 0 }] }

def advance (connection : Connection) (count : Nat) : Option Connection :=
  match connection.log.getLast? with
  | none => none
  | some write =>
    if 0 < count ∧ write.sent + count ≤ write.item.encode.length then
      some
        { log := connection.log.dropLast ++ [{ write with sent := write.sent + count }] }
    else
      none

def flushed (connection : Connection) : Bool :=
  connection.log.getLast?.any (Write.whole WireFrame.encode)

def midFrame (connection : Connection) : Bool :=
  connection.log.getLast?.any (Write.torn WireFrame.encode)

def bytes (connection : Connection) : List UInt8 :=
  Write.stream WireFrame.encode connection.log

def frames (connection : Connection) : List Frame :=
  (Write.wholeItems WireFrame.encode connection.log).map Subtype.val

end Connection

/-! ## Waiting for a frame -/

inductive Expected where
  | connected
  | receipt (id : String)
  | message
  deriving DecidableEq, Repr

def Expected.command : Expected → String
  | .connected => "CONNECTED"
  | .receipt _ => "RECEIPT"
  | .message => "MESSAGE"

def Expected.answeredBy (expected : Expected) (frame : Frame) : Bool :=
  frame.command == expected.command &&
    match expected with
    | .receipt id => frame.header "receipt-id" == some id
    | _ => true

inductive Reply where
  | arrived (frame : Frame)
  | failed
  | waiting
  deriving DecidableEq, Repr

def awaitFrame (expected : Expected) (decoder : Decoder) : Reply × Decoder :=
  match called : decoder.nextFrame with
  | (.error _, after) => (.failed, after)
  | (.ok none, after) =>
    if maxFrameBytes < after.pending then (.failed, after) else (.waiting, after)
  | (.ok (some frame), after) =>
    if expected.answeredBy frame then
      (.arrived frame, after)
    else if frame.command = "ERROR" then
      (.failed, after)
    else
      have := Decoder.unread_nextFrame_lt called
      awaitFrame expected after
termination_by decoder.unread.length

/-- The persistent session of a worker, and the connections that it has let go of. -/
structure StompSession where
  stream : Option Connection
  decoder : Decoder
  connected : Bool
  subscribed : Bool
  -- a u64 in the source, out of reach of one increment for each SEND
  receiptSeq : Nat
  closed : List Connection

inductive Request where
  | connect
  | subscribe
  | send (receiptId : Option String)
  | ack
  deriving DecidableEq, Repr

inductive Await where
  | sleep
  | tcpConnect
  | write (request : Request)
  | read (expected : Expected)
  deriving DecidableEq, Repr

inductive Phase where
  | idle
  | iterating (chaosFault : Option ChaosFault) (suspended : Await)
  | disconnecting
  | ended
  deriving DecidableEq, Repr

structure Worker where
  session : StompSession
  phase : Phase

namespace StompSession

def new : StompSession :=
  { stream := none
    decoder := Decoder.new
    connected := false
    subscribed := false
    receiptSeq := 0
    closed := [] }

def connections (session : StompSession) : List Connection :=
  session.closed ++ session.stream.toList

def reset (session : StompSession) : StompSession :=
  { session with
    stream := none
    closed := session.connections
    decoder := Decoder.new
    connected := false
    subscribed := false }

def finish (session : StompSession) : Worker :=
  { session, phase := .idle }

def fail (session : StompSession) : Worker :=
  session.reset.finish

def writeFrame (session : StompSession) (chaosFault : Option ChaosFault) (request : Request)
    (frame : WireFrame) : Worker :=
  match session.stream with
  | none => session.fail
  | some connection =>
    { session := { session with stream := some (connection.startWrite frame) }
      phase := .iterating chaosFault (.write request) }

def await (session : StompSession) (chaosFault : Option ChaosFault) (expected : Expected)
    (resume : StompSession → Frame → Worker) : Worker :=
  match awaitFrame expected session.decoder with
  | (.arrived frame, decoder) => resume { session with decoder } frame
  | (.failed, decoder) => fail { session with decoder }
  | (.waiting, decoder) =>
    match session.stream with
    | none => fail { session with decoder }
    | some _ =>
      { session := { session with decoder }
        phase := .iterating chaosFault (.read expected) }

/-- The end of `consume`: acknowledge the message, unless the broker does not wait for it. -/
def acknowledge (engine : StompEngine) (chaosFault : Option ChaosFault)
    (session : StompSession) (message : Frame) : Worker :=
  let ackId := (message.header "ack").or (message.header "message-id")
  match engine.ack, ackId with
  | .auto, _ => session.finish
  | _, none => session.finish
  | _, some id => session.writeFrame chaosFault .ack ⟨ackFrame id, wellFormed_ackFrame id⟩

def drainMessage
    (engine : StompEngine) (chaosFault : Option ChaosFault) (session : StompSession) : Worker :=
  session.await chaosFault .message (acknowledge engine chaosFault)

def exchange
    (engine : StompEngine) (chaosFault : Option ChaosFault) (session : StompSession) : Worker :=
  match engine.mode with
  | .produce =>
    let receiptSeq := if engine.receipt then session.receiptSeq + 1 else session.receiptSeq
    writeFrame { session with receiptSeq } chaosFault
      (.send (engine.receiptId receiptSeq))
      ⟨engine.sendFrame chaosFault receiptSeq, engine.wellFormed_sendFrame chaosFault receiptSeq⟩
  | .consume =>
    if session.subscribed then
      session.drainMessage engine chaosFault
    else
      session.writeFrame chaosFault .subscribe
        ⟨engine.subscribeFrame, engine.wellFormed_subscribeFrame⟩

def resume (engine : StompEngine) (chaosFault : Option ChaosFault) :
    Expected → StompSession → Frame → Worker
  | .connected, session, _ => exchange engine chaosFault { session with connected := true }
  | .receipt _, session, _ => session.finish
  | .message, session, frame => session.acknowledge engine chaosFault frame

def afterWrite (engine : StompEngine) (chaosFault : Option ChaosFault) (session : StompSession) :
    Request → Worker
  | .connect => session.await chaosFault .connected (resume engine chaosFault .connected)
  | .subscribe => drainMessage engine chaosFault { session with subscribed := true }
  | .send none => session.finish
  | .send (some id) =>
    session.await chaosFault (.receipt id) (resume engine chaosFault (.receipt id))
  | .ack => session.finish

def ensureConnected
    (engine : StompEngine) (chaosFault : Option ChaosFault) (session : StompSession) : Worker :=
  if session.connected then
    session.exchange engine chaosFault
  else
    { session, phase := .iterating chaosFault .tcpConnect }

def runIteration
    (engine : StompEngine) (chaosFault : Option ChaosFault) (session : StompSession) : Worker :=
  match chaosFault with
  | some (.latencySpike _) => { session, phase := .iterating chaosFault .sleep }
  | some .connectionDrop => session.fail
  | _ => session.ensureConnected engine chaosFault

def opened (chaosFault : Option ChaosFault) (session : StompSession) : Worker :=
  writeFrame
    { session with
      stream := some Connection.opened
      closed := session.connections
      decoder := Decoder.new }
    chaosFault .connect ⟨connectFrame, wellFormed_connectFrame⟩

def close (session : StompSession) : Worker :=
  { session :=
      { session with stream := none, closed := session.connections, connected := false }
    phase := .ended }

def shutdown (session : StompSession) : Worker :=
  match session.connected, session.stream with
  | true, some connection =>
    { session :=
        { session with
          stream :=
            some (connection.startWrite ⟨disconnectFrame, wellFormed_disconnectFrame⟩) }
      phase := .disconnecting }
  | _, _ => session.close

def midFrame (session : StompSession) : Bool :=
  session.stream.any Connection.midFrame

end StompSession

inductive WorkerAction where
  | begin (chaosFault : Option ChaosFault)
  | woke
  | opened
  | openFailed
  | wrote (count : Nat)
  | written
  | writeFailed
  | received (bytes : List UInt8)
  | readFailed
  | deadline
  | cancelled
  | stop
  deriving DecidableEq, Repr

namespace Worker

def new : Worker :=
  StompSession.new.finish

def write (worker : Worker) (count : Nat) : Option Worker :=
  match worker.session.stream with
  | none => none
  | some connection =>
    match connection.advance count with
    | none => none
    | some advanced =>
      some { worker with session := { worker.session with stream := some advanced } }

def step (engine : StompEngine) (worker : Worker) (action : WorkerAction) : Option Worker :=
  let session := worker.session
  match worker.phase, action with
  | .idle, .begin chaosFault => some (session.runIteration engine chaosFault)
  | .idle, .stop => some session.shutdown
  -- the iteration is dropped where it is suspended: none of its code runs any more
  | .iterating _ _, .deadline => some session.finish
  | .iterating _ _, .cancelled => some session.shutdown
  | .iterating chaosFault .sleep, .woke => some (session.ensureConnected engine chaosFault)
  | .iterating chaosFault .tcpConnect, .opened => some (session.opened chaosFault)
  | .iterating _ .tcpConnect, .openFailed => some session.fail
  | .iterating _ (.write _), .wrote count => worker.write count
  | .iterating chaosFault (.write request), .written =>
    if session.stream.any Connection.flushed then
      some (session.afterWrite engine chaosFault request)
    else
      none
  | .iterating _ (.write _), .writeFailed => some session.fail
  | .iterating chaosFault (.read expected), .received bytes =>
    if bytes ≠ [] ∧ bytes.length ≤ readChunk then
      some
        (StompSession.await { session with decoder := session.decoder.push bytes } chaosFault
          expected (StompSession.resume engine chaosFault expected))
    else
      none
  | .iterating _ (.read _), .readFailed => some session.fail
  | .disconnecting, .wrote count => worker.write count
  | .disconnecting, .written =>
    if session.stream.any Connection.flushed then some session.close else none
  | .disconnecting, .writeFailed => some session.close
  | _, _ => none

end Worker

end Strobengine.Protocols.Stomp
