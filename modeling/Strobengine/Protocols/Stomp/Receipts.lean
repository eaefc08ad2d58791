import Mathlib.Data.List.Nodup
import Strobengine.Foundations.Emission
import Strobengine.Protocols.Stomp.Framing

/-!
# Receipts

The id of a receipt counts the SENDs of the session and is not reset with it, so a RECEIPT that an
iteration has left behind is not the one that a later iteration waits for.
-/

namespace Strobengine.Protocols.Stomp

open Foundations Metrics Rust

def framesTaken (expected : Expected) (decoder : Decoder) : List Frame :=
  match called : decoder.nextFrame with
  | (.error _, _) => []
  | (.ok none, _) => []
  | (.ok (some frame), after) =>
    if expected.answeredBy frame then
      [frame]
    else if frame.command = "ERROR" then
      [frame]
    else
      have := Decoder.unread_nextFrame_lt called
      frame :: framesTaken expected after
termination_by decoder.unread.length

inductive Observation where
  | began
  | opened
  | wrote (frame : Frame)
  | received (bytes : List UInt8)
  | took (frame : Frame)
  | returned (success : Bool)
  deriving DecidableEq, Repr

namespace Worker

def reading (worker : Worker) : WorkerAction → List Observation
  | .begin _ => [.began]
  | .opened => [.opened]
  | .written =>
    match worker.phase with
    | .iterating _ (.write .connect) => (framesTaken .connected worker.session.decoder).map .took
    | .iterating _ (.write (.send (some id))) =>
      (framesTaken (.receipt id) worker.session.decoder).map .took
    | _ => []
  | .received bytes =>
    match worker.phase with
    | .iterating _ (.read expected) =>
      .received bytes :: (framesTaken expected (worker.session.decoder.push bytes)).map .took
    | _ => []
  | _ => []

/-- How the code that runs then ends: it has started to write a frame, or it has returned.
Every error that an iteration handles resets the session, so an iteration that leaves the
session connected has succeeded. -/
def outcome (next : Worker) : List Observation :=
  match next.phase with
  | .iterating _ (.write _) =>
    match next.session.stream with
    | none => []
    | some connection => connection.log.getLast?.toList.map fun write => .wrote write.item.val
  | .idle => [.returned next.session.connected]
  | _ => []

def observations (worker : Worker) (action : WorkerAction) (next : Worker) : List Observation :=
  match action with
  | .wrote _ => []
  | .deadline => [.returned false]
  | _ => worker.reading action ++ next.outcome

def observed (engine : StompEngine) : Emitting Worker WorkerAction Observation :=
  fun worker action =>
    (worker.step engine action).map fun next => (next, worker.observations action next)

end Worker

/-! ## What the observations say of an iteration -/

/-- What had been observed when an iteration reported success: the receipt id of the SEND
that it wrote on the current connection, and the bytes and frames read there. -/
structure Confirmation where
  own : Option String
  received : List UInt8
  taken : List Frame
  deriving DecidableEq, Repr

namespace Confirmation

def frame (confirmation : Confirmation) : Option Frame :=
  confirmation.taken.getLast?

/-- The iteration was confirmed by the RECEIPT of its own SEND, and the frames that were
read are those that the bytes of the connection begin with. -/
structure Own (confirmation : Confirmation) : Prop where
  answered :
    ∃ id receipt,
      confirmation.own = some id ∧ confirmation.frame = some receipt ∧
        receipt.command = "RECEIPT" ∧ receipt.header "receipt-id" = some id
  onConnection : confirmation.taken <+: (Decoder.new.push confirmation.received).drain.frames

theorem nodup_frames {confirmations : List Confirmation}
    (own : ∀ confirmation ∈ confirmations, confirmation.Own)
    (distinct : (confirmations.map Confirmation.own).Nodup) :
    (confirmations.map Confirmation.frame).Nodup := by
  have identified :
      (confirmations.map Confirmation.frame).map
          (fun frame => frame.bind (Frame.header · "receipt-id")) =
        confirmations.map Confirmation.own := by
    rw [List.map_map]
    apply List.map_congr_left
    intro confirmation member
    obtain ⟨id, receipt, asked, read, _, answers⟩ := (own confirmation member).answered
    rw [Function.comp_apply, read, asked]
    exact answers
  exact (identified ▸ distinct).of_map

end Confirmation

/-- The current iteration on the current connection, and the iterations that succeeded. -/
structure History where
  own : Option String := none
  received : List UInt8 := []
  taken : List Frame := []
  confirmations : List Confirmation := []
  deriving DecidableEq, Repr

namespace History

def confirmation (history : History) : Confirmation :=
  { own := history.own, received := history.received, taken := history.taken }

def observe (history : History) : Observation → History
  | .began => { history with own := none }
  | .opened => { history with own := none, received := [], taken := [] }
  | .wrote frame =>
    if frame.command = "SEND" then
      { history with own := frame.header "receipt" }
    else
      history
  | .received bytes => { history with received := history.received ++ bytes }
  | .took frame => { history with taken := history.taken ++ [frame] }
  | .returned true =>
    { history with confirmations := history.confirmations ++ [history.confirmation] }
  | .returned false => history

def ofLog (log : List Observation) : History :=
  log.foldl observe {}

def take (history : History) (frames : List Frame) : History :=
  { history with taken := history.taken ++ frames }

theorem foldl_took (frames : List Frame) (history : History) :
    (frames.map Observation.took).foldl observe history = history.take frames := by
  induction frames generalizing history with
  | nil => rw [List.map_nil, List.foldl_nil, take, List.append_nil]
  | cons frame rest ih =>
    rw [List.map_cons, List.foldl_cons, ih, observe, take, take, List.append_assoc]
    rfl

theorem confirmations_foldl (log : List Observation) (history : History) :
    history.confirmations <+: (log.foldl observe history).confirmations := by
  induction log generalizing history with
  | nil => exact List.prefix_rfl
  | cons observation rest ih =>
    have once : history.confirmations <+: (history.observe observation).confirmations := by
      unfold observe
      split
      · exact List.prefix_rfl
      · exact List.prefix_rfl
      · split_ifs <;> exact List.prefix_rfl
      · exact List.prefix_rfl
      · exact List.prefix_rfl
      · exact List.prefix_append _ _
      · exact List.prefix_rfl
    exact once.trans (ih _)

theorem confirmation_mem_ofLog {log before after : List Observation}
    (split : log = before ++ .returned true :: after) :
    (ofLog before).confirmation ∈ (ofLog log).confirmations := by
  rw [split, ofLog, List.foldl_append]
  refine (confirmations_foldl after _).subset ?_
  exact List.mem_append_right _ (List.mem_singleton.mpr rfl)

def after (history : History) (next : Worker) : History :=
  next.outcome.foldl observe history

end History

def sendReceipt (write : Write WireFrame) : Option (Option String) :=
  if write.item.val.command = "SEND" then some (write.item.val.header "receipt") else none

def sendReceipts (connections : List Connection) : List (Option String) :=
  connections.flatMap fun connection => connection.log.filterMap sendReceipt

section Await

variable {expected : Expected} {decoder after : Decoder} {frame : Frame}

theorem framesTaken_of_frame (called : decoder.nextFrame = (.ok (some frame), after)) :
    framesTaken expected decoder =
      if expected.answeredBy frame ∨ frame.command = "ERROR" then
        [frame]
      else
        frame :: framesTaken expected after := by
  rw [framesTaken]
  split <;> simp_all
  grind

theorem awaitFrame_of_frame (called : decoder.nextFrame = (.ok (some frame), after)) :
    awaitFrame expected decoder =
      if expected.answeredBy frame then
        (.arrived frame, after)
      else if frame.command = "ERROR" then
        (.failed, after)
      else
        awaitFrame expected after := by
  rw [awaitFrame]
  split <;> simp_all

theorem framesTaken_of_no_frame
    {result : Except CodecError (Option Frame)} (called : decoder.nextFrame = (result, after))
    (nothing : ∀ frame, result ≠ .ok (some frame)) : framesTaken expected decoder = [] := by
  rw [framesTaken]
  split
  · rfl
  · rfl
  · rename_i frame _ found
    exact absurd (congrArg Prod.fst (called.symm.trans found)) (nothing frame)

theorem awaitFrame_of_no_frame
    {result : Except CodecError (Option Frame)} (called : decoder.nextFrame = (result, after))
    (nothing : ∀ frame, result ≠ .ok (some frame)) :
    awaitFrame expected decoder = (.failed, after) ∨
      awaitFrame expected decoder = (.waiting, after) := by
  rw [awaitFrame]
  split
  · simp_all
  · split_ifs <;> simp_all
  · rename_i frame _ found
    exact absurd (congrArg Prod.fst (called.symm.trans found)) (nothing frame)

theorem framesTaken_of_arrived (awaited : awaitFrame expected decoder = (.arrived frame, after)) :
    (framesTaken expected decoder).getLast? = some frame ∧ expected.answeredBy frame = true := by
  induction size : decoder.unread.length using Nat.strongRecOn generalizing decoder with
  | ind size ih =>
    rcases called : decoder.nextFrame with ⟨result, later⟩
    by_cases read : ∃ read, result = .ok (some read)
    · obtain ⟨read, rfl⟩ := read
      rw [awaitFrame_of_frame called] at awaited
      rw [framesTaken_of_frame called]
      by_cases answered : expected.answeredBy read = true
      · rw [if_pos answered] at awaited
        cases awaited
        rw [if_pos (Or.inl answered)]
        exact ⟨rfl, answered⟩
      · by_cases refused : read.command = "ERROR"
        · rw [if_neg answered, if_pos refused] at awaited
          cases awaited
        · rw [if_neg answered, if_neg refused] at awaited
          have shorter := Decoder.unread_nextFrame_lt called
          rw [size] at shorter
          obtain ⟨last, confirmed⟩ := ih later.unread.length shorter awaited rfl
          rw [if_neg (not_or.mpr ⟨answered, refused⟩), List.getLast?_cons, last]
          exact ⟨rfl, confirmed⟩
    · rw [not_exists] at read
      rcases awaitFrame_of_no_frame called read with ends | ends
      · cases ends.symm.trans awaited
      · cases ends.symm.trans awaited

theorem taken_awaitFrame {received : List UInt8} {items : List Frame} (expected : Expected)
    (taken : Grammar.decoder.Taken received items decoder.unread) :
    Grammar.decoder.Taken received (items ++ framesTaken expected decoder)
      (awaitFrame expected decoder).2.unread := by
  induction size : decoder.unread.length using Nat.strongRecOn generalizing decoder items with
  | ind size ih =>
    have steady := Grammar.steady_decoder
    have pulled := (Decoder.view_nextFrame decoder).symm
    rcases called : decoder.nextFrame with ⟨result, later⟩
    rw [called] at pulled
    have stays (nothing : ∀ frame, result ≠ .ok (some frame)) :
        framesTaken expected decoder = [] ∧ (awaitFrame expected decoder).2 = later := by
      refine ⟨framesTaken_of_no_frame called nothing, ?_⟩
      rcases awaitFrame_of_no_frame called nothing with ends | ends <;> rw [ends]
    rcases result with error | _ | read
    · obtain ⟨none, left⟩ := stays (fun _ same => by cases same)
      rw [none, left, List.append_nil]
      exact taken.fail steady pulled
    · obtain ⟨none, left⟩ := stays (fun _ same => by cases same)
      rw [none, left, List.append_nil]
      exact taken.more steady pulled
    · have next := taken.item steady pulled
      rw [awaitFrame_of_frame called, framesTaken_of_frame called]
      by_cases answered : expected.answeredBy read = true
      · rw [if_pos answered, if_pos (Or.inl answered)]
        exact next
      · by_cases refused : read.command = "ERROR"
        · rw [if_neg answered, if_pos refused, if_pos (Or.inr refused)]
          exact next
        · have shorter := Decoder.unread_nextFrame_lt called
          rw [size] at shorter
          have rest := ih later.unread.length shorter next rfl
          rw [List.append_assoc] at rest
          rw [if_neg answered, if_neg refused, if_neg (not_or.mpr ⟨answered, refused⟩)]
          exact rest

end Await

/-- The id that asks for the receipt of the SEND with the given number. -/
def receiptName (number : Nat) : String :=
  "r-" ++ toString number

theorem receiptName_injective : Function.Injective receiptName := by
  intro first second same
  have texts := congrArg String.toList same
  rw [receiptName, receiptName, String.toList_append, String.toList_append] at texts
  have digits := List.append_cancel_left texts
  exact toString_nat_injective (String.toList_inj.mp digits)

def receiptNames (count : Nat) : List (Option String) :=
  (List.range count).map fun index => some (receiptName (index + 1))

theorem nodup_receiptNames (count : Nat) : (receiptNames count).Nodup := by
  refine List.Nodup.map ?_ List.nodup_range
  intro first second same
  have numbers := receiptName_injective (Option.some.inj same)
  omega

theorem receiptNames_succ (count : Nat) :
    receiptNames (count + 1) = receiptNames count ++ [some (receiptName (count + 1))] := by
  rw [receiptNames, List.range_succ, List.map_append]
  rfl

namespace StompEngine

variable {engine : StompEngine}

theorem receiptId_eq (receipts : engine.receipt = true) (number : Nat) :
    engine.receiptId number = some (receiptName number) :=
  if_pos receipts

theorem receipt_sendFrame
    (receipts : engine.receipt = true) (chaosFault : Option ChaosFault) (number : Nat) :
    (engine.sendFrame chaosFault number).header "receipt" = some (receiptName number) := by
  unfold sendFrame
  dsimp only
  rw [receiptId_eq receipts]
  exact findHeader_setHeaderIn_self _ _ _

end StompEngine

theorem sendReceipts_append (earlier later : List Connection) :
    sendReceipts (earlier ++ later) = sendReceipts earlier ++ sendReceipts later :=
  List.flatMap_append

theorem sendReceipts_startWrite
    (earlier : List Connection) (connection : Connection) (frame : WireFrame) :
    sendReceipts (earlier ++ [connection.startWrite frame]) =
      sendReceipts (earlier ++ [connection]) ++
        (sendReceipt { item := frame, sent := 0 }).toList := by
  rw [sendReceipts_append, sendReceipts_append, List.append_assoc]
  congr 1
  simp only [sendReceipts, Connection.startWrite, List.flatMap_singleton,
    List.filterMap_append, List.filterMap_cons, List.filterMap_nil]
  cases sendReceipt { item := frame, sent := 0 } <;> rfl

theorem sendReceipts_advance
    (earlier : List Connection) {connection advanced : Connection} {count : Nat}
    (moved : connection.advance count = some advanced) :
    sendReceipts (earlier ++ [advanced]) = sendReceipts (earlier ++ [connection]) := by
  rw [sendReceipts_append, sendReceipts_append]
  congr 1
  unfold Connection.advance at moved
  split at moved
  · cases moved
  · rename_i write last
    split_ifs at moved
    cases moved
    obtain ⟨front, log⟩ := List.getLast?_eq_some_iff.mp last
    simp only [sendReceipts, List.flatMap_singleton, log, List.dropLast_concat,
      List.filterMap_append]
    rfl

/-! ## Sessions and their history -/

structure StompSession.Recorded (session : StompSession) (history : History) : Prop where
  sends : sendReceipts session.connections = receiptNames session.receiptSeq
  streaming : session.connected = true → session.stream.isSome = true
  decoded :
    session.stream.isSome = true →
      Grammar.decoder.Taken history.received history.taken session.decoder.unread
  own : ∀ confirmation ∈ history.confirmations, confirmation.Own
  distinct : (history.confirmations.map Confirmation.own).Nodup
  confirmed :
    ∀ confirmation ∈ history.confirmations,
      ∃ number ≤ session.receiptSeq, confirmation.own = some (receiptName number)

namespace Phase

def exchanging : Phase → Bool
  | .iterating _ (.write _) | .iterating _ (.read _) => true
  | _ => false

def askedReceipt : Phase → Option String
  | .iterating _ (.write (.send receiptId)) => receiptId
  | .iterating _ (.read (.receipt id)) => some id
  | _ => none

def confirming : Phase → Bool
  | .iterating _ (.write .connect) | .iterating _ (.write (.send (some _))) => true
  | .iterating _ (.write _) => false
  | .iterating _ (.read .message) => false
  | _ => true

theorem of_not_exchanging {phase : Phase} (outside : phase.exchanging = false) :
    phase.confirming = true ∧ phase.askedReceipt = none := by
  cases phase with
  | iterating chaosFault suspended =>
    cases suspended with
    | sleep | tcpConnect => exact ⟨rfl, rfl⟩
    | write | read => cases outside
  | idle | disconnecting | ended => exact ⟨rfl, rfl⟩

end Phase

structure StompSession.Asked (session : StompSession) (history : History) (id : String) : Prop where
  connected : session.connected = true
  named : id = receiptName session.receiptSeq
  own : history.own = some id
  unconfirmed : ∀ confirmation ∈ history.confirmations, confirmation.own ≠ some id

structure Worker.Consistent (worker : Worker) (history : History) : Prop where
  recorded : worker.session.Recorded history
  confirming : worker.phase.confirming = true
  streaming : worker.phase.exchanging = true → worker.session.stream.isSome = true
  asked : ∀ id ∈ worker.phase.askedReceipt, worker.session.Asked history id

namespace StompSession

variable {engine : StompEngine} {session next : StompSession}
  {chaosFault : Option ChaosFault} {history : History}

namespace Recorded

theorem consistent
    (recorded : session.Recorded history) {phase : Phase} (outside : phase.exchanging = false) :
    Worker.Consistent ⟨session, phase⟩ history where
  recorded := recorded
  confirming := (Phase.of_not_exchanging outside).1
  streaming := by
    intro exchanging
    rw [outside] at exchanging
    cases exchanging
  asked := by
    intro id asked
    rw [(Phase.of_not_exchanging outside).2] at asked
    cases asked

theorem letGo (recorded : session.Recorded history)
    (sameConnections : next.connections = session.connections)
    (sameNumber : next.receiptSeq = session.receiptSeq)
    (disconnected : next.connected = false) (noStream : next.stream = none) :
    next.Recorded history where
  sends := by rw [sameConnections, sameNumber, recorded.sends]
  streaming := by
    intro connected
    rw [disconnected] at connected
    cases connected
  decoded := by
    intro streaming
    rw [noStream] at streaming
    cases streaming
  own := recorded.own
  distinct := recorded.distinct
  confirmed := sameNumber ▸ recorded.confirmed

theorem consistent_fail (recorded : session.Recorded history) :
    session.fail.Consistent (history.after session.fail) := by
  have same : session.reset.connections = session.connections := List.append_nil session.connections
  exact (recorded.letGo same rfl rfl rfl).consistent rfl

variable {connection : Connection}

theorem startWrite (recorded : session.Recorded history)
    (held : session.stream = some connection) (frame : WireFrame) {number : Nat}
    (later : session.receiptSeq ≤ number)
    (counted :
      receiptNames session.receiptSeq ++
        (sendReceipt { item := frame, sent := 0 }).toList = receiptNames number) :
    Recorded
      { session with
        stream := some (connection.startWrite frame)
        receiptSeq := number }
      history :=
  { recorded with
    sends := by
      have before := recorded.sends
      rw [connections, held, Option.toList_some] at before
      rw [connections, Option.toList_some, sendReceipts_startWrite, before]
      exact counted
    streaming := fun _ => rfl
    decoded := fun _ => recorded.decoded (held ▸ rfl)
    confirmed := by
      intro confirmation member
      obtain ⟨earlier, below, named⟩ := recorded.confirmed confirmation member
      exact ⟨earlier, below.trans later, named⟩ }

theorem after_writing (frame : WireFrame) (request : Request)
    (writing : next.stream = some (connection.startWrite frame)) :
    history.after ⟨next, .iterating chaosFault (.write request)⟩ =
      history.observe (.wrote frame.val) := by
  simp [History.after, Worker.outcome, writing, Connection.startWrite]

theorem unconfirmed_next (recorded : session.Recorded history) :
    ∀ confirmation ∈ history.confirmations,
      confirmation.own ≠ some (receiptName (session.receiptSeq + 1)) := by
  intro confirmation member same
  obtain ⟨number, below, named⟩ := recorded.confirmed confirmation member
  have equal := receiptName_injective (Option.some.inj (named.symm.trans same))
  omega

theorem consistent_exchange (producing : engine.mode = .produce) (receipts : engine.receipt = true)
    (recorded : session.Recorded history) (connected : session.connected = true) :
    (session.exchange engine chaosFault).Consistent
      (history.after (session.exchange engine chaosFault)) := by
  obtain ⟨connection, held⟩ := Option.isSome_iff_exists.mp (recorded.streaming connected)
  have command := engine.command_sendFrame chaosFault (session.receiptSeq + 1)
  have receipt := engine.receipt_sendFrame receipts chaosFault (session.receiptSeq + 1)
  simp only [exchange, producing, writeFrame, held, receipts, if_true,
    StompEngine.receiptId_eq receipts]
  rw [after_writing _ _ rfl, History.observe, if_pos command, receipt]
  have written := recorded.startWrite held
    ⟨engine.sendFrame chaosFault (session.receiptSeq + 1),
      engine.wellFormed_sendFrame chaosFault (session.receiptSeq + 1)⟩
    (Nat.le_succ session.receiptSeq)
    (by
      rw [receiptNames_succ, sendReceipt, if_pos command, receipt]
      rfl)
  refine ⟨{ written with }, rfl, fun _ => rfl, ?_⟩
  rintro _ ⟨⟩
  exact ⟨connected, rfl, rfl, recorded.unconfirmed_next⟩

theorem consistent_ensureConnected
    (producing : engine.mode = .produce) (receipts : engine.receipt = true)
    (recorded : session.Recorded history) :
    (session.ensureConnected engine chaosFault).Consistent
      (history.after (session.ensureConnected engine chaosFault)) := by
  unfold ensureConnected
  split
  · rename_i connected
    exact recorded.consistent_exchange producing receipts connected
  · exact recorded.consistent rfl

theorem consistent_runIteration
    (producing : engine.mode = .produce) (receipts : engine.receipt = true)
    (recorded : session.Recorded history) :
    (session.runIteration engine chaosFault).Consistent
      (history.after (session.runIteration engine chaosFault)) := by
  unfold runIteration
  split
  · exact recorded.consistent rfl
  · exact recorded.consistent_fail
  · exact recorded.consistent_ensureConnected producing receipts

theorem consistent_opened (recorded : session.Recorded history) :
    (session.opened chaosFault).Consistent
      ((history.observe .opened).after (session.opened chaosFault)) := by
  have fresh :
      Recorded
        { session with
          stream := some Connection.opened
          closed := session.connections
          decoder := Decoder.new }
        (history.observe .opened) :=
    { recorded with
      sends := by
        rw [← recorded.sends]
        exact (sendReceipts_append session.connections [Connection.opened]).trans
          (List.append_nil _)
      streaming := fun _ => rfl
      decoded := fun _ => Puller.taken_nil [] }
  rw [opened, writeFrame]
  dsimp only
  rw [after_writing _ _ rfl]
  refine ⟨fresh.startWrite rfl _ le_rfl (List.append_nil _), rfl, fun _ => rfl, ?_⟩
  rintro _ ⟨⟩

theorem takes (recorded : session.Recorded history) {expected : Expected} {reply : Reply}
    {decoder : Decoder} (awaited : awaitFrame expected session.decoder = (reply, decoder)) :
    Recorded { session with decoder }
      (history.take (framesTaken expected session.decoder)) :=
  { recorded with
    decoded := by
      intro streaming
      have moved := taken_awaitFrame expected (recorded.decoded streaming)
      rw [awaited] at moved
      exact moved }

theorem consistent_await
    (recorded : session.Recorded history) (streaming : session.stream.isSome = true)
    {expected : Expected} {resume : StompSession → Frame → Worker}
    (confirming : (Phase.iterating chaosFault (.read expected)).confirming = true)
    (asked :
      ∀ id ∈ (Phase.iterating chaosFault (.read expected)).askedReceipt, session.Asked history id)
    (resumes :
      ∀ frame decoder, awaitFrame expected session.decoder = (.arrived frame, decoder) →
        (resume { session with decoder } frame).Consistent
          ((history.take (framesTaken expected session.decoder)).after
            (resume { session with decoder } frame))) :
    (session.await chaosFault expected resume).Consistent
      ((history.take (framesTaken expected session.decoder)).after
        (session.await chaosFault expected resume)) := by
  unfold await
  split
  · rename_i frame decoder awaited
    exact resumes frame decoder awaited
  · rename_i decoder awaited
    exact (recorded.takes awaited).consistent_fail
  · rename_i decoder awaited
    split
    · exact (recorded.takes awaited).consistent_fail
    · exact
        { recorded := recorded.takes awaited
          confirming
          streaming := fun _ => streaming
          asked := fun id present => { asked id present with } }

theorem consistent_await_connected
    (producing : engine.mode = .produce) (receipts : engine.receipt = true)
    (recorded : session.Recorded history) (streaming : session.stream.isSome = true) :
    (session.await chaosFault .connected (resume engine chaosFault .connected)).Consistent
      ((history.take (framesTaken .connected session.decoder)).after
        (session.await chaosFault .connected (resume engine chaosFault .connected))) := by
  apply recorded.consistent_await streaming rfl
  · intro id present
    cases present
  · intro frame decoder awaited
    have connected : Recorded { session with decoder, connected := true } _ :=
      { recorded.takes awaited with streaming := fun _ => streaming }
    exact connected.consistent_exchange producing receipts rfl

variable {id : String}

theorem own_of_arrived
    (recorded : session.Recorded history) (streaming : session.stream.isSome = true)
    (asked : session.Asked history id) {frame : Frame} {decoder : Decoder}
    (awaited : awaitFrame (.receipt id) session.decoder = (.arrived frame, decoder)) :
    (history.take (framesTaken (.receipt id) session.decoder)).confirmation.Own where
  answered := by
    obtain ⟨last, answered⟩ := framesTaken_of_arrived awaited
    rw [Expected.answeredBy, Bool.and_eq_true, beq_iff_eq, beq_iff_eq] at answered
    refine ⟨id, frame, asked.own, ?_, answered.1, answered.2⟩
    change (history.taken ++ framesTaken _ _).getLast? = _
    rw [List.getLast?_append, last]
    rfl
  onConnection := by
    have front := ((recorded.takes awaited).decoded streaming).prefix_drain
    change _ <+: (Decoder.new.push history.received).drain.view.items
    rw [Decoder.view_drain, Decoder.unread_push]
    exact front

theorem confirm (recorded : session.Recorded history) (asked : session.Asked history id)
    (own : history.confirmation.Own) :
    session.Recorded (history.observe (.returned true)) :=
  { recorded with
    own := by
      intro other member
      rcases List.mem_append.mp member with old | new
      · exact recorded.own other old
      · rw [List.mem_singleton.mp new]
        exact own
    distinct := by
      change ((history.confirmations ++ [history.confirmation]).map _).Nodup
      rw [List.map_append, List.map_singleton, List.nodup_append]
      refine ⟨recorded.distinct, List.nodup_singleton _, ?_⟩
      intro earlier member last present same
      obtain ⟨other, old, rfl⟩ := List.mem_map.mp member
      rw [List.mem_singleton.mp present] at same
      exact asked.unconfirmed other old (same.trans asked.own)
    confirmed := by
      intro other member
      rcases List.mem_append.mp member with old | new
      · exact recorded.confirmed other old
      · rw [List.mem_singleton.mp new]
        exact ⟨session.receiptSeq, le_rfl, asked.named ▸ asked.own⟩ }

theorem consistent_finish (recorded : session.Recorded history) (asked : session.Asked history id)
    (own : history.confirmation.Own) :
    session.finish.Consistent (history.after session.finish) := by
  have reported : history.after session.finish = history.observe (.returned session.connected) :=
    rfl
  rw [reported, asked.connected]
  exact (recorded.confirm asked own).consistent rfl

theorem consistent_await_receipt
    (recorded : session.Recorded history) (streaming : session.stream.isSome = true)
    (asked : session.Asked history id) :
    (session.await chaosFault (.receipt id) (resume engine chaosFault (.receipt id))).Consistent
      ((history.take (framesTaken (.receipt id) session.decoder)).after
        (session.await chaosFault (.receipt id)
          (resume engine chaosFault (.receipt id)))) := by
  apply recorded.consistent_await streaming rfl
  · rintro _ ⟨⟩
    exact asked
  · intro frame decoder awaited
    have still :
        Asked { session with decoder }
          (history.take (framesTaken (.receipt id) session.decoder)) id :=
      { asked with }
    exact (recorded.takes awaited).consistent_finish still
      (recorded.own_of_arrived streaming asked awaited)

theorem advance (recorded : session.Recorded history) {advanced : Connection} {count : Nat}
    (held : session.stream = some connection) (moved : connection.advance count = some advanced) :
    Recorded { session with stream := some advanced } history :=
  { recorded with
    sends := by
      have before := recorded.sends
      rw [connections, held, Option.toList_some] at before
      rw [connections, Option.toList_some, sendReceipts_advance _ moved]
      exact before
    streaming := fun _ => rfl
    decoded := fun _ => recorded.decoded (held ▸ rfl) }

theorem receive (recorded : session.Recorded history) (bytes : List UInt8) :
    Recorded { session with decoder := session.decoder.push bytes }
      (history.observe (.received bytes)) :=
  { recorded with
    decoded := by
      intro streaming
      rw [Decoder.unread_push]
      exact (recorded.decoded streaming).push bytes }

theorem consistent_close (recorded : session.Recorded history) :
    session.close.Consistent (history.after session.close) := by
  have same : session.close.session.connections = session.connections :=
    List.append_nil session.connections
  exact (recorded.letGo same rfl rfl rfl).consistent rfl

theorem consistent_shutdown (recorded : session.Recorded history) :
    session.shutdown.Consistent (history.after session.shutdown) := by
  unfold shutdown
  split
  · rename_i connection connected held
    exact (recorded.startWrite held _ le_rfl (List.append_nil _)).consistent rfl
  · exact recorded.consistent_close

end Recorded

end StompSession

namespace Worker

variable {engine : StompEngine} {worker next : Worker} {action : WorkerAction}
  {history : History}

theorem consistent_new : new.Consistent {} := by
  have recorded : StompSession.new.Recorded {} :=
    { sends := rfl
      streaming := fun connected => by cases connected
      decoded := fun streaming => by cases streaming
      own := fun _ member => by cases member
      distinct := List.nodup_nil
      confirmed := fun _ member => by cases member }
  exact recorded.consistent rfl

theorem Consistent.of_write (consistent : worker.Consistent history) {count : Nat}
    (taken : worker.write count = some next) : next.Consistent history := by
  unfold write at taken
  split at taken
  · cases taken
  · rename_i connection held
    split at taken
    · cases taken
    · rename_i advanced moved
      cases taken
      exact
        { recorded := consistent.recorded.advance held moved
          confirming := consistent.confirming
          streaming := fun _ => rfl
          asked := fun id asked => { consistent.asked id asked with } }

theorem Consistent.of_written
    (producing : engine.mode = .produce) (receipts : engine.receipt = true)
    {session : StompSession} {chaosFault : Option ChaosFault} {request : Request}
    (consistent : Consistent ⟨session, .iterating chaosFault (.write request)⟩ history) :
    (session.afterWrite engine chaosFault request).Consistent
      (((⟨session, .iterating chaosFault (.write request)⟩ : Worker).observations .written
        (session.afterWrite engine chaosFault request)).foldl History.observe history) := by
  have streaming := consistent.streaming rfl
  cases request with
  | connect =>
    simp only [observations, reading, List.foldl_append, History.foldl_took]
    exact consistent.recorded.consistent_await_connected producing receipts streaming
  | send receiptId =>
    cases receiptId with
    | none => cases consistent.confirming
    | some id =>
      simp only [observations, reading, List.foldl_append, History.foldl_took]
      exact consistent.recorded.consistent_await_receipt streaming (consistent.asked id rfl)
  | subscribe | ack => cases consistent.confirming

theorem Consistent.of_received
    (producing : engine.mode = .produce) (receipts : engine.receipt = true)
    {session : StompSession} {chaosFault : Option ChaosFault} {expected : Expected}
    (consistent : Consistent ⟨session, .iterating chaosFault (.read expected)⟩ history)
    (bytes : List UInt8)
    (resumed :
      next =
        StompSession.await { session with decoder := session.decoder.push bytes } chaosFault
          expected (StompSession.resume engine chaosFault expected)) :
    next.Consistent
      (((⟨session, .iterating chaosFault (.read expected)⟩ : Worker).observations
        (.received bytes) next).foldl History.observe history) := by
  have streaming := consistent.streaming rfl
  have received := consistent.recorded.receive bytes
  simp only [observations, reading, List.foldl_append, List.foldl_cons, History.foldl_took]
  subst resumed
  cases expected with
  | connected => exact received.consistent_await_connected producing receipts streaming
  | receipt id => exact received.consistent_await_receipt streaming { consistent.asked id rfl with }
  | message => cases consistent.confirming

theorem Consistent.of_step (producing : engine.mode = .produce) (receipts : engine.receipt = true)
    (consistent : worker.Consistent history) (taken : worker.step engine action = some next) :
    next.Consistent ((worker.observations action next).foldl History.observe history) := by
  have recorded := consistent.recorded
  obtain ⟨session, phase⟩ := worker
  unfold step at taken
  dsimp only at taken
  split at taken
  · cases taken
    exact StompSession.Recorded.consistent_runIteration producing receipts { recorded with }
  · cases taken
    exact recorded.consistent_shutdown
  · cases taken
    exact recorded.consistent rfl
  · cases taken
    exact recorded.consistent_shutdown
  · cases taken
    exact recorded.consistent_ensureConnected producing receipts
  · cases taken
    exact recorded.consistent_opened
  · cases taken
    exact recorded.consistent_fail
  · exact consistent.of_write taken
  · split at taken
    · cases taken
      exact consistent.of_written producing receipts
    · cases taken
  · cases taken
    exact recorded.consistent_fail
  · split at taken
    · exact consistent.of_received producing receipts _ (Option.some.inj taken).symm
    · cases taken
  · cases taken
    exact recorded.consistent_fail
  · exact consistent.of_write taken
  · split at taken
    · cases taken
      exact recorded.consistent_close
    · cases taken
  · cases taken
    exact recorded.consistent_close
  · cases taken

theorem consistent_of_reaches
    (producing : engine.mode = .produce) (receipts : engine.receipt = true)
    {run : Tracked Worker Observation}
    (reached : Reaches (Tracked.step (observed engine)) unguarded (Tracked.start new) run) :
    run.state.Consistent (History.ofLog run.log) := by
  apply Tracked.invariant (fun worker log => worker.Consistent (History.ofLog log)) ?_
    consistent_new reached
  intro worker log action next emitted consistent _ taken
  obtain ⟨moved, stepped, same⟩ := Option.map_eq_some_iff.mp taken
  cases same
  rw [History.ofLog, List.foldl_append]
  exact consistent.of_step producing receipts stepped

/-- Whatever the broker sends, an iteration that asks for a receipt succeeds only when it
has read the RECEIPT of its own SEND on the connection on which it has written it. No two
SENDs have the same receipt id, and no RECEIPT confirms two iterations. -/
theorem success_only_by_own_receipt (engine : StompEngine) (producing : engine.mode = .produce)
    (receipts : engine.receipt = true) (run : Tracked Worker Observation)
    (reached : Reaches (Tracked.step (observed engine)) unguarded (Tracked.start new) run) :
    (∀ before after, run.log = before ++ .returned true :: after →
        (History.ofLog before).confirmation.Own) ∧
      (sendReceipts run.state.session.connections).Nodup ∧
        ((History.ofLog run.log).confirmations.map Confirmation.frame).Nodup := by
  have recorded := (consistent_of_reaches producing receipts reached).recorded
  refine ⟨?_, ?_, Confirmation.nodup_frames recorded.own recorded.distinct⟩
  · intro before after split
    exact recorded.own _ (History.confirmation_mem_ofLog split)
  · rw [recorded.sends]
    exact nodup_receiptNames _

def receiptProducer : StompEngine :=
  { producer with receipt := true }

/-- The first iteration is dropped while it waits for its receipt, which arrives together
with the receipt of the second one and does not confirm it. -/
def lateReceipt : List WorkerAction :=
  [.begin none, .opened, .wrote connectFrame.encode.length, .written,
    .received (Frame.new "CONNECTED").encode,
    .wrote (receiptProducer.sendFrame none 1).encode.length, .written, .deadline,
    .begin none, .wrote (receiptProducer.sendFrame none 2).encode.length, .written,
    .received
      (((Frame.new "RECEIPT").setHeader "receipt-id" "r-1").encode ++
        ((Frame.new "RECEIPT").setHeader "receipt-id" "r-2").encode)]

theorem success_only_by_own_receipt_sample :
    ∃ run,
      Reaches (Tracked.step (observed receiptProducer)) unguarded (Tracked.start new) run ∧
        (History.ofLog run.log).confirmations.map
            (fun confirmation =>
              (confirmation.own, confirmation.taken.map (Frame.header · "receipt-id"))) =
          [(some "r-2", [none, some "r-1", some "r-2"])] ∧
        (∀ before after, run.log = before ++ .returned true :: after →
          (History.ofLog before).confirmation.Own) ∧
        (sendReceipts run.state.session.connections).Nodup := by
  refine Reaches.exists_and_of_executeChecked lateReceipt (by decide +kernel) ?_
  intro run reached confirmed
  obtain ⟨own, distinct, _⟩ := success_only_by_own_receipt receiptProducer rfl rfl run reached
  exact ⟨own, distinct⟩

end Worker

end Strobengine.Protocols.Stomp
