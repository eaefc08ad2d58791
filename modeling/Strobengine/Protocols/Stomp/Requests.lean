import Strobengine.Metrics.Request
import Strobengine.Protocols.Stomp.Roundtrip

/-!
# The frames of the client

The requests that a session writes, with all their headers. Each of them is well formed,
so that the broker reads back what was meant.
-/

namespace Strobengine.Protocols.Stomp

open Foundations Metrics Rust

inductive StompMode where
  | produce
  | consume
  deriving DecidableEq, Repr

inductive StompAck where
  | auto
  | client
  | clientIndividual
  deriving DecidableEq, Repr

def StompAck.asStr : StompAck → String
  | .auto => "auto"
  | .client => "client"
  | .clientIndividual => "client-individual"

/-- The constants of a session. The length of the payload is a `usize`. -/
structure StompEngine where
  destination : String
  mode : StompMode
  ack : StompAck
  receipt : Bool
  payload : List UInt8
  headers : List (String × String)
  payloadFits : payload.length < 2 ^ 64

def connectFrame : Frame :=
  (((Frame.new "CONNECT").setHeader "accept-version" "1.2").setHeader "host" "/").setHeader
    "heart-beat" "0,0"

def ackFrame (id : String) : Frame :=
  (Frame.new "ACK").setHeader "id" id

def disconnectFrame : Frame :=
  Frame.new "DISCONNECT"

namespace StompEngine

def subscribeFrame (engine : StompEngine) : Frame :=
  (((Frame.new "SUBSCRIBE").setHeader "id" "sub-0").setHeader
    "destination" engine.destination).setHeader "ack" engine.ack.asStr

def inputPayload (engine : StompEngine) (chaosFault : Option ChaosFault) : List UInt8 :=
  match chaosFault, engine.payload with
  | some .corruptedPayload, first :: rest => (first + 1) :: rest
  | _, payload => payload

def receiptId (engine : StompEngine) (receiptSeq : Nat) : Option String :=
  if engine.receipt then some ("r-" ++ toString receiptSeq) else none

def sendFrame (engine : StompEngine) (chaosFault : Option ChaosFault) (receiptSeq : Nat) : Frame :=
  let body := engine.inputPayload chaosFault
  let addressed := (Frame.new "SEND").setHeader "destination" engine.destination
  let custom :=
    engine.headers.foldl (fun frame header => frame.setHeader header.1 header.2) addressed
  let marked :=
    if chaosFault = some .metadataCorruption then
      custom.setHeader "x-chaos" "metadata-corruption"
    else
      custom
  let sized := (marked.setHeader "content-length" (toString body.length)).withBody body
  match engine.receiptId receiptSeq with
  | some id => sized.setHeader "receipt" id
  | none => sized

end StompEngine

theorem findHeader_cons
    (header : String × String) (headers : List (String × String)) (name : String) :
    findHeader (header :: headers) name =
      if eqIgnoreAsciiCase header.1 name then some header.2 else findHeader headers name := by
  rw [findHeader, List.find?_cons]
  cases eqIgnoreAsciiCase header.1 name <;> rfl

theorem findHeader_setHeaderIn_self (name value : String) (headers : List (String × String)) :
    findHeader (setHeaderIn name value headers) name = some value := by
  induction headers with
  | nil => rw [setHeaderIn, findHeader_cons, if_pos ((eqIgnoreAsciiCase_iff name name).mpr rfl)]
  | cons header headers ih =>
    rw [setHeaderIn]
    split
    · rename_i same
      rw [findHeader_cons, if_pos same]
    · rename_i other
      rw [findHeader_cons, if_neg other]
      exact ih

theorem findHeader_setHeaderIn_of_ne
    {name other : String} (different : ¬ eqIgnoreAsciiCase other name = true)
    (value : String) (headers : List (String × String)) :
    findHeader (setHeaderIn other value headers) name = findHeader headers name := by
  induction headers with
  | nil => rw [setHeaderIn, findHeader_cons, if_neg different]
  | cons header headers ih =>
    rw [setHeaderIn, findHeader_cons header]
    split
    · rename_i same
      have unrelated : ¬ eqIgnoreAsciiCase header.1 name = true := by
        rw [eqIgnoreAsciiCase_iff, (eqIgnoreAsciiCase_iff _ _).mp same, ← eqIgnoreAsciiCase_iff]
        exact different
      rw [findHeader_cons, if_neg unrelated, if_neg unrelated]
    · rw [findHeader_cons, ih]

namespace Frame

theorem contentLength_setHeader_self (frame : Frame) (value : String) :
    (frame.setHeader "content-length" value).contentLength = parseUsize (trim value) := by
  rw [contentLength, contentLengthOf, setHeader, findHeader_setHeaderIn_self, Option.bind_some]

theorem contentLength_setHeader_of_ne
    (frame : Frame) {name : String} (different : ¬ eqIgnoreAsciiCase name "content-length" = true)
    (value : String) : (frame.setHeader name value).contentLength = frame.contentLength := by
  rw [contentLength, contentLengthOf, setHeader, findHeader_setHeaderIn_of_ne different,
    contentLength, contentLengthOf]

theorem command_foldl_setHeader (headers : List (String × String)) (frame : Frame) :
    (headers.foldl (fun frame header => frame.setHeader header.1 header.2) frame).command =
      frame.command := by
  induction headers generalizing frame with
  | nil => rfl
  | cons header headers ih => exact ih _

end Frame

/-! ## Requests are well formed -/

theorem wellFormed_of_command {frame : Frame} (command : String) (named : frame.command = command)
    (valid : command ≠ "" ∧ '\n' ∉ command.toList ∧ trim command = command)
    (delimited :
      frame.contentLength = some frame.body.length ∨ frame.contentLength = none ∧ frame.body = []) :
    frame.WellFormed where
  commandNonempty := named ▸ valid.1
  commandOneLine := named ▸ valid.2.1
  commandTrimmed := named ▸ valid.2.2
  bodyDelimited := by
    rcases delimited with known | ⟨unknown, empty⟩
    · exact Or.inl known
    · rw [empty]
      exact Or.inr ⟨unknown, List.not_mem_nil, fun ends => nomatch ends⟩

theorem wellFormed_connectFrame : connectFrame.WellFormed :=
  wellFormed_of_command "CONNECT" rfl (by decide) (Or.inr ⟨by decide, rfl⟩)

theorem wellFormed_disconnectFrame : disconnectFrame.WellFormed :=
  wellFormed_of_command "DISCONNECT" rfl (by decide) (Or.inr ⟨rfl, rfl⟩)

theorem wellFormed_ackFrame (id : String) : (ackFrame id).WellFormed := by
  refine wellFormed_of_command "ACK" rfl (by decide) (Or.inr ⟨?_, rfl⟩)
  rw [ackFrame, Frame.contentLength_setHeader_of_ne _ (by decide)]
  rfl

namespace StompEngine

theorem wellFormed_subscribeFrame (engine : StompEngine) : engine.subscribeFrame.WellFormed := by
  refine wellFormed_of_command "SUBSCRIBE" rfl (by decide) (Or.inr ⟨?_, rfl⟩)
  rw [subscribeFrame, Frame.contentLength_setHeader_of_ne _ (by decide),
    Frame.contentLength_setHeader_of_ne _ (by decide),
    Frame.contentLength_setHeader_of_ne _ (by decide)]
  rfl

theorem length_inputPayload (engine : StompEngine) (chaosFault : Option ChaosFault) :
    (engine.inputPayload chaosFault).length = engine.payload.length := by
  unfold inputPayload
  split
  · rename_i payload
    rw [payload]
    rfl
  · rfl

theorem command_sendFrame
    (engine : StompEngine) (chaosFault : Option ChaosFault) (receiptSeq : Nat) :
    (engine.sendFrame chaosFault receiptSeq).command = "SEND" := by
  unfold sendFrame
  dsimp only
  have custom := Frame.command_foldl_setHeader engine.headers
    ((Frame.new "SEND").setHeader "destination" engine.destination)
  split <;> split <;> exact custom

theorem body_sendFrame (engine : StompEngine) (chaosFault : Option ChaosFault) (receiptSeq : Nat) :
    (engine.sendFrame chaosFault receiptSeq).body = engine.inputPayload chaosFault := by
  unfold sendFrame
  dsimp only
  split <;> rfl

/-- The length that is announced is the length of the body, also when the user sets a
`content-length` header of their own. -/
theorem contentLength_sendFrame
    (engine : StompEngine) (chaosFault : Option ChaosFault) (receiptSeq : Nat) :
    (engine.sendFrame chaosFault receiptSeq).contentLength =
      some (engine.inputPayload chaosFault).length := by
  have fits : (engine.inputPayload chaosFault).length < 2 ^ 64 := by
    rw [length_inputPayload]
    exact engine.payloadFits
  have sized (frame : Frame) (body : List UInt8) :
      ((frame.setHeader "content-length"
          (toString (engine.inputPayload chaosFault).length)).withBody body).contentLength =
        some (engine.inputPayload chaosFault).length :=
    (Frame.contentLength_setHeader_self frame _).trans (parseUsize_trim_toString fits)
  unfold sendFrame
  dsimp only
  split
  · rw [Frame.contentLength_setHeader_of_ne _ (by decide)]
    exact sized _ _
  · exact sized _ _

theorem wellFormed_sendFrame
    (engine : StompEngine) (chaosFault : Option ChaosFault) (receiptSeq : Nat) :
    (engine.sendFrame chaosFault receiptSeq).WellFormed := by
  refine wellFormed_of_command "SEND" (command_sendFrame engine chaosFault receiptSeq)
    (by decide) (Or.inl ?_)
  rw [body_sendFrame]
  exact contentLength_sendFrame engine chaosFault receiptSeq

end StompEngine

abbrev WireFrame :=
  { frame : Frame // frame.WellFormed }

def WireFrame.encode (frame : WireFrame) : List UInt8 :=
  frame.val.encode

/-- Frames survive the wire: well-formed frames with heartbeats around them are decoded in
order and leave nothing behind, however the bytes are cut, and every SEND of a producer is
well formed. -/
theorem encoded_frames_decoded :
    (∀ (parts : List (List UInt8 × Frame)) (last : List UInt8) (chunks : List (List UInt8)),
      (∀ part ∈ parts, ∀ byte ∈ part.1, isEol byte = true) →
      (∀ byte ∈ last, isEol byte = true) →
      (∀ part ∈ parts, part.2.WellFormed) →
      chunks.flatten = separated Frame.encode parts last →
        (Decoder.new.feed chunks).frames = parts.map Prod.snd ∧
        (Decoder.new.feed chunks).error = none ∧
        (Decoder.new.feed chunks).decoder.pending = 0) ∧
    ∀ (engine : StompEngine) (chaosFault : Option ChaosFault) (receiptSeq : Nat),
      (engine.sendFrame chaosFault receiptSeq).WellFormed := by
  refine ⟨?_, StompEngine.wellFormed_sendFrame⟩
  intro parts last chunks heartbeats trailing wellFormed cutting
  have yielded :=
    (Decoder.view_feed_of_flatten cutting).trans
      (Grammar.drain_separated parts last heartbeats trailing wellFormed)
  have nothing : (Decoder.new.feed chunks).decoder.unread = [] := congrArg Yield.rest yielded
  refine ⟨congrArg Yield.items yielded, congrArg Yield.error yielded, ?_⟩
  rw [← Decoder.length_unread, nothing]
  rfl

/-- A producer that asks for receipts, with a payload that is not a text and a user header
that announces another length. -/
def StompEngine.binaryProducer : StompEngine where
  destination := "/queue/orders"
  mode := .produce
  ack := .auto
  receipt := true
  payload := [0, 255, 10]
  headers := [("Content-Length", "7"), ("x:y", "a\r\nb")]
  payloadFits := by decide

theorem encoded_frames_decoded_sample :
    let parts :=
      [([lineFeed], StompEngine.binaryProducer.sendFrame (some .corruptedPayload) 1),
        ([], ackFrame "m:1")]
    let stream := separated Frame.encode parts [carriageReturn, lineFeed]
    (Decoder.new.feed [stream.take 9, [], stream.drop 9]).frames = parts.map Prod.snd ∧
      (Decoder.new.feed [stream.take 9, [], stream.drop 9]).error = none ∧
      (Decoder.new.feed [stream.take 9, [], stream.drop 9]).decoder.pending = 0 := by
  intro parts stream
  refine encoded_frames_decoded.1 parts [carriageReturn, lineFeed] _ ?_ ?_ ?_ ?_
  · simp [parts, isEol]
  · simp [isEol]
  · intro part member
    simp only [parts, List.mem_cons, List.not_mem_nil, or_false] at member
    rcases member with rfl | rfl
    · exact encoded_frames_decoded.2 StompEngine.binaryProducer (some .corruptedPayload) 1
    · exact wellFormed_ackFrame "m:1"
  · simp [stream]

end Strobengine.Protocols.Stomp
