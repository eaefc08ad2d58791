import Strobengine.Protocols.GraphqlWs.Timing
import Strobengine.Protocols.Stomp.Consumer

/-!
# Time to the first message

A STOMP consumer and a GraphQL subscription keep the same three fields for their
measurements and reset them with every connection and every subscribe.
-/

namespace Strobengine.Protocols

open Foundations

/-- Between two subscribes of a session, exactly one of the reported messages carries a time
to the first message, and all but the first carry an interval. -/
theorem measurements_complementary :
    (∀ (engine : Stomp.StompEngine)
        (run : Tracked Stomp.Consumer.Worker Stomp.Consumer.Seen),
      Reaches (Tracked.step (Stomp.Consumer.Worker.step engine))
          (Tracked.guardOn Stomp.Consumer.Worker.completes)
          (.start Stomp.Consumer.Worker.new) run →
        Complementary (Stomp.Consumer.measured run.log)) ∧
      ∀ (engine : GraphqlWs.GraphqlWsEngine) (run : Tracked GraphqlWs.Worker GraphqlWs.Seen),
        Reaches (Tracked.step (GraphqlWs.Worker.observed engine)) unguarded
            (.start (GraphqlWs.Worker.new true)) run →
          Complementary (GraphqlWs.measured run.log) := by
  constructor
  · intro engine run reached
    exact complementary_of_timed (Stomp.Consumer.timed_measured reached)
  · intro engine run reached
    exact complementary_of_timed (GraphqlWs.timed_measured reached)

namespace Stomp.Consumer

def sample : StompEngine :=
  { StompEngine.binaryProducer with mode := .consume, ack := .client }

def sampleMessage : Frame :=
  (Frame.new "MESSAGE").setHeader "ack" "1"

def firstDelivery (now : Nat) : List Action :=
  [⟨now, .begin none⟩, ⟨now, .opened⟩, ⟨now, .written⟩,
    ⟨now, .received (Frame.new "CONNECTED")⟩, ⟨now + 1, .written⟩,
    ⟨now + 5, .received sampleMessage⟩, ⟨now + 6, .written⟩]

end Stomp.Consumer

/-- A consumer loses its connection when it acknowledges the third message, and a
subscription ends and is renewed. -/
theorem measurements_complementary_sample :
    (∃ run : Tracked Stomp.Consumer.Worker Stomp.Consumer.Seen,
      Reaches (Tracked.step (Stomp.Consumer.Worker.step Stomp.Consumer.sample))
          (Tracked.guardOn Stomp.Consumer.Worker.completes)
          (.start Stomp.Consumer.Worker.new) run ∧
        Stomp.Consumer.measured run.log =
          [.subscribed, .message (some 4) none, .message none (some 3), .subscribed,
            .message (some 4) none] ∧
        Complementary (Stomp.Consumer.measured run.log)) ∧
      ∃ run : Tracked GraphqlWs.Worker GraphqlWs.Seen,
        Reaches (Tracked.step (GraphqlWs.Worker.observed .sample)) unguarded
            (.start (GraphqlWs.Worker.new true)) run ∧
          GraphqlWs.measured run.log =
            [.subscribed, .message (some 0) none, .message none (some 2), .subscribed,
              .message (some 1) none] ∧
          Complementary (GraphqlWs.measured run.log) := by
  constructor
  · exact
      Reaches.exists_and_of_executeChecked
        (Stomp.Consumer.firstDelivery 0 ++
          [⟨7, .begin none⟩, ⟨8, .received Stomp.Consumer.sampleMessage⟩, ⟨9, .written⟩,
            ⟨10, .begin none⟩, ⟨11, .received Stomp.Consumer.sampleMessage⟩,
            ⟨12, .writeFailed⟩] ++
          Stomp.Consumer.firstDelivery 20)
        (by decide +kernel) (fun run reached _ => measurements_complementary.1 _ run reached)
  · exact
      Reaches.exists_and_of_executeChecked
        (GraphqlWs.firstMessage 0 ++
          [⟨1, .begin none⟩, ⟨2, .message (.text "next")⟩, ⟨3, .begin none⟩,
            ⟨4, .message (.text "complete")⟩, ⟨5, .begin none⟩, ⟨6, .sent⟩,
            ⟨7, .message (.text "next")⟩])
        (by decide +kernel) (fun run reached _ => measurements_complementary.2 _ run reached)

end Strobengine.Protocols
