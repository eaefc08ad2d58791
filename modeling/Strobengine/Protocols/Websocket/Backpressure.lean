import Mathlib.Algebra.Ring.Nat
import Mathlib.Order.Bounds.Basic
import Strobengine.Foundations.Sequence

/-!
# Backpressure of a write path

`CountingSink` takes all bytes for acknowledged at every flush that completes. The wrapped sink
does not fail. Byte counts are natural numbers, so nothing saturates.
-/

namespace Strobengine.Protocols.Websocket.Backpressure

open Foundations

inductive Message where
  | text (content : String)
  | binary (data : List UInt8)
  | ping (data : List UInt8)
  | pong (data : List UInt8)
  | frame (payload : List UInt8)
  | close
  deriving DecidableEq, Repr

def messagePayloadLen : Message → Nat
  | .text content => content.utf8ByteSize
  | .binary data => data.length
  | .ping data => data.length
  | .pong data => data.length
  | .frame payload => payload.length
  | .close => 0

structure CountingSink where
  written : Nat
  flushed : Nat
  maxInFlight : Nat
  warnBytes : Nat
  overThreshold : Bool
  deriving DecidableEq, Repr

inductive SinkCall where
  | startSend (item : Message)
  | pollFlush (ready : Bool)
  deriving DecidableEq, Repr

namespace CountingSink

def new (warnBytes : Nat) : CountingSink :=
  { written := 0, flushed := 0, maxInFlight := 0, warnBytes, overThreshold := false }

def inFlight (sink : CountingSink) : Nat :=
  sink.written - sink.flushed

def startSend (sink : CountingSink) (item : Message) : CountingSink :=
  let counted := { sink with written := sink.written + messagePayloadLen item }
  let depth := counted.inFlight
  { counted with
    maxInFlight := if sink.maxInFlight < depth then depth else sink.maxInFlight
    overThreshold :=
      if 0 < sink.warnBytes then
        if sink.warnBytes ≤ depth ∧ sink.overThreshold = false then true
        else if depth < sink.warnBytes then false
        else sink.overThreshold
      else
        sink.overThreshold }

def pollFlush (sink : CountingSink) (ready : Bool) : CountingSink :=
  if ready then { sink with flushed := sink.written } else sink

def call (sink : CountingSink) : SinkCall → CountingSink
  | .startSend item => sink.startSend item
  | .pollFlush ready => sink.pollFlush ready

def run (warnBytes : Nat) (calls : List SinkCall) : CountingSink :=
  calls.foldl call (new warnBytes)

end CountingSink

namespace SinkCall

def completesFlush : SinkCall → Bool
  | .pollFlush ready => ready
  | .startSend _ => false

def accepted : SinkCall → Nat
  | .startSend item => messagePayloadLen item
  | .pollFlush _ => 0

def outstanding (calls : List SinkCall) : Nat :=
  ((since completesFlush calls).map accepted).sum

theorem outstanding_concat (calls : List SinkCall) (call : SinkCall) :
    outstanding (calls ++ [call]) =
      if call.completesFlush then 0 else outstanding calls + call.accepted := by
  unfold outstanding
  split
  · rename_i completed
    rw [since_concat_of_marked calls completed]
    rfl
  · rename_i unmarked
    rw [since_append calls (by simpa using unmarked), List.map_append, List.sum_append]
    simp

end SinkCall

namespace CountingSink

def depths (warnBytes : Nat) (calls : List SinkCall) : Set Nat :=
  { depth | ∃ front, front <+: calls ∧ (run warnBytes front).inFlight = depth }

structure Accounts (warnBytes : Nat) (calls : List SinkCall) (sink : CountingSink) : Prop where
  level : sink.warnBytes = warnBytes
  ordered : sink.flushed ≤ sink.written
  depth : sink.inFlight = SinkCall.outstanding calls
  peak : IsGreatest (depths warnBytes calls) sink.maxInFlight
  unwarned : warnBytes = 0 → sink.overThreshold = false

variable {warnBytes : Nat} {calls : List SinkCall} {sink : CountingSink}

theorem ordered_call (ordered : sink.flushed ≤ sink.written) (call : SinkCall) :
    (sink.call call).flushed ≤ (sink.call call).written := by
  cases call with
  | startSend => exact ordered.trans (Nat.le_add_right _ _)
  | pollFlush ready =>
    cases ready with
    | false => exact ordered
    | true => exact Nat.le_refl _

theorem inFlight_call (ordered : sink.flushed ≤ sink.written) (call : SinkCall) :
    (sink.call call).inFlight =
      if call.completesFlush then 0 else sink.inFlight + call.accepted := by
  cases call with
  | startSend item =>
    change sink.written + messagePayloadLen item - sink.flushed =
      sink.written - sink.flushed + messagePayloadLen item
    omega
  | pollFlush ready =>
    cases ready with
    | false => rfl
    | true => exact Nat.sub_self _

theorem maxInFlight_call (bounded : sink.inFlight ≤ sink.maxInFlight) (call : SinkCall) :
    (sink.call call).maxInFlight = max (sink.call call).inFlight sink.maxInFlight := by
  cases call with
  | startSend =>
    have chosen (first second : Nat) :
        (if first < second then second else first) = max second first := by
      split <;> omega
    exact chosen _ _
  | pollFlush ready =>
    cases ready with
    | false => exact (max_eq_right bounded).symm
    | true => exact (max_eq_right ((Nat.sub_self _).trans_le (Nat.zero_le _))).symm

theorem overThreshold_startSend (sink : CountingSink)
    (unwarned : sink.warnBytes = 0 → sink.overThreshold = false) (item : Message) :
    (sink.startSend item).overThreshold = true ↔
      0 < sink.warnBytes ∧ sink.warnBytes ≤ (sink.startSend item).inFlight := by
  simp only [startSend]
  change _ ↔ 0 < sink.warnBytes ∧
    sink.warnBytes ≤ sink.written + messagePayloadLen item - sink.flushed
  cases warned : sink.overThreshold <;> grind [inFlight]

theorem level_call (sink : CountingSink) (call : SinkCall) :
    (sink.call call).warnBytes = sink.warnBytes := by
  cases call with
  | startSend => rfl
  | pollFlush ready => cases ready <;> rfl

theorem unwarned_call (zero : sink.warnBytes = 0) (unwarned : sink.overThreshold = false)
    (call : SinkCall) : (sink.call call).overThreshold = false := by
  cases call with
  | startSend item =>
    apply Bool.eq_false_of_not_eq_true
    intro warned
    have positive := (overThreshold_startSend sink (fun _ => unwarned) item).mp warned
    omega
  | pollFlush ready => cases ready <;> exact unwarned

theorem depths_concat (warnBytes : Nat) (calls : List SinkCall) (call : SinkCall) :
    depths warnBytes (calls ++ [call]) =
      insert (run warnBytes (calls ++ [call])).inFlight (depths warnBytes calls) := by
  ext depth
  simp only [depths, Set.mem_ofPred_eq, Set.mem_insert_iff, List.prefix_concat_iff]
  constructor
  · rintro ⟨front, rfl | earlier, same⟩
    · exact Or.inl same.symm
    · exact Or.inr ⟨front, earlier, same⟩
  · rintro (rfl | ⟨front, earlier, same⟩)
    · exact ⟨_, Or.inl rfl, rfl⟩
    · exact ⟨front, Or.inr earlier, same⟩

theorem run_concat (warnBytes : Nat) (calls : List SinkCall) (call : SinkCall) :
    run warnBytes (calls ++ [call]) = (run warnBytes calls).call call := by
  rw [run, List.foldl_append]
  rfl

theorem Accounts.call (accounts : Accounts warnBytes calls (run warnBytes calls))
    (call : SinkCall) :
    Accounts warnBytes (calls ++ [call]) (run warnBytes (calls ++ [call])) := by
  have bounded := accounts.peak.2 ⟨calls, List.prefix_rfl, rfl⟩
  have peak :
      IsGreatest (depths warnBytes (calls ++ [call]))
        (run warnBytes (calls ++ [call])).maxInFlight := by
    rw [depths_concat, run_concat, maxInFlight_call bounded]
    exact accounts.peak.insert _
  rw [run_concat] at peak ⊢
  refine ⟨(level_call _ call).trans accounts.level, ordered_call accounts.ordered call, ?_, peak,
    fun zero => ?_⟩
  · rw [inFlight_call accounts.ordered, accounts.depth, SinkCall.outstanding_concat]
  · exact unwarned_call (accounts.level.trans zero) (accounts.unwarned zero) call

theorem accounts_run (warnBytes : Nat) (calls : List SinkCall) :
    Accounts warnBytes calls (run warnBytes calls) := by
  induction calls using List.reverseRecOn with
  | nil =>
    refine ⟨rfl, Nat.le_refl 0, rfl, ⟨⟨[], List.prefix_rfl, rfl⟩, ?_⟩, fun _ => rfl⟩
    rintro depth ⟨front, earlier, rfl⟩
    rw [List.prefix_nil.mp earlier]
    exact Nat.le_refl 0
  | append_singleton calls call ih => exact ih.call call

/-- After any calls, no more is flushed than was written, what is in flight was accepted since
the last completed flush, the maximum is the largest depth so far, and a message leaves the
flag set exactly when the depth is at or above a positive warning level. -/
theorem sink_accounts_for_calls (warnBytes : Nat) (calls : List SinkCall) :
    (run warnBytes calls).flushed ≤ (run warnBytes calls).written ∧
      (run warnBytes calls).inFlight = SinkCall.outstanding calls ∧
      IsGreatest (depths warnBytes calls) (run warnBytes calls).maxInFlight ∧
      ∀ item,
        (run warnBytes (calls ++ [.startSend item])).overThreshold = true ↔
          0 < warnBytes ∧ warnBytes ≤ (run warnBytes (calls ++ [.startSend item])).inFlight := by
  have accounts := accounts_run warnBytes calls
  refine ⟨accounts.ordered, accounts.depth, accounts.peak, fun item => ?_⟩
  have flag := (run warnBytes calls).overThreshold_startSend
    (fun zero => accounts.unwarned (accounts.level ▸ zero)) item
  rw [accounts.level] at flag
  rw [run_concat]
  exact flag

end CountingSink

end Strobengine.Protocols.Websocket.Backpressure
