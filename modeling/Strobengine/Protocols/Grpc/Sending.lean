import Mathlib.Data.UInt
import Mathlib.Order.Bounds.Basic
import Strobengine.Rust.Bytes

/-!
# Sending a gRPC message under flow control

A poll of `drive_send` ends with a grant, an error or the end of the stream; whether the HTTP/2
stack accepts data of some grant is a parameter.
-/

namespace Strobengine.Protocols.Grpc

open Rust

def buildFrame (payload : List UInt8) : List UInt8 :=
  0 :: toBeBytes (payload.length % 2 ^ 32) 4 ++ payload

inductive Capacity where
  | granted (amount : UInt64)
  | failed
  | closed
  deriving DecidableEq, Repr

structure CapacityPoll where
  capacity : Capacity
  stalled : Bool
  elapsedUs : Nat
  deriving DecidableEq, Repr

structure SentChunk where
  data : List UInt8
  endStream : Bool
  deriving DecidableEq, Repr

/-- `(exhaustion_events, stall_us, min_capacity_bytes, saw_capacity)`. -/
structure SendReport where
  events : Nat
  stallUs : Nat
  capMin : Nat
  hasCap : Bool
  deriving DecidableEq, Repr

inductive Sending where
  | polling (report : SendReport) (idx : Nat) (sent : List SentChunk)
  | returned (result : Except Unit SendReport) (sent : List SentChunk)

def u64Max : Nat :=
  2 ^ 64 - 1

def sendable (frame : List UInt8) (idx : Nat) (amount : UInt64) : Nat :=
  min amount.toNat (frame.length - idx)

def slice (frame : List UInt8) (idx take : Nat) : List UInt8 :=
  (frame.drop idx).take take

/-- A stall counts once sending has begun, not the wait for the first grant. -/
def SendReport.waited (report : SendReport) (idx : Nat) (polled : CapacityPoll) : SendReport :=
  if polled.stalled = true ∧ 0 < idx then
    { report with
      events := report.events + 1
      stallUs := report.stallUs + polled.elapsedUs }
  else
    report

@[simp]
theorem SendReport.capMin_waited (report : SendReport) (idx : Nat) (polled : CapacityPoll) :
    (report.waited idx polled).capMin = report.capMin := by
  unfold waited
  split <;> rfl

namespace Sending

variable (accepts : UInt64 → List UInt8 → Bool) (frame : List UInt8)

def poll (report : SendReport) (idx : Nat) (sent : List SentChunk) (polled : CapacityPoll) :
    Sending :=
  match polled.capacity with
  | .failed | .closed => .returned (.error ()) sent
  | .granted amount =>
    let waited := report.waited idx polled
    if amount = 0 then
      .polling waited idx sent
    else
      let counted := { waited with capMin := min waited.capMin amount.toNat, hasCap := true }
      let take := sendable frame idx amount
      let isLast := decide (frame.length ≤ idx + take)
      let chunk := slice frame idx take
      if accepts amount chunk then
        if isLast then
          .returned (.ok counted) (sent ++ [⟨chunk, isLast⟩])
        else
          .polling counted (idx + take) (sent ++ [⟨chunk, isLast⟩])
      else
        .returned (.error ()) sent

def next : Sending → CapacityPoll → Sending
  | .polling report idx sent, polled => poll accepts frame report idx sent polled
  | .returned result sent, _ => .returned result sent

def start : Sending :=
  if frame.isEmpty then
    if accepts 0 [] then .returned (.ok ⟨0, 0, 0, false⟩) [⟨[], true⟩]
    else .returned (.error ()) []
  else
    .polling ⟨0, 0, u64Max, false⟩ 0 []

end Sending

def driveSend (accepts : UInt64 → List UInt8 → Bool) (frame : List UInt8)
    (polls : Nat → CapacityPoll) (count : Nat) : Sending :=
  ((List.range count).map polls).foldl (Sending.next accepts frame) (Sending.start accepts frame)

def WithinGrants (grant : Nat → UInt64) (sent : List SentChunk) : Prop :=
  ∀ index, ∀ chunk ∈ sent[index]?, chunk.data.length ≤ (grant index).toNat

structure Smallest (grant : Nat → UInt64) (count capMin : Nat) : Prop where
  below : ∀ index < count, capMin ≤ (grant index).toNat
  attained : capMin = u64Max ∨ ∃ index < count, (grant index).toNat = capMin

structure Underway (frame : List UInt8) (grant : Nat → UInt64) (count : Nat)
    (report : SendReport) (idx : Nat) (sent : List SentChunk) : Prop where
  unfinished : idx < frame.length
  data : (sent.map SentChunk.data).flatten = frame.take idx
  length : sent.length = count
  unended : ∀ chunk ∈ sent, chunk.endStream = false
  within : WithinGrants grant sent
  smallest : Smallest grant count report.capMin

structure Completed (frame : List UInt8) (grant : Nat → UInt64) (count : Nat)
    (report : SendReport) (sent : List SentChunk) : Prop where
  data : (sent.map SentChunk.data).flatten = frame
  within : WithinGrants grant sent
  ends : ∃ earlier last, sent = earlier ++ [last] ∧ last.endStream = true ∧
    ∀ chunk ∈ earlier, chunk.endStream = false
  length : sent.length = count
  smallest : IsLeast { amount | ∃ index < count, (grant index).toNat = amount } report.capMin

section Grants

variable {accepts : UInt64 → List UInt8 → Bool} {frame : List UInt8} {grant : Nat → UInt64}
  {count idx : Nat} {report : SendReport} {sent : List SentChunk}

theorem WithinGrants.concat (within : WithinGrants grant sent) {chunk : SentChunk}
    (fits : chunk.data.length ≤ (grant sent.length).toNat) :
    WithinGrants grant (sent ++ [chunk]) := by
  intro index found listed
  rw [Option.mem_def, List.getElem?_append] at listed
  split at listed
  · exact within index found listed
  · rename_i beyond
    rw [List.getElem?_singleton] at listed
    split at listed
    · rename_i last
      cases listed
      rw [show index = sent.length by omega]
      exact fits
    · cases listed

theorem Smallest.next {capMin : Nat} (smallest : Smallest grant count capMin) :
    Smallest grant (count + 1) (min capMin (grant count).toNat) := by
  constructor
  · intro index before
    rcases Nat.lt_succ_iff_lt_or_eq.mp before with earlier | rfl
    · exact (min_le_left _ _).trans (smallest.below index earlier)
    · exact min_le_right _ _
  · rcases min_choice capMin (grant count).toNat with old | new
    · rw [old]
      refine smallest.attained.imp_right ?_
      rintro ⟨index, before, same⟩
      exact ⟨index, before.trans (Nat.lt_succ_self count), same⟩
    · exact Or.inr ⟨count, Nat.lt_succ_self count, new.symm⟩

theorem Smallest.isLeast {capMin : Nat} (smallest : Smallest grant (count + 1) capMin) :
    IsLeast { amount | ∃ index < count + 1, (grant index).toNat = amount } capMin := by
  constructor
  · rcases smallest.attained with none | attained
    · have least := smallest.below 0 (Nat.succ_pos count)
      have bound := (grant 0).toNat_lt
      refine ⟨0, Nat.succ_pos count, ?_⟩
      simp only [u64Max] at none
      omega
    · exact attained
  · rintro amount ⟨index, before, rfl⟩
    exact smallest.below index before

theorem length_slice_sendable (frame : List UInt8) (idx : Nat) (amount : UInt64) :
    (slice frame idx (sendable frame idx amount)).length = sendable frame idx amount := by
  rw [slice, List.length_take, List.length_drop]
  exact min_eq_left (min_le_right _ _)

theorem Underway.next
    (accepting : ∀ amount data, data.length ≤ amount.toNat → accepts amount data = true)
    (underway : Underway frame grant count report idx sent) {polled : CapacityPoll}
    (granting : polled.capacity = .granted (grant count)) (positive : grant count ≠ 0) :
    (∃ report' sent',
        Sending.poll accepts frame report idx sent polled = .returned (.ok report') sent' ∧
          Completed frame grant (count + 1) report' sent') ∨
      ∃ report' idx' sent',
        Sending.poll accepts frame report idx sent polled = .polling report' idx' sent' ∧
          idx < idx' ∧ Underway frame grant (count + 1) report' idx' sent' := by
  have size := length_slice_sendable frame idx (grant count)
  have fits := size.trans_le (min_le_left _ _)
  have amount : 0 < (grant count).toNat := by
    apply Nat.pos_of_ne_zero
    exact fun zero => positive (UInt64.toNat_inj.mp zero)
  have advanced : 0 < sendable frame idx (grant count) :=
    lt_min amount (Nat.sub_pos_of_lt underway.unfinished)
  have data (last : Bool) :
      ((sent ++ [SentChunk.mk (slice frame idx (sendable frame idx (grant count))) last]).map
          SentChunk.data).flatten =
        frame.take (idx + sendable frame idx (grant count)) := by
    rw [List.map_append, List.flatten_append, underway.data, List.take_add]
    simp [slice]
  have within (last : Bool) :
      WithinGrants grant
        (sent ++ [⟨slice frame idx (sendable frame idx (grant count)), last⟩]) := by
    apply underway.within.concat
    rw [underway.length]
    exact fits
  have length (last : SentChunk) : (sent ++ [last]).length = count + 1 := by
    rw [List.length_append, underway.length]
    rfl
  unfold Sending.poll
  rw [granting]
  simp only [positive, if_false, accepting _ _ fits, if_true, SendReport.capMin_waited]
  split
  · rename_i last
    refine Or.inl ⟨_, _, rfl, ?_, within _, ⟨sent, _, rfl, last, underway.unended⟩, length _, ?_⟩
    · rw [data, List.take_of_length_le (of_decide_eq_true last)]
    · exact underway.smallest.next.isLeast
  · rename_i unfinished
    refine
      Or.inr
        ⟨_, _, _, rfl, Nat.lt_add_of_pos_right advanced, ?_, data _, length _, ?_, within _,
          underway.smallest.next⟩
    · exact Nat.lt_of_not_le (fun ended => unfinished (decide_eq_true ended))
    · rw [List.forall_mem_append, List.forall_mem_singleton]
      exact ⟨underway.unended, Bool.eq_false_of_not_eq_true unfinished⟩

theorem driveSend_succ (accepts : UInt64 → List UInt8 → Bool) (frame : List UInt8)
    (polls : Nat → CapacityPoll) (count : Nat) :
    driveSend accepts frame polls (count + 1) =
      Sending.next accepts frame (driveSend accepts frame polls count) (polls count) := by
  rw [driveSend, List.range_succ, List.map_append, List.foldl_append]
  rfl

theorem Underway.completes {polls : Nat → CapacityPoll}
    (accepting : ∀ amount data, data.length ≤ amount.toNat → accepts amount data = true)
    (granting : ∀ index, (polls index).capacity = .granted (grant index))
    (positive : ∀ index, grant index ≠ 0) (underway : Underway frame grant count report idx sent)
    (reached : driveSend accepts frame polls count = .polling report idx sent) :
    ∃ last report' sent',
      driveSend accepts frame polls last = .returned (.ok report') sent' ∧
        Completed frame grant last report' sent' := by
  induction size : frame.length - idx using Nat.strongRecOn
    generalizing count report idx sent with
  | ind remaining ih =>
    have step : driveSend accepts frame polls (count + 1) = _ := driveSend_succ ..
    rw [reached] at step
    rcases underway.next accepting (granting count) (positive count) with
      ⟨report', sent', ended, completed⟩ | ⟨report', idx', sent', goesOn, advanced, later⟩
    · exact ⟨count + 1, report', sent', step.trans ended, completed⟩
    · have fewer : frame.length - idx' < remaining := by
        have := underway.unfinished
        omega
      exact ih _ fewer later (step.trans goesOn) rfl

end Grants

/-- With positive grants, and a stack that accepts what fits into them, the frame of a payload
is sent in chunks within the grants; the last one, and no other, ends the stream, and the
smallest grant is reported. -/
theorem frame_sent_within_grants (payload : List UInt8) (small : payload.length < 2 ^ 32)
    (accepts : UInt64 → List UInt8 → Bool)
    (accepting : ∀ amount data, data.length ≤ amount.toNat → accepts amount data = true)
    (polls : Nat → CapacityPoll) (grant : Nat → UInt64)
    (granting : ∀ index, (polls index).capacity = .granted (grant index))
    (positive : ∀ index, grant index ≠ 0) :
    (∃ header,
        buildFrame payload = 0 :: header ++ payload ∧ header.length = 4 ∧
          fromBeBytes header = payload.length) ∧
      ∃ count report sent,
        driveSend accepts (buildFrame payload) polls count = .returned (.ok report) sent ∧
          Completed (buildFrame payload) grant count report sent := by
  constructor
  · refine ⟨_, rfl, rfl, ?_⟩
    rw [Nat.mod_eq_of_lt small, fromBeBytes_toBeBytes small]
  · have begins : Underway (buildFrame payload) grant 0 ⟨0, 0, u64Max, false⟩ 0 [] :=
      { unfinished := Nat.succ_pos _
        data := rfl
        length := rfl
        unended := by simp
        within := by simp [WithinGrants]
        smallest := ⟨fun index before => absurd before (Nat.not_lt_zero index), Or.inl rfl⟩ }
    exact begins.completes accepting granting positive rfl

theorem frame_sent_within_grants_sample :
    ∃ count report sent,
      driveSend (fun amount data => data.length ≤ amount.toNat) (buildFrame [1, 2, 3])
          (fun _ => ⟨.granted 2, false, 0⟩) count = .returned (.ok report) sent ∧
        Completed (buildFrame [1, 2, 3]) (fun _ => 2) count report sent :=
  (frame_sent_within_grants [1, 2, 3] (by decide) _
    (fun _ _ fits => decide_eq_true fits) _ (fun _ => 2) (fun _ => rfl)
    (fun _ => by decide)).2

end Strobengine.Protocols.Grpc
