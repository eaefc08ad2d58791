import Strobengine.Foundations.Sequence

/-!
# Time to the first message, and from one message to the next

A session that subscribes measures how long the first message takes, and for every other
message how long it comes behind the one before.
-/

namespace Strobengine.Protocols

open Foundations

/-- What matters of the log of a session: its subscribes, and the measurements of the
messages that it reports. -/
inductive Measurement where
  | subscribed
  | message (ttfmUs intervalUs : Option Nat)
  deriving DecidableEq, Repr

namespace Measurement

def isSubscribed : Measurement → Bool
  | .subscribed => true
  | .message _ _ => false

def times? : Measurement → Option (Option Nat × Option Nat)
  | .subscribed => none
  | .message ttfmUs intervalUs => some (ttfmUs, intervalUs)

/-- The first message behind a subscribe carries a time to the first message and no interval,
every other one an interval only. -/
def Timed (before : List Measurement) : Measurement → Prop
  | .subscribed => True
  | .message ttfmUs intervalUs =>
    if since isSubscribed before = [] then
      ttfmUs.isSome = true ∧ intervalUs = none
    else
      ttfmUs = none ∧ intervalUs.isSome = true

end Measurement

/-- Of the messages that are reported between one subscribe and the next, if there are any,
exactly one carries a time to the first message, all but one carry an interval, and the first
one carries none. -/
def Complementary (log : List Measurement) : Prop :=
  ∀ before segment after,
    log = before ++ .subscribed :: segment ++ after → .subscribed ∉ segment →
      segment.filterMap Measurement.times? ≠ [] →
        (segment.filterMap Measurement.times?).countP (fun times => times.1.isSome) = 1 ∧
          (segment.filterMap Measurement.times?).countP (fun times => times.2.isSome) =
            (segment.filterMap Measurement.times?).length - 1 ∧
          ∀ first ∈ (segment.filterMap Measurement.times?).head?, first.2 = none

/-- One message that carries a time to the first message, and others that carry an
interval. -/
inductive Measured : List (Option Nat × Option Nat) → Prop where
  | mk (first : Option Nat × Option Nat) (rest : List (Option Nat × Option Nat))
      (ttfm : first.1.isSome = true) (started : first.2 = none)
      (later : ∀ times ∈ rest, times.1 = none ∧ times.2.isSome = true) :
      Measured (first :: rest)

theorem Measured.concat {times : List (Option Nat × Option Nat)} (measured : Measured times)
    {last : Option Nat × Option Nat} (ttfm : last.1 = none)
    (interval : last.2.isSome = true) : Measured (times ++ [last]) := by
  obtain ⟨first, rest, first_ttfm, started, later⟩ := measured
  refine .mk first (rest ++ [last]) first_ttfm started ?_
  intro times member
  rcases List.mem_append.mp member with earlier | final
  · exact later times earlier
  · cases List.mem_singleton.mp final
    exact ⟨ttfm, interval⟩

theorem measured_of_timed {log before segment after : List Measurement}
    (timed : Grounded Measurement.Timed log) (cut : log = before ++ .subscribed :: segment ++ after)
    (single : .subscribed ∉ segment) (reported : segment ≠ []) :
    Measured (segment.filterMap Measurement.times?) := by
  induction segment using List.reverseRecOn generalizing after with
  | nil => exact absurd rfl reported
  | append_singleton segment last ih =>
    have here : Measurement.Timed (before ++ .subscribed :: segment) last :=
      timed.split (show log = (before ++ .subscribed :: segment) ++ last :: after by
        rw [cut]
        simp)
    have messages : ∀ item ∈ segment, item.isSubscribed = false := by
      intro item member
      cases item with
      | subscribed => exact absurd (List.mem_append_left _ member) single
      | message => rfl
    cases last with
    | subscribed => simp at single
    | message ttfmUs intervalUs =>
      rw [Measurement.Timed, since_append_cons before rfl messages] at here
      rw [List.filterMap_append]
      by_cases first : segment = []
      · rw [if_pos first] at here
        subst first
        exact .mk (ttfmUs, intervalUs) [] here.1 here.2 (by simp)
      · rw [if_neg first] at here
        have shorter :
            log = before ++ .subscribed :: segment ++ .message ttfmUs intervalUs :: after := by
          rw [cut]
          simp
        have earlier : Measured (segment.filterMap Measurement.times?) :=
          ih shorter
            (fun member => single (List.mem_append_left _ member)) first
        exact earlier.concat here.1 here.2

theorem Measured.counts {times : List (Option Nat × Option Nat)} (measured : Measured times) :
    times.countP (fun times => times.1.isSome) = 1 ∧
      times.countP (fun times => times.2.isSome) = times.length - 1 ∧
      ∀ first ∈ times.head?, first.2 = none := by
  obtain ⟨first, rest, ttfm, started, later⟩ := measured
  have others : rest.countP (fun times => times.1.isSome) = 0 := by
    rw [List.countP_eq_zero]
    intro times member
    simp [(later times member).1]
  have intervals : rest.countP (fun times => times.2.isSome) = rest.length := by
    rw [List.countP_eq_length]
    intro times member
    exact (later times member).2
  refine ⟨?_, ?_, ?_⟩
  · rw [List.countP_cons, others, if_pos ttfm]
  · rw [List.countP_cons, intervals, started]
    simp
  · intro head member
    cases member
    exact started

theorem complementary_of_timed {log : List Measurement}
    (timed : Grounded Measurement.Timed log) : Complementary log := by
  intro before segment after cut single reported
  have nonempty : segment ≠ [] := by
    rintro rfl
    exact reported rfl
  exact (measured_of_timed timed cut single nonempty).counts

/-! ## The fields that drive the measurements -/

/-- When the session has subscribed, when it has reported a message last, and whether it has
reported one. -/
structure Stopwatch where
  startedAt : Option Nat
  lastAt : Option Nat
  seen : Bool
  deriving DecidableEq, Repr

namespace Stopwatch

def ttfm (watch : Stopwatch) (now : Nat) : Option Nat :=
  if watch.seen then none else watch.startedAt.map (now - ·)

def interval (watch : Stopwatch) (now : Nat) : Option Nat :=
  watch.lastAt.map (now - ·)

structure Goes (watch : Stopwatch) (log : List Measurement) : Prop where
  started : watch.startedAt.isSome = true
  seen : watch.seen = true ↔ since Measurement.isSubscribed log ≠ []
  last : watch.lastAt.isSome = true ↔ since Measurement.isSubscribed log ≠ []

theorem goes_start {log : List Measurement} (now : Nat)
    (fresh : since Measurement.isSubscribed log = []) :
    Goes { startedAt := some now, lastAt := none, seen := false } log :=
  ⟨rfl, by simp [fresh], by simp [fresh]⟩

variable {watch : Stopwatch} {log : List Measurement}

theorem Goes.timed (goes : watch.Goes log) (now : Nat) :
    Measurement.Timed log (.message (watch.ttfm now) (watch.interval now)) := by
  obtain ⟨started, seen, last⟩ := goes
  rw [Measurement.Timed]
  by_cases fresh : since Measurement.isSubscribed log = []
  · have unseen : watch.seen = false := by simpa [fresh] using seen
    have unreported : watch.lastAt = none := by simpa [fresh] using last
    rw [if_pos fresh]
    simpa [ttfm, interval, unseen, unreported] using started
  · rw [if_neg fresh]
    simpa [ttfm, interval, seen.mpr fresh] using last.mpr fresh

theorem Goes.concat_message (goes : watch.Goes log) (now : Nat) (ttfmUs intervalUs : Option Nat) :
    Goes { watch with lastAt := some now, seen := true }
      (log ++ [Measurement.message ttfmUs intervalUs]) := by
  have behind :
      since Measurement.isSubscribed (log ++ [Measurement.message ttfmUs intervalUs]) ≠ [] := by
    rw [since_append log (by simp [Measurement.isSubscribed])]
    simp
  exact ⟨goes.started, by simp [behind], by simp [behind]⟩

end Stopwatch

end Strobengine.Protocols
