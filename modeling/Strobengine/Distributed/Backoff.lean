import Mathlib.Tactic.Linarith
import Mathlib.Tactic.Positivity
import Mathlib.Tactic.FieldSimp

/-!
# Reconnecting with backoff

Between two sessions `Worker::run` waits for a delay of an exponential schedule with full jitter,
which it never resets. Times are rational numbers of seconds.
-/

namespace Strobengine.Distributed

structure Backoff where
  base : ℚ
  max : ℚ
  factor : ℚ
  jitter : Bool
  attempt : Nat
  deriving DecidableEq, Repr

namespace Backoff

def new (base max : ℚ) : Backoff :=
  { base
    max
    factor := 2
    jitter := true
    attempt := 0 }

def withFactor (backoff : Backoff) (factor : ℚ) : Backoff :=
  { backoff with factor := Max.max factor 1 }

def reset (backoff : Backoff) : Backoff :=
  { backoff with attempt := 0 }

def delayFor (backoff : Backoff) (attempt : Nat) : ℚ :=
  min (backoff.base * backoff.factor ^ min attempt 32) backoff.max

/-- Produce the next delay and advance the counter, which saturates; `draw` is the random
number between zero and one. -/
def nextDelay (backoff : Backoff) (draw : ℚ) : ℚ × Backoff :=
  let delay := backoff.delayFor backoff.attempt
  (if backoff.jitter then delay * draw else delay,
    { backoff with attempt := min (backoff.attempt + 1) (2 ^ 32 - 1) })

/-! ## The documented delays -/

section Documented

variable {backoff : Backoff} (nonnegative : 0 ≤ backoff.base) (grows : 1 ≤ backoff.factor)

include nonnegative grows

theorem uncapped_mono : Monotone (fun attempt => backoff.base * backoff.factor ^ attempt) := by
  intro earlier later le
  exact mul_le_mul_of_nonneg_left (pow_le_pow_right₀ grows le) nonnegative

theorem delayFor_mono : Monotone backoff.delayFor := by
  intro earlier later le
  exact min_le_min_right _ (uncapped_mono nonnegative grows (min_le_min_right 32 le))

theorem reaches_max_iff :
    (∃ attempt, backoff.delayFor attempt = backoff.max) ↔
    backoff.max ≤ backoff.base * backoff.factor ^ 32 := by
  constructor
  · rintro ⟨attempt, reached⟩
    calc
      backoff.max ≤ backoff.base * backoff.factor ^ min attempt 32 := min_eq_right_iff.mp reached
      _ ≤ backoff.base * backoff.factor ^ 32 :=
        uncapped_mono nonnegative grows (min_le_right attempt 32)
  · intro enough
    exact ⟨32, min_eq_right enough⟩

theorem delayFor_eq_iff (attempt : Nat) :
    backoff.delayFor attempt = min (backoff.base * backoff.factor ^ attempt) backoff.max ↔
      attempt ≤ 32 ∨ backoff.base = 0 ∨ backoff.factor = 1 ∨
        backoff.max ≤ backoff.base * backoff.factor ^ 32 := by
  constructor
  · intro same
    by_contra others
    push Not at others
    obtain ⟨late, nonzero, notOne, below⟩ := others
    have positive : 0 < backoff.base := lt_of_le_of_ne nonnegative nonzero.symm
    have growing : 1 < backoff.factor := lt_of_le_of_ne grows notOne.symm
    have smaller : backoff.base * backoff.factor ^ 32 < backoff.base * backoff.factor ^ attempt :=
      mul_lt_mul_of_pos_left (pow_lt_pow_right₀ growing late) positive
    rw [delayFor, min_eq_right late.le, min_eq_left below.le] at same
    exact absurd same (lt_min smaller below).ne
  · rintro (early | zero | one | enough)
    · rw [delayFor, min_eq_left early]
    · rw [delayFor, zero, zero_mul, zero_mul]
    · rw [delayFor, one, one_pow, one_pow]
    · rcases le_total attempt 32 with early | late
      · rw [delayFor, min_eq_left early]
      · have beyond := enough.trans (uncapped_mono nonnegative grows late)
        rw [delayFor, min_eq_right late, min_eq_right enough, min_eq_right beyond]

end Documented

/-- The delay is `base * factor^n`, capped at `max`, up to attempt 32, and after it exactly if the
schedule is constant or has reached the cap by then; otherwise the cap is never reached. -/
theorem documented_delay_iff {base factor : ℚ} (limit : ℚ) (nonnegative : 0 ≤ base)
    (grows : 1 ≤ factor) :
    (∀ attempt,
        ((new base limit).withFactor factor).delayFor attempt =
            min (base * factor ^ attempt) limit ↔
          attempt ≤ 32 ∨ base = 0 ∨ factor = 1 ∨ limit ≤ base * factor ^ 32) ∧
      Monotone ((new base limit).withFactor factor).delayFor ∧
      ((∃ attempt, ((new base limit).withFactor factor).delayFor attempt = limit) ↔
        limit ≤ base * factor ^ 32) := by
  have given : ((new base limit).withFactor factor).factor = factor := max_eq_left grows
  have begins : 0 ≤ ((new base limit).withFactor factor).base := nonnegative
  have growing : 1 ≤ ((new base limit).withFactor factor).factor := grows.trans_eq given.symm
  have formula := delayFor_eq_iff begins growing
  have reached := reaches_max_iff begins growing
  simp only [given] at formula reached
  exact ⟨formula, delayFor_mono begins growing, reached⟩

theorem documented_delay_iff_sample :
    (0 : ℚ) ≤ 1 / 2 ∧ (1 : ℚ) ≤ 2 ∧
      ∀ attempt,
        ((new (1 / 2) 30).withFactor 2).delayFor attempt = min (1 / 2 * 2 ^ attempt) 30 := by
  refine ⟨by norm_num, by norm_num, fun attempt => ?_⟩
  apply ((documented_delay_iff 30 (by norm_num) (by norm_num)).1 attempt).mpr
  norm_num

/-- One second that grows by a tenth each time: the delays stop below 22 seconds, and the
documented ones reach the cap of 30 seconds. -/
theorem slow_growth_stops :
    ((new 1 30).withFactor (11 / 10)).delayFor 36 < 22 ∧ min (1 * (11 / 10) ^ 36) (30 : ℚ) = 30 ∧
      ∀ attempt, ((new 1 30).withFactor (11 / 10)).delayFor attempt ≠ 30 := by
  have growth : ((new 1 30).withFactor (11 / 10)).factor = 11 / 10 := max_eq_left (by norm_num)
  refine ⟨?_, by norm_num, fun attempt reached => ?_⟩
  · rw [delayFor, growth]
    norm_num [new, withFactor]
  · have enough := (reaches_max_iff (by norm_num [new, withFactor]) (by norm_num [growth])).mp
      ⟨attempt, reached⟩
    rw [growth] at enough
    norm_num [new, withFactor] at enough

end Backoff

/-- How a session of a worker ended, other than by a shutdown. -/
inductive SessionEnd where
  | unregistered
  | disconnected
  deriving DecidableEq, Repr

namespace Worker

def schedule : Backoff :=
  .new (1 / 2) 30

/-- The loop of `Worker::run`: the delays after the sessions, each with its random number.
The loop treats all sessions that ended alike. -/
def delays : Backoff → List (SessionEnd × ℚ) → List ℚ
  | _, [] => []
  | backoff, (_, draw) :: rest =>
    (backoff.nextDelay draw).1 :: delays (backoff.nextDelay draw).2 rest

def failuresSinceRegistered (history : List SessionEnd) : Nat :=
  (history.reverse.takeWhile (fun ended => ended = .unregistered)).length

theorem getElem?_delays {backoff : Backoff} (jittered : backoff.jitter = true)
    (sessions : List (SessionEnd × ℚ)) (index : Nat) :
    (delays backoff sessions)[index]? = (sessions[index]?).map
        (fun session => backoff.delayFor (backoff.attempt + index) * session.2) := by
  induction sessions generalizing backoff index with
  | nil => rfl
  | cons session rest ih =>
    obtain ⟨ended, draw⟩ := session
    rw [delays]
    cases index with
    | zero =>
      rw [List.getElem?_cons_zero, List.getElem?_cons_zero, Backoff.nextDelay, jittered]
      rfl
    | succ index =>
      have kept : (backoff.nextDelay draw).2.jitter = true := jittered
      -- the counter saturates far above the attempts that the delay depends on
      have exponent :
          min ((backoff.nextDelay draw).2.attempt + index) 32 =
            min (backoff.attempt + (index + 1)) 32 := by
        simp only [Backoff.nextDelay]
        omega
      have delay :
          (backoff.nextDelay draw).2.delayFor
              ((backoff.nextDelay draw).2.attempt + index) =
            backoff.delayFor (backoff.attempt + (index + 1)) := by
        rw [Backoff.delayFor, Backoff.delayFor, exponent]
        rfl
      rw [List.getElem?_cons_succ, List.getElem?_cons_succ, ih kept, delay]

/-- A delay with full jitter stays below a bound for every random number exactly when the
delay without jitter does. -/
theorem jittered_le_iff {delay bound : ℚ} (nonnegative : 0 ≤ bound) :
    (∀ draw, 0 ≤ draw ∧ draw < 1 → delay * draw ≤ bound) ↔ delay ≤ bound := by
  constructor
  · intro bounded
    by_contra above
    have larger : bound < delay := not_le.mp above
    have positive : 0 < delay := lt_of_le_of_lt nonnegative larger
    -- halfway between the bound and the delay
    have valid : 0 ≤ (bound + delay) / (2 * delay) ∧ (bound + delay) / (2 * delay) < 1 := by
      constructor
      · positivity
      · rw [div_lt_one (by linarith)]
        linarith
    have halfway : delay * ((bound + delay) / (2 * delay)) = (bound + delay) / 2 := by
      field_simp
    have drawn := bounded _ valid
    rw [halfway] at drawn
    linarith
  · rintro below draw ⟨positive, small⟩
    rcases le_total 0 delay with grows | shrinks
    · calc
        delay * draw ≤ delay * 1 := mul_le_mul_of_nonneg_left small.le grows
        _ = delay := mul_one delay
        _ ≤ bound := below
    · exact (mul_nonpos_of_nonpos_of_nonneg shrinks positive).trans nonnegative

theorem delayFor_schedule (attempt : Nat) :
    schedule.delayFor attempt = min (1 / 2 * 2 ^ attempt) 30 := by
  refine (Backoff.delayFor_eq_iff ?_ ?_ attempt).mpr (.inr (.inr (.inr ?_)))
  all_goals norm_num [schedule, Backoff.new]

theorem delayFor_schedule_le_iff (attempt failures : Nat) :
    schedule.delayFor attempt ≤ min (schedule.base * schedule.factor ^ failures) schedule.max ↔
      attempt ≤ failures ∨ 6 ≤ failures := by
  rw [delayFor_schedule]
  change min ((1 / 2 : ℚ) * 2 ^ attempt) 30 ≤ min ((1 / 2 : ℚ) * 2 ^ failures) 30 ↔ _
  constructor
  · intro within
    by_contra late
    have few : failures + 1 ≤ attempt ∧ failures ≤ 5 := by omega
    have capped : (2 : ℚ) ^ failures ≤ 2 ^ 5 := pow_le_pow_right₀ (by norm_num) few.2
    have doubled : (2 : ℚ) ^ failures * 2 ≤ 2 ^ attempt := by
      rw [← pow_succ]
      exact pow_le_pow_right₀ (by norm_num) few.1
    have positive : (0 : ℚ) < 2 ^ failures := by positivity
    have above : (1 / 2 : ℚ) * 2 ^ failures < min ((1 / 2 : ℚ) * 2 ^ attempt) 30 := by
      apply lt_min
      · linarith
      · linarith
    exact absurd (within.trans (min_le_left _ _)) (not_le.mpr above)
  · rintro (early | many)
    · apply min_le_min_right
      have powers : (2 : ℚ) ^ attempt ≤ 2 ^ failures := pow_le_pow_right₀ (by norm_num) early
      linarith
    · have capped : (2 : ℚ) ^ 6 ≤ 2 ^ failures := pow_le_pow_right₀ (by norm_num) many
      apply le_min
      · exact (min_le_right _ _).trans (by linarith)
      · exact min_le_right _ _

/-- The delay after a session is bounded by the sessions that have failed to register since
the last one that had, whatever random numbers are drawn, if and only if no session but the
first had registered or the bound has reached the cap. -/
theorem reconnect_delay_bounded_iff
    (history : List SessionEnd) {index : Nat} (inside : index < history.length) :
    (∀ draws : List ℚ,
        draws.length = history.length → (∀ draw ∈ draws, 0 ≤ draw ∧ draw < 1) →
          ∀ delay ∈ (delays schedule (history.zip draws))[index]?,
            delay ≤
              min
                (schedule.base *
                  schedule.factor ^ failuresSinceRegistered (history.take (index + 1)))
                schedule.max) ↔
      index ≤ failuresSinceRegistered (history.take (index + 1)) ∨
        6 ≤ failuresSinceRegistered (history.take (index + 1)) := by
  generalize failuresSinceRegistered (history.take (index + 1)) = failures
  have nonnegative : 0 ≤ min (schedule.base * schedule.factor ^ failures) schedule.max := by
    change 0 ≤ min ((1 / 2 : ℚ) * 2 ^ failures) 30
    exact le_min (by positivity) (by norm_num)
  have start : schedule.attempt + index = index := Nat.zero_add index
  rw [← delayFor_schedule_le_iff, ← jittered_le_iff nonnegative]
  constructor
  · intro bounded draw valid
    apply bounded (List.replicate history.length draw) (List.length_replicate)
    · intro other member
      rw [List.eq_of_mem_replicate member]
      exact valid
    · have session :
          (history.zip (List.replicate history.length draw))[index]? =
            some (history.get ⟨index, inside⟩, draw) := by
        rw [List.getElem?_zip_eq_some]
        simp [inside]
      rw [getElem?_delays rfl, start, session]
      rfl
  · intro bounded draws length valid delay found
    rw [getElem?_delays rfl, start] at found
    obtain ⟨session, there, rfl⟩ := Option.map_eq_some_iff.mp found
    have drawn := (List.getElem?_zip_eq_some.mp there).2
    exact bounded session.2 (valid session.2 (List.mem_of_getElem? drawn))

theorem reconnect_delay_bounded_iff_sample :
    failuresSinceRegistered [.unregistered, .unregistered, .unregistered] = 3 ∧
      ∀ draws : List ℚ, draws.length = 3 → (∀ draw ∈ draws, 0 ≤ draw ∧ draw < 1) →
        ∀ delay ∈
          (delays schedule
            ([SessionEnd.unregistered, .unregistered, .unregistered].zip draws))[2]?,
          delay ≤ min (schedule.base * schedule.factor ^ 3) schedule.max :=
  ⟨by decide,
    (reconnect_delay_bounded_iff [.unregistered, .unregistered, .unregistered]
      (by decide : 2 < 3)).mpr (by decide)⟩

/-- A session that failed to register, and one that had registered and was lost: the worker
may wait for nine tenths of a second, though the schedule starts with half a second. -/
theorem lost_session_waits_longer :
    failuresSinceRegistered [.unregistered, .disconnected] = 0 ∧
      (delays schedule [(.unregistered, 1 / 2), (.disconnected, 9 / 10)])[1]? = some (9 / 10) ∧
      min (schedule.base * schedule.factor ^ 0) schedule.max < 9 / 10 := by
  decide +kernel

end Worker

end Strobengine.Distributed
