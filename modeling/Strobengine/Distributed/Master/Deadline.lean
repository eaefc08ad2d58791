import Strobengine.Distributed.Executor
import Strobengine.Distributed.Master.Registry
import Mathlib.Data.UInt

/-!
# The length of a run

A worker plans the length of its run from the configured duration; the master adds it to the time
of the START broadcast to get its deadline. Points in time and lengths are in nanoseconds.
-/

namespace Strobengine.Distributed

/-- The duration is proper: neither part is negative, and they are not both zero. -/
def Proto.Duration.Positive (wire : Proto.Duration) : Prop :=
  0 ≤ wire.seconds ∧ 0 ≤ wire.nanos ∧ (0 < wire.seconds ∨ 0 < wire.nanos)

def Proto.Duration.length (wire : Proto.Duration) : Nat :=
  wire.seconds.toNat * 1000000000 + wire.nanos.toNat

theorem ExecutionPlan.resolveDuration_of_positive {wire : Proto.Duration}
    (positive : wire.Positive) :
    resolveDuration (some wire) = some wire.length := by
  obtain ⟨seconds, nanos, nonzero⟩ := positive
  have kept : ¬ (wire.seconds.toNat = 0 ∧ wire.nanos.toNat = 0) := by omega
  simp only [resolveDuration, Option.bind_some, max_eq_left seconds, max_eq_left nanos,
    if_neg kept, Proto.Duration.length]

theorem ExecutionPlan.resolveDuration_eq_none_iff (duration : Option Proto.Duration) :
    resolveDuration duration = none ↔
      ∀ wire, duration = some wire → wire.seconds ≤ 0 ∧ wire.nanos ≤ 0 := by
  cases duration with
  | none => simp [resolveDuration]
  | some wire =>
    simp only [resolveDuration, Option.bind_some, ite_eq_left_iff, reduceCtorEq, imp_false,
      not_not, Option.some.injEq, forall_eq']
    omega

theorem ExecutionPlan.duration_of_fromProto {http : HttpRules} {config : Proto.TestConfiguration}
    {maxVus defaultTimeoutMs : Nat} {plan : ExecutionPlan}
    (planned : fromProto http config maxVus defaultTimeoutMs = .ok plan) :
    plan.duration = resolveDuration config.duration := by
  unfold fromProto at planned
  split at planned
  · cases planned
  · split at planned
    · cases planned
    · split at planned
      · cases planned
      · cases planned
        rfl

namespace Master

open Strobengine.Rust

/-! ## The completion deadline -/

/-- Instants lie below this bound: the seconds of the monotonic clock are a signed 64-bit
number. -/
def instantBound : Nat :=
  2 ^ 63 * 1000000000

def addDuration (instant duration : Nat) : Option Nat :=
  if instant + duration < instantBound then some (instant + duration) else none

def completionGrace : Nat :=
  5 * 1000000000

/-- The duration that `start_run` reads from the configuration; a missing one is zero. -/
def runDuration (config : Proto.TestConfiguration) : Nat :=
  config.duration.elim 0 (fun wire =>
    (max wire.seconds 0).toNat * 1000000000 + (max wire.nanos 0).toNat)

def completionDeadline (config : Proto.TestConfiguration) (now : Nat) : Option Nat :=
  (addDuration now (runDuration config)).bind (fun finished =>
    addDuration finished completionGrace)

theorem completionDeadline_of_positive {config : Proto.TestConfiguration} {wire : Proto.Duration}
    (given : config.duration = some wire) (positive : wire.Positive) {now : Nat}
    (representable : now + wire.length + completionGrace < instantBound) :
    completionDeadline config now = some (now + wire.length + completionGrace) := by
  have read : runDuration config = wire.length := by
    simp only [runDuration, given, Option.elim_some, max_eq_left positive.1,
      max_eq_left positive.2.1, Proto.Duration.length]
  have finished : now + wire.length < instantBound := by omega
  rw [completionDeadline, read, addDuration, if_pos finished, Option.bind_some,
    addDuration, if_pos representable]

/-! ## The run of the daemon -/

/-- The configuration of the daemon, as far as `validate` and the single run read it. -/
structure MasterConfig where
  bindAddress : String
  port : Nat
  heartbeatIntervalMs : Nat
  histogramBucketCount : Nat
  windowSecs : Nat
  runUrl : Option String
  runVirtualUsers : Nat
  runDurationSecs : UInt64
  deriving DecidableEq

namespace MasterConfig

def hasRunSpec (config : MasterConfig) : Bool :=
  config.runUrl.isSome

/-- `listen_addr`; `parseSocketAddr` is `str::parse::<SocketAddr>`, of which only the
error matters here. -/
def listenAddr (parseSocketAddr : String → Except String Unit) (config : MasterConfig) :
    Except MasterError Unit :=
  match parseSocketAddr (config.bindAddress ++ ":" ++ toString config.port) with
  | .ok address => .ok address
  | .error reason => .error (.config ("invalid bind address: " ++ reason))

def validate (parseSocketAddr : String → Except String Unit) (config : MasterConfig) :
    Except MasterError Unit :=
  match config.listenAddr parseSocketAddr with
  | .error reason => .error reason
  | .ok _ =>
    if config.port = 0 then
      .error (.config "port must be non-zero")
    else if config.heartbeatIntervalMs = 0 then
      .error (.config "heartbeat interval must be greater than zero")
    else if config.histogramBucketCount = 0 then
      .error (.config "histogram bucket count must be greater than zero")
    else if config.windowSecs = 0 then
      .error (.config "window seconds must be greater than zero")
    else if config.hasRunSpec then
      if config.runVirtualUsers = 0 then
        .error (.config "run virtual-users must be greater than zero")
      else if config.runDurationSecs = 0 then
        .error (.config "run duration must be greater than zero")
      else
        .ok ()
    else
      .ok ()

/-- Build the single-run test configuration from the command-line flags. The seconds are
cast to a signed number. -/
def buildTestConfig (config : MasterConfig) : Proto.TestConfiguration :=
  { targets := [⟨config.runUrl.getD ""⟩]
    duration := some { seconds := config.runDurationSecs.toInt64.toInt, nanos := 0 }
    virtualUsers := config.runVirtualUsers }

theorem runDurationSecs_ne_zero_of_validate
    {parseSocketAddr : String → Except String Unit} {config : MasterConfig}
    (valid : config.validate parseSocketAddr = .ok ()) (single : config.hasRunSpec = true) :
    config.runDurationSecs ≠ 0 := by
  unfold validate at valid
  split at valid
  · cases valid
  · intro zero
    simp only [single, zero, if_true] at valid
    repeat' split at valid
    all_goals cases valid

theorem toInt_toInt64_of_lt {seconds : UInt64} (signed : seconds.toNat < 2 ^ 63) :
    seconds.toInt64.toInt = seconds.toNat := by
  have small : 2 * seconds.toBitVec.toNat < 2 ^ 64 := by
    rw [UInt64.toNat_toBitVec]
    omega
  exact BitVec.toInt_eq_toNat_of_lt small

theorem duration_buildTestConfig
    {parseSocketAddr : String → Except String Unit} {config : MasterConfig}
    (valid : config.validate parseSocketAddr = .ok ()) (single : config.hasRunSpec = true)
    (signed : config.runDurationSecs.toNat < 2 ^ 63) :
    ∃ wire,
      config.buildTestConfig.duration = some wire ∧ wire.Positive ∧
        wire.length = config.runDurationSecs.toNat * 1000000000 := by
  have nonzero : config.runDurationSecs.toNat ≠ 0 := fun zero =>
    runDurationSecs_ne_zero_of_validate valid single (UInt64.toNat_inj.mp zero)
  have seconds := toInt_toInt64_of_lt signed
  refine ⟨_, rfl, ⟨?_, le_refl 0, Or.inl ?_⟩, ?_⟩
  · rw [seconds]
    exact Int.natCast_nonneg _
  · rw [seconds]
    exact Int.natCast_pos.mpr (Nat.pos_of_ne_zero nonzero)
  · simp only [Proto.Duration.length, seconds, Int.toNat_natCast, Int.toNat_zero, Nat.add_zero]

end MasterConfig

/-! ## Planned runs and the deadline -/

/-- A plan made from a proper duration runs for exactly that long, and the master's
deadline, when the clock can represent it, is the grace period after that, which is not before the
end of a run that a worker starts within the grace period. The plan runs until it is stopped exactly
if no part of a duration is positive. The daemon's own configuration has a proper duration when its
flag fits into a signed number. -/
theorem planned_run_ends_before_deadline
    (http : HttpRules) (parseSocketAddr : String → Except String Unit) :
    (∀ (config : Proto.TestConfiguration) (wire : Proto.Duration),
      config.duration = some wire → wire.Positive →
        (∀ maxVus defaultTimeoutMs plan,
          ExecutionPlan.fromProto http config maxVus defaultTimeoutMs = .ok plan →
            plan.duration = some wire.length) ∧
        ∀ now, now + wire.length + completionGrace < instantBound →
          ∃ deadline,
            completionDeadline config now = some deadline ∧
              deadline = now + wire.length + completionGrace ∧
                ∀ started ≤ now + completionGrace, started + wire.length ≤ deadline) ∧
      (∀ (config : Proto.TestConfiguration) maxVus defaultTimeoutMs plan,
        ExecutionPlan.fromProto http config maxVus defaultTimeoutMs = .ok plan →
          (plan.duration = none ↔
            ∀ wire, config.duration = some wire → wire.seconds ≤ 0 ∧ wire.nanos ≤ 0)) ∧
      ∀ config : MasterConfig,
        config.validate parseSocketAddr = .ok () → config.hasRunSpec = true →
          config.runDurationSecs.toNat < 2 ^ 63 →
            ∃ wire,
              config.buildTestConfig.duration = some wire ∧ wire.Positive ∧
                wire.length = config.runDurationSecs.toNat * 1000000000 := by
  refine ⟨?_, ?_, ?_⟩
  · intro config wire given positive
    constructor
    · intro maxVus defaultTimeoutMs plan planned
      rw [ExecutionPlan.duration_of_fromProto planned, given]
      exact ExecutionPlan.resolveDuration_of_positive positive
    · intro now representable
      refine ⟨_, completionDeadline_of_positive given positive representable, rfl, ?_⟩
      intro started early
      omega
  · intro config maxVus defaultTimeoutMs plan planned
    rw [ExecutionPlan.duration_of_fromProto planned]
    exact ExecutionPlan.resolveDuration_eq_none_iff config.duration
  · intro config valid single signed
    exact MasterConfig.duration_buildTestConfig valid single signed

def MasterConfig.sample (runDurationSecs : UInt64) : MasterConfig :=
  { bindAddress := "0.0.0.0"
    port := 50051
    heartbeatIntervalMs := 2000
    histogramBucketCount := 10
    windowSecs := 5
    runUrl := some "http://target/"
    runVirtualUsers := 1
    runDurationSecs }

def plannedDuration (config : Proto.TestConfiguration) : Option (Option Nat) :=
  match ExecutionPlan.fromProto .accepting config 10 5000 with
  | .ok plan => some plan.duration
  | .error _ => none

theorem planned_run_ends_before_deadline_sample :
    ∃ wire plan,
      (MasterConfig.sample 30).buildTestConfig.duration = some wire ∧
        ExecutionPlan.fromProto .accepting (MasterConfig.sample 30).buildTestConfig 10 5000 =
            .ok plan ∧
          plan.duration = some (30 * 1000000000) ∧
            completionDeadline (MasterConfig.sample 30).buildTestConfig 0 =
                some (35 * 1000000000) ∧
              ∀ started ≤ completionGrace, started + 30 * 1000000000 ≤ 35 * 1000000000 := by
  have spec := planned_run_ends_before_deadline .accepting (fun _ => .ok ())
  obtain ⟨wire, given, positive, length⟩ :=
    spec.2.2 (MasterConfig.sample 30) (by decide +kernel) rfl (by decide +kernel)
  obtain ⟨plans, deadlines⟩ := spec.1 _ wire given positive
  have thirty : wire.length = 30 * 1000000000 := length
  rw [thirty] at plans deadlines
  obtain ⟨_, computed, rfl, late⟩ := deadlines 0 (by decide +kernel)
  have accepted : (plannedDuration (MasterConfig.sample 30).buildTestConfig).isSome = true := by
    decide +kernel
  unfold plannedDuration at accepted
  split at accepted
  · rename_i plan planned
    refine ⟨wire, plan, given, planned, plans 10 5000 plan planned, computed, ?_⟩
    intro started early
    exact late started (by omega)
  · cases accepted

/-- A configuration without a duration is planned as a run until stopped. -/
theorem planned_run_is_unbounded_sample :
    plannedDuration { targets := [⟨"http://target/"⟩], virtualUsers := 1 } = some none := by
  decide +kernel

end Master

end Strobengine.Distributed
