import Strobengine.Foundations.Execution
import Strobengine.Metrics.System

/-!
# The resource monitor

A thread takes a sample after every tick and offers it to a bounded channel, which drops what does
not fit. `execute_test` receives only after it has cancelled the thread, so a run that takes more
samples than the channel holds loses them.
-/

namespace Strobengine.Local

open Foundations Metrics Rust

def maxSampleIntervalMs : Nat :=
  86400000

structure ProcessReading where
  cpuUsage : Float64
  memory : Nat
  threads : Nat
  openFds : Option Nat
  deriving DecidableEq, Repr

inductive SamplerThread where
  | seeding
  | sleeping (deadline : Nat)
  | refreshing
  | reading
  | sending (sample : ResourceSample)
  | stopped
  deriving DecidableEq, Repr

@[simp] def SamplerThread.inFlight : SamplerThread → List ResourceSample
  | sending sample => [sample]
  | seeding | sleeping _ | refreshing | reading | stopped => []

inductive Collector where
  | running
  | collecting
  | done
  deriving DecidableEq, Repr

/-- The monitor of a run, with times in microseconds. The samples that were taken before the
cancellation are history. -/
structure Monitor where
  tick : Nat
  capacity : Nat
  clock : Nat
  startedAt : Nat
  thread : SamplerThread
  cancelled : Bool
  channel : List ResourceSample
  dropped : Nat
  collector : Collector
  samples : List ResourceSample
  taken : List ResourceSample
  deriving DecidableEq, Repr

inductive MonitorEvent where
  | seeded (pidKnown : Bool)
  | poll
  | refreshed
  | read (reading : Option ProcessReading)
  | offered
  | cancel
  | received
  | closed
  deriving DecidableEq, Repr

structure MonitorAction where
  now : Nat
  event : MonitorEvent
  deriving DecidableEq, Repr

namespace Monitor

def spawned (now tick capacity : Nat) : Monitor :=
  { tick
    capacity
    clock := now
    startedAt := now
    thread := .seeding
    cancelled := false
    channel := []
    dropped := 0
    collector := .running
    samples := []
    taken := [] }

def startWithCapacity (now intervalMs capacity : Nat) : Option Monitor :=
  if intervalMs = 0 then
    none
  else
    some (spawned now (min intervalMs maxSampleIntervalMs * 1000) (max capacity 1))

def start (now intervalMs : Nat) : Option Monitor :=
  startWithCapacity now intervalMs 256

def sleep (monitor : Monitor) : Monitor :=
  { monitor with thread := .sleeping (monitor.clock + monitor.tick) }

def sample (monitor : Monitor) (reading : ProcessReading) : Monitor :=
  let sample : ResourceSample :=
    { timestampUs := monitor.clock - monitor.startedAt
      cpuUsagePercent := reading.cpuUsage
      memoryRssBytes := reading.memory
      threadCount := reading.threads
      openFds := reading.openFds }
  { monitor with
    thread := .sending sample
    taken := if monitor.cancelled then monitor.taken else monitor.taken ++ [sample] }

def offer (monitor : Monitor) (sample : ResourceSample) : Monitor :=
  if monitor.channel.length < monitor.capacity then
    { monitor with channel := monitor.channel ++ [sample] }
  else
    { monitor with dropped := monitor.dropped + 1 }

def advance (monitor : Monitor) : MonitorEvent → Option Monitor
  | .seeded pidKnown =>
    match monitor.thread with
    | .seeding =>
      if pidKnown then
        some (sleep { monitor with startedAt := monitor.clock })
      else
        some { monitor with thread := .stopped }
    | _ => none
  -- one round of `sleep_until_cancelled`
  | .poll =>
    match monitor.thread with
    | .sleeping deadline =>
      if monitor.cancelled then
        some { monitor with thread := .stopped }
      else if deadline ≤ monitor.clock then
        some { monitor with thread := .refreshing }
      else
        some monitor
    | _ => none
  | .refreshed =>
    match monitor.thread with
    | .refreshing =>
      if monitor.cancelled then
        some { monitor with thread := .stopped }
      else
        some { monitor with thread := .reading }
    | _ => none
  | .read reading =>
    match monitor.thread, reading with
    | .reading, none => some monitor.sleep
    | .reading, some reading => some (monitor.sample reading)
    | _, _ => none
  | .offered =>
    match monitor.thread with
    | .sending sample => some (monitor.offer sample).sleep
    | _ => none
  | .cancel =>
    match monitor.collector with
    | .running => some { monitor with collector := .collecting, cancelled := true }
    | _ => none
  | .received =>
    match monitor.collector, monitor.channel with
    | .collecting, sample :: rest =>
      some { monitor with channel := rest, samples := monitor.samples ++ [sample] }
    | _, _ => none
  -- the channel is closed when the thread has dropped its sender
  | .closed =>
    match monitor.collector, monitor.channel, monitor.thread with
    | .collecting, [], .stopped => some { monitor with collector := .done }
    | _, _, _ => none

def step (monitor : Monitor) (action : MonitorAction) : Option Monitor :=
  if monitor.clock ≤ action.now then
    advance { monitor with clock := action.now } action.event
  else
    none

def systemMetrics (monitor : Monitor) : Option SystemMetrics :=
  if monitor.samples.isEmpty then none else some (SystemMetrics.fromSamples monitor.samples)

inductive Moves (monitor : Monitor) : MonitorEvent → Monitor → Prop where
  | seeds (seeding : monitor.thread = .seeding) :
      Moves monitor (.seeded true) (sleep { monitor with startedAt := monitor.clock })
  | stops {event : MonitorEvent} (idle : monitor.thread.inFlight = []) :
      Moves monitor event { monitor with thread := .stopped }
  | sleeps : Moves monitor .poll monitor
  | wakes {deadline : Nat} (sleeping : monitor.thread = .sleeping deadline)
      (passed : deadline ≤ monitor.clock) :
      Moves monitor .poll { monitor with thread := .refreshing }
  | refreshes (refreshing : monitor.thread = .refreshing) :
      Moves monitor .refreshed { monitor with thread := .reading }
  | misses (reading : monitor.thread = .reading) : Moves monitor (.read none) monitor.sleep
  | samples {reading : ProcessReading} (thread : monitor.thread = .reading) :
      Moves monitor (.read (some reading)) (monitor.sample reading)
  | offers {sample : ResourceSample} (sending : monitor.thread = .sending sample) :
      Moves monitor .offered (monitor.offer sample).sleep
  | cancels : Moves monitor .cancel { monitor with collector := .collecting, cancelled := true }
  | receives {sample : ResourceSample} {rest : List ResourceSample}
      (channel : monitor.channel = sample :: rest) :
      Moves monitor .received
        { monitor with channel := rest, samples := monitor.samples ++ [sample] }
  | closes (empty : monitor.channel = []) (stopped : monitor.thread = .stopped) :
      Moves monitor .closed { monitor with collector := .done }

variable {event : MonitorEvent}

theorem moves_of_advance {monitor next : Monitor}
    (advanced : monitor.advance event = some next) : monitor.Moves event next := by
  cases event with
  | seeded pidKnown =>
    simp only [advance] at advanced
    split at advanced
    · rename_i seeding
      cases pidKnown <;> cases advanced
      · exact .stops (by rw [seeding, SamplerThread.inFlight])
      · exact .seeds seeding
    · cases advanced
  | poll =>
    simp only [advance] at advanced
    split at advanced
    · rename_i sleeping
      split at advanced
      · cases advanced
        exact .stops (by rw [sleeping, SamplerThread.inFlight])
      · split at advanced <;> cases advanced
        · rename_i passed
          exact .wakes sleeping passed
        · exact .sleeps
    · cases advanced
  | refreshed =>
    simp only [advance] at advanced
    split at advanced
    · rename_i refreshing
      split at advanced <;> cases advanced
      · exact .stops (by rw [refreshing, SamplerThread.inFlight])
      · exact .refreshes refreshing
    · cases advanced
  | read reading =>
    simp only [advance] at advanced
    split at advanced <;> cases advanced
    · rename_i reading
      exact .misses reading
    · rename_i reading
      exact .samples reading
  | offered =>
    simp only [advance] at advanced
    split at advanced <;> cases advanced
    rename_i sending
    exact .offers sending
  | cancel =>
    simp only [advance] at advanced
    split at advanced <;> cases advanced
    exact .cancels
  | received =>
    simp only [advance] at advanced
    split at advanced <;> cases advanced
    rename_i channel
    exact .receives channel
  | closed =>
    simp only [advance] at advanced
    split at advanced <;> cases advanced
    rename_i empty stopped
    exact .closes empty stopped

variable {action : MonitorAction}

theorem moves_of_step {monitor next : Monitor} (taken : monitor.step action = some next) :
    monitor.clock ≤ action.now ∧ Moves { monitor with clock := action.now } action.event next := by
  unfold step at taken
  split at taken
  · rename_i later
    exact ⟨later, moves_of_advance taken⟩
  · cases taken

/-! ## Samples on their way -/

def held (monitor : Monitor) : List ResourceSample :=
  monitor.samples ++ monitor.channel ++ monitor.thread.inFlight

/-- A sample is taken only while fewer have been taken than the channel holds, or after the
cancellation. -/
def roomy (monitor : Monitor) (action : MonitorAction) : Prop :=
  match monitor.thread, action.event with
  | .reading, .read (some _) => monitor.cancelled = true ∨ monitor.taken.length < monitor.capacity
  | _, _ => True

instance (monitor : Monitor) (action : MonitorAction) : Decidable (monitor.roomy action) := by
  unfold roomy
  split <;> infer_instance

/-- No sample that was taken before the cancellation is lost. -/
structure Keeps (monitor : Monitor) : Prop where
  whole : monitor.cancelled = false → monitor.held = monitor.taken
  kept : monitor.taken <+: monitor.held
  few : monitor.taken.length ≤ monitor.capacity

variable {monitor next : Monitor}

theorem Keeps.of_same (keeps : monitor.Keeps)
    (held : next.held = monitor.held) (taken : next.taken = monitor.taken)
    (capacity : next.capacity = monitor.capacity)
    (cancelled : next.cancelled = false → monitor.cancelled = false) : next.Keeps := by
  refine ⟨fun uncancelled => ?_, ?_, ?_⟩
  · rw [held, taken]
    exact keeps.whole (cancelled uncancelled)
  · rw [held, taken]
    exact keeps.kept
  · rw [taken, capacity]
    exact keeps.few

theorem Keeps.sample (keeps : monitor.Keeps) (reading : ProcessReading)
    (idle : monitor.thread.inFlight = [])
    (room : monitor.cancelled = true ∨ monitor.taken.length < monitor.capacity) :
    (monitor.sample reading).Keeps := by
  have before : monitor.held = monitor.samples ++ monitor.channel := by
    rw [held, idle, List.append_nil]
  cases cancelled : monitor.cancelled with
  | true =>
    have taken : (monitor.sample reading).taken = monitor.taken := by
      simp [Monitor.sample, cancelled]
    refine ⟨fun uncancelled => ?_, ?_, ?_⟩
    · have same : monitor.cancelled = false := uncancelled
      rw [cancelled] at same
      cases same
    · rw [taken]
      exact (before ▸ keeps.kept).trans (List.prefix_append _ _)
    · rw [taken]
      exact keeps.few
  | false =>
    have fewer : monitor.taken.length < monitor.capacity := by simpa [cancelled] using room
    have whole : (monitor.sample reading).held = (monitor.sample reading).taken := by
      have same := keeps.whole cancelled
      rw [before] at same
      simp [Monitor.sample, held, cancelled, ← same]
    refine ⟨fun _ => whole, by rw [whole], ?_⟩
    have length : (monitor.sample reading).taken.length = monitor.taken.length + 1 := by
      simp [Monitor.sample, cancelled]
    rw [length]
    exact fewer

theorem Keeps.offer (keeps : monitor.Keeps) {sample : ResourceSample}
    (sending : monitor.thread = .sending sample) :
    (monitor.offer sample).sleep.Keeps := by
  have before : monitor.held = monitor.samples ++ monitor.channel ++ [sample] := by
    rw [held, sending, SamplerThread.inFlight]
  unfold Monitor.offer
  by_cases room : monitor.channel.length < monitor.capacity
  · rw [if_pos room]
    refine keeps.of_same ?_ rfl rfl (fun same => same)
    rw [before]
    simp [held, sleep]
  · rw [if_neg room]
    have few := keeps.few
    have kept : monitor.taken <+: monitor.samples ++ monitor.channel := by
      apply List.prefix_of_prefix_length_le (before ▸ keeps.kept) (List.prefix_append _ _)
      rw [List.length_append]
      omega
    refine ⟨fun uncancelled => ?_, ?_, few⟩
    · -- then everything held was taken, and that is too much for a full channel
      have lengths := congrArg List.length (keeps.whole uncancelled)
      rw [before, List.length_append, List.length_append, List.length_singleton] at lengths
      omega
    · simpa [held, sleep] using kept

theorem Keeps.of_moves (keeps : monitor.Keeps)
    (room : monitor.roomy action) (moves : monitor.Moves action.event next) : next.Keeps := by
  obtain ⟨now, event⟩ := action
  cases moves with
  | seeds | misses => exact keeps.of_same (by simp [held, sleep, *]) rfl rfl (fun same => same)
  | stops idle => exact keeps.of_same (by rw [held, held, idle]; rfl) rfl rfl (fun same => same)
  | sleeps => exact keeps
  | wakes | refreshes | receives =>
    exact keeps.of_same (by simp [held, *]) rfl rfl (fun same => same)
  | samples thread =>
    refine keeps.sample _ (by rw [thread, SamplerThread.inFlight]) ?_
    simpa [roomy, thread] using room
  | offers sending => exact keeps.offer sending
  | cancels => exact keeps.of_same rfl rfl rfl (by simp)
  | closes => exact keeps.of_same rfl rfl rfl (fun same => same)

/-- The test is done only when the thread has stopped and the channel is empty. -/
def Settled (monitor : Monitor) : Prop :=
  monitor.collector = .done → monitor.channel = [] ∧ monitor.thread = .stopped

theorem Settled.collector_ne_done (settled : monitor.Settled)
    (running : monitor.thread ≠ .stopped) : monitor.collector ≠ .done :=
  fun done => running (settled done).2

@[simp]
theorem collector_offer (monitor : Monitor) (sample : ResourceSample) :
    (monitor.offer sample).collector = monitor.collector := by
  unfold offer
  split <;> rfl

theorem Settled.of_moves (settled : monitor.Settled)
    (moves : monitor.Moves event next) : next.Settled := by
  intro done
  cases moves with
  | stops => exact ⟨(settled done).1, rfl⟩
  | sleeps => exact settled done
  | cancels => cases done
  | receives channel =>
    have empty := (settled done).1
    rw [channel] at empty
    cases empty
  | closes empty stopped => exact ⟨empty, stopped⟩
  | offers sending =>
    rw [sleep, collector_offer] at done
    exact absurd done (settled.collector_ne_done (by simp [sending]))
  -- all other moves are those of a thread that has not stopped
  | seeds thread | wakes thread _ | refreshes thread | misses thread | samples thread =>
    exact absurd done (settled.collector_ne_done (by simp [thread]))

variable {now : Nat}

theorem start_eq_some {intervalMs : Nat} (started : start now intervalMs = some monitor) :
    monitor.Keeps ∧ monitor.Settled := by
  unfold start startWithCapacity at started
  split at started
  · cases started
  · cases started
    exact ⟨⟨fun _ => rfl, List.prefix_refl _, Nat.zero_le _⟩, fun done => by cases done⟩

theorem Keeps.of_step (keeps : monitor.Keeps)
    (room : monitor.roomy action) (taken : monitor.step action = some next) : next.Keeps := by
  have later : Keeps { monitor with clock := action.now } := ⟨keeps.whole, keeps.kept, keeps.few⟩
  exact later.of_moves room (moves_of_step taken).2

theorem Settled.of_step (settled : monitor.Settled)
    (taken : monitor.step action = some next) : next.Settled := by
  have later : Settled { monitor with clock := action.now } := settled
  exact later.of_moves (moves_of_step taken).2

/-- The test is over before the thread can have taken more samples than the channel holds. -/
def brief (monitor : Monitor) (action : MonitorAction) : Prop :=
  monitor.cancelled = true ∨ action.now < monitor.startedAt + (monitor.capacity + 1) * monitor.tick

instance (monitor : Monitor) (action : MonitorAction) : Decidable (monitor.brief action) :=
  inferInstanceAs (Decidable (_ ∨ _))

def Paced (monitor : Monitor) : Prop :=
  match monitor.thread with
  | .seeding => monitor.taken = []
  | .sleeping deadline => monitor.startedAt + (monitor.taken.length + 1) * monitor.tick ≤ deadline
  | .refreshing | .reading =>
    monitor.startedAt + (monitor.taken.length + 1) * monitor.tick ≤ monitor.clock
  | .sending _ => monitor.startedAt + monitor.taken.length * monitor.tick ≤ monitor.clock
  | .stopped => True

theorem Paced.sleep
    (paced : monitor.startedAt + monitor.taken.length * monitor.tick ≤ monitor.clock) :
    monitor.sleep.Paced := by
  have next := Nat.add_one_mul monitor.taken.length monitor.tick
  simp only [Paced, Monitor.sleep]
  omega

theorem Paced.sample (reading : ProcessReading)
    (paced : monitor.startedAt + (monitor.taken.length + 1) * monitor.tick ≤ monitor.clock) :
    (monitor.sample reading).Paced := by
  have next := Nat.add_one_mul monitor.taken.length monitor.tick
  simp only [Paced, Monitor.sample]
  split
  · omega
  · rw [List.length_append, List.length_singleton]
    exact paced

theorem Paced.of_moves (paced : monitor.Paced) (moves : monitor.Moves event next) : next.Paced := by
  have tick := Nat.add_one_mul monitor.taken.length monitor.tick
  unfold Paced at paced
  cases moves with
  | seeds seeding =>
    rw [seeding] at paced
    exact Paced.sleep (by simp [paced])
  | stops => exact True.intro
  | sleeps | cancels | receives | closes => exact paced
  | wakes sleeping passed =>
    rw [sleeping] at paced
    exact paced.trans passed
  | refreshes refreshing =>
    rw [refreshing] at paced
    exact paced
  | misses reading =>
    rw [reading] at paced
    exact Paced.sleep (by omega)
  | samples thread =>
    rw [thread] at paced
    exact Paced.sample _ paced
  | offers sending =>
    rw [sending] at paced
    unfold offer
    split <;> exact Paced.sleep paced

theorem Paced.later (paced : monitor.Paced) (later : monitor.clock ≤ now) :
    Paced { monitor with clock := now } := by
  unfold Paced at *
  split <;> simp_all <;> omega

theorem Paced.of_step (paced : monitor.Paced)
    (short : monitor.brief action) (taken : monitor.step action = some next) :
    monitor.roomy action ∧ next.Paced := by
  obtain ⟨later, moves⟩ := moves_of_step taken
  refine ⟨?_, (paced.later later).of_moves moves⟩
  unfold roomy
  split
  · rename_i reading _
    simp only [Paced, reading] at paced
    rcases short with cancelled | early
    · exact Or.inl cancelled
    · right
      have fewer : monitor.taken.length + 1 < monitor.capacity + 1 :=
        Nat.lt_of_mul_lt_mul_right (a := monitor.tick) (by omega)
      omega
  · exact True.intro

/-- A run that takes no more samples than the channel holds reports all of them, and its
peaks are those of the whole run. -/
theorem samples_reported {now intervalMs : Nat} (started : start now intervalMs = some monitor)
    (run : Reaches step roomy monitor next) (done : next.collector = .done) :
    next.taken <+: next.samples ∧
      (next.taken ≠ [] →
        ∃ metrics, next.systemMetrics = some metrics ∧
          (∀ sample ∈ next.taken, sample ∈ metrics.timeSeries) ∧ metrics.Peaks) := by
  have holds : next.Keeps ∧ next.Settled := by
    apply Reaches.invariant (fun monitor => monitor.Keeps ∧ monitor.Settled) ?_
      (start_eq_some started) run
    rintro monitor action next ⟨keeps, settled⟩ room taken
    exact ⟨keeps.of_step room taken, settled.of_step taken⟩
  obtain ⟨keeps, settled⟩ := holds
  obtain ⟨empty, stopped⟩ := settled done
  have held : next.held = next.samples := by simp [held, empty, stopped]
  have kept : next.taken <+: next.samples := held ▸ keeps.kept
  refine ⟨kept, fun some => ?_⟩
  have nonempty : next.samples ≠ [] := by
    intro none
    rw [none] at kept
    exact some (List.prefix_nil.mp kept)
  refine ⟨SystemMetrics.fromSamples next.samples, ?_, ?_, SystemMetrics.peaks_fromSamples _⟩
  · rw [systemMetrics, if_neg (by simpa using nonempty)]
  · intro sample member
    rw [SystemMetrics.timeSeries_fromSamples]
    exact kept.subset member

def round (now memory : Nat) : List MonitorAction :=
  [⟨now, .poll⟩, ⟨now, .refreshed⟩,
    ⟨now, .read (some { cpuUsage := .finite 5, memory, threads := 4, openFds := none })⟩,
    ⟨now, .offered⟩]

def shutdown (now received : Nat) : List MonitorAction :=
  ⟨now, .cancel⟩ :: List.replicate received ⟨now, .received⟩ ++ [⟨now, .poll⟩, ⟨now, .closed⟩]

theorem samples_reported_sample :
    ∃ next, start 0 1000 = some (spawned 0 1000000 256) ∧
      Reaches step roomy (spawned 0 1000000 256) next ∧ next.collector = .done ∧
        next.taken.length = 3 ∧ next.taken <+: next.samples := by
  obtain ⟨next, run, done, three⟩ :
      ∃ next, Reaches step roomy (spawned 0 1000000 256) next ∧
        next.collector = .done ∧ next.taken.length = 3 :=
    Reaches.exists_of_executeChecked
      (⟨0, .seeded true⟩ :: round 1000000 100 ++ round 2000000 300 ++ round 3000000 200 ++
        shutdown 3500000 3)
      (by decide +kernel)
  have started : start 0 1000 = some (spawned 0 1000000 256) := rfl
  exact ⟨next, started, run, done, three, (samples_reported started run done).1⟩

def longRun : List MonitorAction :=
  ⟨0, .seeded true⟩ ::
    (List.range 257).flatMap (fun index => round ((index + 1) * 1000000) (index + 1)) ++
      shutdown 257500000 256

/-- The channel is full after 256 seconds; the next sample, with the most memory, is lost. -/
theorem last_sample_lost :
    ∃ next, start 0 1000 = some (spawned 0 1000000 256) ∧
      Reaches step unguarded (spawned 0 1000000 256) next ∧ next.collector = .done ∧
        ∃ sample ∈ next.taken, sample ∉ next.samples ∧
          ∃ metrics, next.systemMetrics = some metrics ∧
            metrics.peakMemoryRssBytes < sample.memoryRssBytes := by
  obtain ⟨next, run, done, ⟨sample, taken, memory⟩, nonempty, peak⟩ :
      ∃ next, Reaches step unguarded (spawned 0 1000000 256) next ∧
        next.collector = .done ∧
          (∃ sample ∈ next.taken, sample.memoryRssBytes = 257) ∧
            next.samples.isEmpty = false ∧
              (SystemMetrics.fromSamples next.samples).peakMemoryRssBytes < 257 :=
    Reaches.exists_of_executeChecked longRun (by decide +kernel)
  have lost : sample ∉ next.samples := by
    intro member
    rw [← SystemMetrics.timeSeries_fromSamples next.samples] at member
    have below := (SystemMetrics.peaks_fromSamples next.samples).memory sample member
    omega
  refine ⟨next, rfl, run, done, sample, taken, lost, SystemMetrics.fromSamples next.samples, ?_, ?_⟩
  · rw [systemMetrics, if_neg (by simp [nonempty])]
  · rw [memory]
    exact peak

end Monitor

end Strobengine.Local
