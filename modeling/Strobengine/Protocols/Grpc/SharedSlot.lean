import Strobengine.Foundations.Emission
import Strobengine.Metrics.Request

/-!
# The shared connection of the raw HTTP/2 engine

All workers share one connection, whose send handle is in a slot behind a mutex. `clear_send`
empties the slot after a failure without looking at what it holds: a worker whose handle has failed
may find there the connection by which another worker has already replaced it.
-/

namespace Strobengine.Protocols.Grpc

open Foundations Metrics

structure SendHandle where
  connection : Nat
  connUs : Nat
  reused : Bool
  deriving DecidableEq, Repr

/-- What the workers share. Connections are numbered in the order in which they were
opened. -/
structure SharedSlot where
  send : Option Nat := none
  lockedBy : Option Nat := none
  opened : Nat := 0
  deriving DecidableEq, Repr

inductive WorkerPhase where
  | idle
  | sleeping
  /-- `get_send` waits for the lock. -/
  | locking
  /-- `get_send` connects and holds the lock. -/
  | connecting (t0 : Nat)
  /-- `poll_ready`; `send_request` follows without an await. -/
  | polling (handle : SendHandle)
  /-- `clear_send` waits for the lock. -/
  | clearing (handle : SendHandle)
  | streaming (handle : SendHandle)
  | ended
  deriving DecidableEq, Repr

inductive WorkerEvent where
  | begin (fault : Option ChaosFault)
  | woke
  | locked
  | connected
  | connectFailed
  /-- `poll_ready` or `send_request` has failed. -/
  | handleFailed
  | notBuilt
  | requested
  | finished
  | deadline
  | cancelled
  deriving DecidableEq, Repr

structure SlotAction where
  worker : Nat
  now : Nat
  event : WorkerEvent
  deriving DecidableEq, Repr

/-- A failure of `failed` has emptied the slot of what it held. -/
inductive SlotOutput where
  | cleared (failed : Nat) (removed : Option Nat)
  deriving DecidableEq, Repr

namespace SharedSlot

/-- `get_send` has the lock: the stored handle is cloned, or a connection is opened under
the lock. -/
def getSend (shared : SharedSlot) (worker now : Nat) : SharedSlot × WorkerPhase :=
  match shared.send with
  | some connection => (shared, .polling ⟨connection, 0, true⟩)
  | none => ({ shared with lockedBy := some worker }, .connecting now)

def install (shared : SharedSlot) (connUs : Nat) : SharedSlot × WorkerPhase :=
  ({ send := some shared.opened, lockedBy := none, opened := shared.opened + 1 },
    .polling ⟨shared.opened, connUs, false⟩)

def unlock (shared : SharedSlot) : SharedSlot :=
  { shared with lockedBy := none }

def drop (shared : SharedSlot) : WorkerPhase → SharedSlot
  | .connecting _ => shared.unlock
  | _ => shared

def clearSend (shared : SharedSlot) : SharedSlot :=
  { shared with send := none }

end SharedSlot

def WorkerPhase.step (shared : SharedSlot) (worker now : Nat) :
    WorkerPhase → WorkerEvent → Option ((SharedSlot × WorkerPhase) × List SlotOutput)
  | .idle, .begin fault =>
    match fault with
    | some .connectionDrop => some ((shared, .idle), [])
    | some (.latencySpike _) => some ((shared, .sleeping), [])
    | _ => some ((shared, .locking), [])
  | .sleeping, .woke => some ((shared, .locking), [])
  | .locking, .locked =>
    if shared.lockedBy.isNone then some (shared.getSend worker now, []) else none
  | .connecting t0, .connected => some (shared.install (now - t0), [])
  | .connecting _, .connectFailed => some ((shared.unlock, .idle), [])
  | .polling handle, .handleFailed => some ((shared, .clearing handle), [])
  | .polling _, .notBuilt => some ((shared, .idle), [])
  | .polling handle, .requested => some ((shared, .streaming handle), [])
  | .clearing handle, .locked =>
    if shared.lockedBy.isNone then
      some ((shared.clearSend, .idle), [.cleared handle.connection shared.send])
    else
      none
  | .streaming _, .finished => some ((shared, .idle), [])
  | .ended, _ => none
  | .idle, .deadline => none
  | phase, .deadline => some ((shared.drop phase, .idle), [])
  | phase, .cancelled => some ((shared.drop phase, .ended), [])
  | _, _ => none

structure SlotSystem where
  shared : SharedSlot
  workers : List WorkerPhase
  deriving DecidableEq, Repr

def SlotSystem.new (workers : Nat) : SlotSystem :=
  { shared := {}, workers := List.replicate workers .idle }

def SlotSystem.step : Emitting SlotSystem SlotAction SlotOutput
  | system, action =>
    match system.workers[action.worker]? with
    | none => none
    | some phase =>
      (phase.step system.shared action.worker action.now action.event).map
        (fun ((shared, moved), emitted) =>
          ({ shared, workers := system.workers.set action.worker moved }, emitted))

/-! ## What is cleared -/

def SlotOutput.Justified : SlotOutput → Prop
  | .cleared failed removed => ∀ connection ∈ removed, connection = failed

def SharedSlot.Current (shared : SharedSlot) (handle : SendHandle) : Prop :=
  ∀ connection ∈ shared.send, connection = handle.connection
  deriving Decidable

/-- A worker that is on its way to clear the slot has seen its present connection fail. -/
def WorkerPhase.Justified (shared : SharedSlot) : WorkerPhase → Prop
  | .clearing handle => shared.Current handle
  | _ => True

def WorkerPhase.isClearing : WorkerPhase → Bool
  | .clearing _ => true
  | _ => false

/-- A connection is installed only while no worker is about to clear the slot, and a handle
fails only before its connection has been replaced. -/
def WorkerPhase.calm (system : SlotSystem) : WorkerPhase → WorkerEvent → Prop
  | .connecting _, .connected => ∀ phase ∈ system.workers, phase.isClearing = false
  | .polling handle, .handleFailed => system.shared.Current handle
  | _, _ => True

instance (system : SlotSystem) (phase : WorkerPhase) (event : WorkerEvent) :
    Decidable (phase.calm system event) := by
  unfold WorkerPhase.calm
  split <;> infer_instance

def SlotSystem.calm (system : SlotSystem) (action : SlotAction) : Prop :=
  ∀ phase ∈ system.workers[action.worker]?, phase.calm system action.event
  deriving Decidable

def SlotSystem.Justified (system : SlotSystem) : Prop :=
  ∀ phase ∈ system.workers, phase.Justified system.shared

variable {phase : WorkerPhase}

theorem WorkerPhase.justified_of_not_clearing
    (other : phase.isClearing = false) (shared : SharedSlot) : phase.Justified shared := by
  cases phase with
  | clearing => cases other
  | _ => exact True.intro

theorem WorkerPhase.Justified.of_send {before after : SharedSlot}
    (justified : phase.Justified before)
    (kept : after.send = before.send ∨ after.send = none) : phase.Justified after := by
  cases phase with
  | clearing =>
    intro connection stored
    rcases kept with same | empty
    · rw [same] at stored
      exact justified connection stored
    · rw [empty] at stored
      cases stored
  | _ => exact True.intro

theorem SharedSlot.send_drop (shared : SharedSlot) (phase : WorkerPhase) :
    (shared.drop phase).send = shared.send := by
  cases phase <;> rfl

structure JustifiedStep (system : SlotSystem)
    (result : (SharedSlot × WorkerPhase) × List SlotOutput) : Prop where
  others :
    (result.1.1.send = system.shared.send ∨ result.1.1.send = none) ∨
      ∀ phase ∈ system.workers, phase.isClearing = false
  mover : result.1.2.Justified result.1.1
  outputs : ∀ output ∈ result.2, output.Justified

variable {system : SlotSystem}

theorem JustifiedStep.of_same {shared : SharedSlot} (same : shared.send = system.shared.send)
    (other : phase.isClearing = false) : JustifiedStep system ((shared, phase), []) where
  others := Or.inl (Or.inl same)
  mover := phase.justified_of_not_clearing other shared
  outputs := by
    intro output member
    cases member

theorem justified_getSend (system : SlotSystem) (worker now : Nat) :
    JustifiedStep system (system.shared.getSend worker now, []) := by
  unfold SharedSlot.getSend
  split
  · exact .of_same rfl rfl
  · exact .of_same rfl rfl

theorem justified_install (connUs : Nat)
    (quiet : ∀ phase ∈ system.workers, phase.isClearing = false) :
    JustifiedStep system (system.shared.install connUs, []) where
  others := Or.inr quiet
  mover := True.intro
  outputs := by
    intro output member
    cases member

theorem justified_clearSend {handle : SendHandle} (current : system.shared.Current handle) :
    JustifiedStep system
      ((system.shared.clearSend, .idle), [.cleared handle.connection system.shared.send]) where
  others := Or.inl (Or.inr rfl)
  mover := True.intro
  outputs := by
    intro output member
    rw [List.mem_singleton.mp member]
    exact current

theorem WorkerPhase.justified_step {worker now : Nat} {event : WorkerEvent}
    {result : (SharedSlot × WorkerPhase) × List SlotOutput}
    (justified : phase.Justified system.shared) (calm : phase.calm system event)
    (taken : phase.step system.shared worker now event = some result) :
    JustifiedStep system result := by
  unfold WorkerPhase.step at taken
  split at taken
  · split at taken <;> cases taken <;> exact .of_same rfl rfl
  · cases taken
    exact .of_same rfl rfl
  · split at taken <;> cases taken
    exact justified_getSend system worker now
  · cases taken
    exact justified_install _ calm
  · cases taken
    exact .of_same rfl rfl
  · -- the handle fails
    cases taken
    exact ⟨Or.inl (Or.inl rfl), calm, fun output member => by cases member⟩
  · cases taken
    exact .of_same rfl rfl
  · cases taken
    exact .of_same rfl rfl
  · split at taken <;> cases taken
    exact justified_clearSend justified
  · cases taken
    exact .of_same rfl rfl
  · cases taken
  · cases taken
  · cases taken
    exact .of_same (system.shared.send_drop _) rfl
  · cases taken
    exact .of_same (system.shared.send_drop _) rfl
  · cases taken

theorem SlotSystem.Justified.of_step
    {system next : SlotSystem} {action : SlotAction} {emitted : List SlotOutput}
    (justified : system.Justified) (calm : system.calm action)
    (taken : step system action = some (next, emitted)) :
    next.Justified ∧ ∀ output ∈ emitted, output.Justified := by
  dsimp only [step] at taken
  cases found : system.workers[action.worker]? with
  | none => simp [found] at taken
  | some phase =>
    rw [found] at taken
    obtain ⟨⟨⟨shared, moved⟩, outputs⟩, acted, same⟩ := Option.map_eq_some_iff.mp taken
    cases same
    have member : phase ∈ system.workers := List.mem_of_getElem? found
    have result := WorkerPhase.justified_step (justified phase member) (calm phase found) acted
    refine ⟨?_, result.outputs⟩
    apply forall_mem_set
    · intro other present
      rcases result.others with kept | quiet
      · exact (justified other present).of_send kept
      · exact other.justified_of_not_clearing (quiet other present) shared
    · exact result.mover

/-- In every calm run, a failure empties the slot only of the connection that has failed. -/
theorem failures_clear_own_connection {workers : Nat} {run : Tracked SlotSystem SlotOutput}
    (reached :
      Reaches (Tracked.step SlotSystem.step) (Tracked.guardOn SlotSystem.calm)
        (.start (SlotSystem.new workers)) run) :
    ∀ output ∈ run.log, output.Justified := by
  have initially : (SlotSystem.new workers).Justified := by
    intro phase member
    rw [List.eq_of_mem_replicate member]
    exact True.intro
  exact
    Tracked.forall_log SlotSystem.Justified SlotOutput.Justified
      (fun _ _ _ _ justified calm taken => justified.of_step calm taken) initially reached

def sharedByTwo : List SlotAction :=
  [⟨0, 0, .begin none⟩, ⟨1, 0, .begin none⟩, ⟨0, 1, .locked⟩, ⟨0, 2, .connected⟩, ⟨1, 3, .locked⟩]

theorem failures_clear_own_connection_sample :
    ∃ run : Tracked SlotSystem SlotOutput,
      Reaches (Tracked.step SlotSystem.step) (Tracked.guardOn SlotSystem.calm)
          (.start (SlotSystem.new 2)) run ∧
        run.log = [.cleared 0 (some 0), .cleared 0 none] ∧
        run.state.shared.send = some 1 ∧
        ∀ output ∈ run.log, output.Justified :=
  Reaches.exists_and₂_of_executeChecked
    (sharedByTwo ++ [⟨0, 4, .handleFailed⟩, ⟨1, 5, .handleFailed⟩, ⟨0, 6, .locked⟩, ⟨1, 7, .locked⟩,
        ⟨0, 8, .begin none⟩, ⟨0, 9, .locked⟩, ⟨0, 10, .connected⟩])
    (by decide +kernel) (fun _ reached _ _ => failures_clear_own_connection reached)

/-- Both fail on the first connection. The first worker clears the slot and connects again
before the second one clears it. -/
theorem late_failure_clears_new_connection :
    ∃ run : Tracked SlotSystem SlotOutput,
      Reaches (Tracked.step SlotSystem.step) unguarded (.start (SlotSystem.new 2)) run ∧
        run.log = [.cleared 0 (some 0), .cleared 0 (some 1)] ∧
        ¬ ∀ output ∈ run.log, output.Justified := by
  refine
    Reaches.exists_and_of_executeChecked
      (sharedByTwo ++
        [⟨0, 4, .handleFailed⟩, ⟨1, 5, .handleFailed⟩, ⟨0, 6, .locked⟩, ⟨0, 7, .begin none⟩,
          ⟨0, 8, .locked⟩, ⟨0, 9, .connected⟩, ⟨1, 10, .locked⟩])
      (by decide +kernel) (fun _ _ log justified => ?_)
  have newer := justified (.cleared 0 (some 1)) (by simp [log])
  exact absurd (newer 1 rfl) (by decide)

end Strobengine.Protocols.Grpc
