import Strobengine.Distributed.Proto

/-!
# Worker lifecycle state machine
-/

namespace Strobengine.Distributed

inductive WorkerError where
  | config (message : String)
  | stateTransition (source target : String)
  | disconnected (message : String)
  deriving DecidableEq, Repr

def WorkerError.toText : WorkerError → String
  | .config message => "configuration error: " ++ message
  | .stateTransition source target => "invalid state transition: " ++ source ++ " -> " ++ target
  | .disconnected message => "master connection lost: " ++ message

inductive WorkerState where
  | ready
  | running
  | draining
  | error
  deriving DecidableEq, Repr

namespace WorkerState

def asProto : WorkerState → Proto.WorkerState
  | .ready => .ready
  | .running => .running
  | .draining => .draining
  | .error => .error

def asStr : WorkerState → String
  | .ready => "READY"
  | .running => "RUNNING"
  | .draining => "DRAINING"
  | .error => "ERROR"

def canTransitionTo (source next : WorkerState) : Bool :=
  match source, next with
  | .ready, .running => true
  | .ready, .draining => true
  | .ready, .error => true
  | .running, .draining => true
  | .running, .ready => true
  | .running, .error => true
  | .draining, .ready => true
  | .draining, .error => true
  | .error, .ready => true
  | .error, .draining => true
  | _, _ => false

theorem canTransitionTo_ready {source : WorkerState} (different : source ≠ .ready) :
    source.canTransitionTo .ready = true := by
  cases source with
  | ready => exact False.elim (different rfl)
  | running | draining | error => rfl

end WorkerState

structure WorkerStateMachine where
  state : WorkerState
  deriving DecidableEq, Repr

namespace WorkerStateMachine

def new : WorkerStateMachine :=
  ⟨.ready⟩

def transition (machine : WorkerStateMachine) (next : WorkerState) :
    Except WorkerError WorkerStateMachine :=
  if next = machine.state ∨ machine.state.canTransitionTo next = true then
    .ok ⟨next⟩
  else
    .error (.stateTransition machine.state.asStr next.asStr)

def setState (machine : WorkerStateMachine) (next : WorkerState) : WorkerStateMachine :=
  match machine.transition next with
  | .ok changed => changed
  | .error _ => machine

@[simp]
theorem setState_ready (machine : WorkerStateMachine) : machine.setState .ready = ⟨.ready⟩ := by
  unfold setState transition
  by_cases same : WorkerState.ready = machine.state
  · rw [if_pos (Or.inl same)]
  · rw [if_pos (Or.inr (WorkerState.canTransitionTo_ready (Ne.symm same)))]

theorem setState_running (machine : WorkerStateMachine) :
    machine.setState .running =
      if machine.state = .ready ∨ machine.state = .running then
        ⟨.running⟩
      else
        machine := by
  cases machine with
  | mk state => cases state <;> rfl

end WorkerStateMachine

end Strobengine.Distributed
