import Strobengine.Distributed.Master.Barrier
import Strobengine.Distributed.Master.Moves
import Strobengine.Foundations.Population

/-!
# Command streams in the registry

Only the health sweep changes both the status of a worker and the sender of its stream; a heartbeat
changes the status alone, opening a stream the sender alone, and closing a stream on the worker's
side neither.
-/

namespace Strobengine.Distributed.Master

open Rust Foundations

namespace Registry

def Detached (registry : Registry) : Prop :=
  ∀ workerId record,
    registry.workers.lookup workerId = some record →
      record.status = .disconnected → record.commandTx = none

theorem detached_new : Registry.new.Detached := by
  intro workerId record found
  cases found

variable {registry : Registry}

theorem Detached.insert (detached : registry.Detached)
    {record : WorkerRecord} (named : record.workerId ≠ "")
    (fresh : record.status = .disconnected → record.commandTx = none) :
    (registry.insert record named).Detached := by
  intro workerId other found disconnected
  by_cases same : workerId = record.workerId
  · subst same
    have inserted : record = other :=
      Option.some.inj ((AList.lookup_insert registry.workers).symm.trans found)
    subst inserted
    exact fresh disconnected
  · exact detached workerId other ((AList.lookup_insert_ne same).symm.trans found) disconnected

variable {workerId : String}

theorem Detached.modify (detached : registry.Detached) {change : WorkerRecord → WorkerRecord}
    (kept : ∀ record, (change record).workerId = record.workerId)
    (changed :
      ∀ record,
        registry.workers.lookup workerId = some record →
          (change record).status = .disconnected → (change record).commandTx = none) :
    (registry.modify workerId change kept).Detached := by
  intro other record found disconnected
  have looked := (HashMap.lookup_modify workerId other change registry.workers).symm.trans found
  split at looked
  · obtain ⟨before, present, result⟩ := Option.map_eq_some_iff.mp looked
    subst result
    exact changed before present disconnected
  · exact detached other record looked disconnected

variable {next : Registry}

theorem Detached.register (detached : registry.Detached)
    {request : Proto.RegisterWorkerRequest} {now : Nat}
    (registered : registry.register request now = .ok next) : next.Detached := by
  unfold Registry.register at registered
  split at registered
  · cases registered
  · split at registered
    · cases registered
    · cases registered
      exact detached.insert _ (fun _ => rfl)

theorem fromWire_eq_disconnected_iff (state : Proto.WorkerState) :
    WorkerStatus.fromWire state = .disconnected ↔ state = .unregistered := by
  cases state <;> decide

theorem Detached.recordHeartbeat (detached : registry.Detached)
    {state : Proto.WorkerState} {activeVus : Nat} {testRunId : String}
    {now : Nat} (unattached : state = .unregistered → registry.commandSender workerId = none)
    (recorded : registry.recordHeartbeat workerId state activeVus testRunId now = .ok next) :
    next.Detached := by
  unfold Registry.recordHeartbeat at recorded
  split at recorded
  · cases recorded
    apply detached.modify
    intro record present disconnected
    have sender := unattached ((fromWire_eq_disconnected_iff state).mp disconnected)
    rw [commandSender, present] at sender
    exact sender
  · cases recorded

theorem Detached.attachCommands (detached : registry.Detached) {channel : Nat}
    (connected : ∀ record ∈ registry.workers.lookup workerId, record.status ≠ .disconnected)
    (attached : registry.attachCommands workerId channel = .ok next) :
    next.Detached := by
  unfold Registry.attachCommands at attached
  split at attached
  · cases attached
    apply detached.modify
    intro record present disconnected
    exact absurd disconnected (connected record present)
  · cases attached

theorem Detached.sweep (detached : registry.Detached) (now timeout : Nat) :
    (registry.sweep now timeout).Detached := by
  intro workerId record found disconnected
  have looked :=
    (HashMap.lookup_mapValues (sweepRecord now timeout) registry.workers workerId).symm.trans
      found
  obtain ⟨before, present, swept⟩ := Option.map_eq_some_iff.mp looked
  subst swept
  unfold sweepRecord at disconnected ⊢
  split
  · rename_i already
    exact detached workerId before present already
  · rename_i connected
    split
    · rfl
    · rename_i recent
      rw [if_neg connected, if_neg recent] at disconnected
      exact absurd disconnected connected

end Registry

namespace MasterState

variable {Count : Type} [Counter Count]

/-! ## Histories without an attached stream of a disconnected worker -/

/-- A worker reports UNREGISTERED only while it has no command stream, and opens a command
stream only while it is not disconnected. -/
def attachmentGuard (state : MasterState Count) : MasterAction Count → Prop
  | .heartbeat workerId reported _ _ _ =>
    reported = .unregistered → state.registry.commandSender workerId = none
  | .watchCommands workerId =>
    ∀ record ∈ state.registry.workers.lookup workerId, record.status ≠ .disconnected
  | _ => True

omit [Counter Count] in
instance (state : MasterState Count) (action : MasterAction Count) :
    Decidable (attachmentGuard state action) := by
  unfold attachmentGuard
  split <;> infer_instance

variable {params : MasterParams} {state next : MasterState Count} {action : MasterAction Count}

theorem registry_of_move
    (move : Move params state action next) (other : action.registryHandler = false) :
    next.registry = state.registry := by
  cases move with
  | start index action call next found move => cases move <;> rfl
  | abort index call next found move => cases move <;> rfl
  | stream index action stream next found move => cases move <;> rfl
  | registry action registry handler => rw [other] at handler; cases handler
  | watchCommands => cases other
  | _ => rfl

theorem detached_of_step
    (detached : state.registry.Detached) (guarded : attachmentGuard state action)
    (taken : step params state action = some next) : next.registry.Detached := by
  cases action with
  | register =>
    simp only [step] at taken
    split at taken
    · cases taken
      exact detached
    · rename_i registry registered
      cases taken
      exact detached.register registered
  | heartbeat =>
    simp only [step] at taken
    split at taken
    · cases taken
      exact detached
    · rename_i registry recorded
      cases taken
      exact detached.recordHeartbeat guarded recorded
  | watchCommands =>
    simp only [step] at taken
    split at taken
    · cases taken
      exact detached
    · rename_i registry attached
      cases taken
      exact detached.attachCommands guarded attached
  | sweep now timeout =>
    cases taken
    exact detached.sweep now timeout
  | _ =>
    rw [registry_of_move (move_of_step taken) rfl]
    exact detached

/-- In every history in which workers report UNREGISTERED only without a command stream
and open a command stream only while not disconnected, a worker whose status is
DISCONNECTED has no command stream attached. -/
theorem disconnected_worker_has_no_stream (params : MasterParams) {state : MasterState Count}
    (reached : Reaches (step params) attachmentGuard new state)
    {workerId : String} {record : WorkerRecord}
    (found : state.registry.workers.lookup workerId = some record)
    (disconnected : record.status = .disconnected) :
    record.commandTx = none := by
  have detached : state.registry.Detached :=
    reached.invariant (fun state => state.registry.Detached)
      (fun _ _ _ detached guarded taken => detached_of_step detached guarded taken)
      Registry.detached_new
  exact detached workerId record found disconnected

theorem disconnected_worker_has_no_stream_sample :
    ∃ (state : MasterState Nat) (record : WorkerRecord),
      Reaches (step MasterParams.sample) attachmentGuard new state ∧
        state.registry.workers.lookup "w" = some record ∧
          record.status = .disconnected ∧ record.commandTx = none := by
  have run :
      ∃ state : MasterState Nat,
        Reaches (step MasterParams.sample) attachmentGuard new state ∧
          (state.registry.workers.lookup "w").map WorkerRecord.status = some .disconnected :=
    Reaches.exists_of_executeChecked (MasterAction.enrol "w" ++ [MasterAction.sweep 5000 3000])
      (by decide +kernel)
  obtain ⟨state, reached, swept⟩ := run
  obtain ⟨record, found, disconnected⟩ := Option.map_eq_some_iff.mp swept
  exact
    ⟨state, record, reached, found, disconnected,
      disconnected_worker_has_no_stream MasterParams.sample reached found disconnected⟩

omit [Counter Count] in
def streamStatus (state : MasterState Count) (workerId : String) :
    Option (WorkerStatus × Option Nat) :=
  (state.registry.workers.lookup workerId).map (fun record =>
    (record.status, record.commandTx))

/-- A worker reports UNREGISTERED while its stream is open and keeps that stream; a swept
worker opens a second stream and stays disconnected. -/
theorem disconnected_worker_keeps_stream_sample :
    (∃ state : MasterState Nat,
      Reaches (step MasterParams.sample) unguarded new state ∧
        state.streamStatus "w" = some (.disconnected, some 0)) ∧
      ∃ state : MasterState Nat,
        Reaches (step MasterParams.sample) unguarded new state ∧
          state.streamStatus "w" = some (.disconnected, some 1) :=
  ⟨Reaches.exists_of_executeChecked
      (MasterAction.enrol "w" ++ [MasterAction.heartbeat "w" .unregistered 0 "" 10])
      (by decide +kernel),
    Reaches.exists_of_executeChecked
      (MasterAction.enrol "w" ++ [MasterAction.sweep 5000 3000, .watchCommands "w"])
      (by decide +kernel)⟩

/-! ## Histories in which attached streams stay open -/

/-- A worker closes a command stream only when the registry does not hold it any more:
it was replaced by a newer one, cleared by a new registration, or dropped by a sweep. -/
def closingGuard (state : MasterState Count) : MasterAction Count → Prop
  | .closeCommands index => ∀ entry ∈ state.registry.workers.toPairs, entry.2.commandTx ≠ some index
  | _ => True

omit [Counter Count] in
instance (state : MasterState Count) (action : MasterAction Count) :
    Decidable (closingGuard state action) := by
  unfold closingGuard
  split <;> infer_instance

def Receiving (channels : List CommandChannel) (index : Nat) : Prop :=
  ∃ channel, channels[index]? = some channel ∧ channel.receiverOpen = true

def HeldOpen (state : MasterState Count) : Prop :=
  ∀ workerId index,
    state.registry.commandSender workerId = some index → Receiving state.channels index

omit [Counter Count] in
theorem heldOpen_new : HeldOpen (new : MasterState Count) := by
  intro workerId index attached
  cases attached

variable {channels : List CommandChannel} {index : Nat}

theorem Receiving.set {position : Nat}
    {channel moved : CommandChannel} (receiving : Receiving channels index)
    (found : channels[position]? = some channel)
    (kept : index = position → channel.receiverOpen = true → moved.receiverOpen = true) :
    Receiving (channels.set position moved) index := by
  obtain ⟨before, there, opened⟩ := receiving
  by_cases same : index = position
  · subst same
    have channels := Option.some.inj (there.symm.trans found)
    subst channels
    exact ⟨moved, List.getElem?_set_self (List.getElem?_eq_some_iff.mp found).1, kept rfl opened⟩
  · exact ⟨before, (List.getElem?_set_ne (Ne.symm same)).trans there, opened⟩

theorem Receiving.deliver {after : List CommandChannel} {sender : Option Nat}
    {command : Proto.CommandRequest} (receiving : Receiving channels index)
    (sent : deliver channels sender command = some after) :
    Receiving after index := by
  obtain ⟨position, channel, _, found, result⟩ := exists_of_deliver sent
  subst result
  exact receiving.set found (fun _ opened => opened)

theorem Receiving.concat (receiving : Receiving channels index)
    (channel : CommandChannel) : Receiving (channels ++ [channel]) index := by
  obtain ⟨before, there, opened⟩ := receiving
  exact ⟨before, getElem?_concat_of_some channel there, opened⟩

theorem HeldOpen.of_move (attached : HeldOpen state) (guarded : closingGuard state action)
    (move : Move params state action next) : HeldOpen next := by
  intro workerId index held
  cases move with
  | start position action call next found move =>
    cases move with
    | send now sender worker pending delivered channels phase sent =>
      exact (attached workerId index held).deliver sent
    | _ => exact attached workerId index held
  | abort position call next found move =>
    cases move with
    | send run worker pending channels sent => exact (attached workerId index held).deliver sent
    | _ => exact attached workerId index held
  | stream position action stream next found move =>
    cases move <;> exact attached workerId index held
  | registry action registry handler kept =>
    exact attached workerId index (kept workerId index held)
  | watchCommands opener registry opened =>
    rcases Registry.commandSender_attachCommands opened held with ⟨_, rfl⟩ | before
    · exact ⟨_, List.getElem?_concat_length, rfl⟩
    · exact (attached workerId index before).concat _
  | closeCommands position channel found =>
    refine (attached workerId index held).set found (fun same _ => ?_)
    obtain ⟨record, present, sender⟩ := Option.bind_eq_some_iff.mp held
    have entry : (workerId, record) ∈ state.registry.workers.toPairs :=
      (HashMap.mem_toPairs_iff _ _ _).mpr present
    exact absurd (same ▸ sender) (guarded _ entry)
  | _ => exact attached workerId index held

/-- In every history in which workers close only command streams that the registry no
longer holds, each worker that the barrier returns is READY and has a command stream whose
receiving end is open. -/
theorem barrier_returns_reachable_workers (params : MasterParams) {state : MasterState Count}
    (reached : Reaches (step params) closingGuard new state)
    {expected : Nat} {allocated : List String}
    (decided : state.registry.allocate expected = some allocated)
    {workerId : String} (returned : workerId ∈ allocated) :
    ∃ record index channel,
      state.registry.workers.lookup workerId = some record ∧
        record.status = .ready ∧ record.commandTx = some index ∧
          state.channels[index]? = some channel ∧ channel.receiverOpen = true := by
  have attached : HeldOpen state :=
    reached.invariant HeldOpen
      (fun _ _ _ attached guarded taken => attached.of_move guarded (move_of_step taken))
      heldOpen_new
  obtain ⟨record, found, free⟩ :=
    (Registry.allocates_of_allocate decided).chooses.allocatable _ returned
  rw [Registry.allocatable, Bool.and_eq_true, decide_eq_true_eq] at free
  obtain ⟨index, sender⟩ := Option.isSome_iff_exists.mp free.2
  have held : state.registry.commandSender workerId = some index := by
    rw [Registry.commandSender, found]
    exact sender
  obtain ⟨channel, there, opened⟩ := attached workerId index held
  exact ⟨record, index, channel, found, free.1, sender, there, opened⟩

theorem barrier_returns_reachable_workers_sample :
    ∃ state : MasterState Nat,
      Reaches (step MasterParams.sample) closingGuard new state ∧
        state.registry.allocate 1 = some ["w"] ∧
          ∃ record index channel,
            state.registry.workers.lookup "w" = some record ∧
              record.status = .ready ∧ record.commandTx = some index ∧
                state.channels[index]? = some channel ∧ channel.receiverOpen = true := by
  have run :
      ∃ state : MasterState Nat,
        Reaches (step MasterParams.sample) closingGuard new state ∧
          state.registry.allocate 1 = some ["w"] :=
    Reaches.exists_of_executeChecked
      (MasterAction.enrol "w" ++ [MasterAction.watchCommands "w", .closeCommands 0])
      (by decide +kernel)
  obtain ⟨state, reached, decided⟩ := run
  exact
    ⟨state, reached, decided,
      barrier_returns_reachable_workers MasterParams.sample reached decided
        (List.mem_singleton_self "w")⟩

/-- A ready worker goes away: its stream is closed, and the barrier still returns it. -/
theorem barrier_returns_unreachable_worker_sample :
    ∃ state : MasterState Nat,
      Reaches (step MasterParams.sample) unguarded new state ∧
        state.registry.allocate 1 = some ["w"] ∧
          state.registry.commandSender "w" = some 0 ∧
            state.channels.map CommandChannel.receiverOpen = [false] :=
  Reaches.exists_of_executeChecked (MasterAction.enrol "w" ++ [MasterAction.closeCommands 0])
    (by decide +kernel)

end MasterState

end Strobengine.Distributed.Master
