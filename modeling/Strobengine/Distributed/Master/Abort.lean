import Strobengine.Distributed.Master.Ownership
import Strobengine.Foundations.Sequence

/-!
# An `abort` that races with the START broadcast

`start_run` installs its run, releases the lock and only then sends START to one worker after the
other. If `abort` visits a worker in between, the worker receives ABORT first and START second, and
goes on with a run that the master no longer knows.
-/

namespace Strobengine.Distributed.Master

open Rust Foundations

def isStartOf (runId : String) (command : Proto.CommandRequest) : Bool :=
  command.command = .start ∧ command.testRunId = runId

def isAbortOf (runId : String) (command : Proto.CommandRequest) : Bool :=
  command.command = .abort ∧ command.testRunId = runId

/-- On this channel, the START of the run is followed by an ABORT of the run. -/
def CommandChannel.AbortFollows (channel : CommandChannel) (runId : String) : Prop :=
  Answered (isStartOf runId) (isAbortOf runId) channel.sent
  deriving Decidable

namespace StartPhase

variable {Count : Type}

def unsent : StartPhase Count → List String
  | .broadcasting pending _ => pending
  | .sendingStart _ worker pending _ => worker :: pending
  | _ => []

end StartPhase

namespace AbortCall

def outstanding : AbortCall → Option (ActiveRun × List String)
  | .shutting run => some (run, run.allocated)
  | .broadcasting run pending => some (run, pending)
  | .returned (some run) => some (run, [])
  | _ => none

def visiting : AbortCall → Option (String × String)
  | .broadcasting run (worker :: _) => some (run.runId, worker)
  | _ => none

def removed : AbortCall → Option ActiveRun
  | .returned removed => removed
  | _ => none

end AbortCall

namespace MasterState

variable {Count : Type} [Counter Count]

section Guards

omit [Counter Count]

def oneStart (state : MasterState Count) : MasterAction Count → Prop
  | .beginStart _ _ => state.starts.length = 0
  | _ => True

def Passed (state : MasterState Count) (worker : String) : Prop :=
  ∀ call ∈ state.starts, worker ∉ call.phase.unsent
  deriving Decidable

/-- Every channel on which the worker was sent the START of the run is attached and
open. -/
def Attached (state : MasterState Count) (runId worker : String) : Prop :=
  ∀ index < state.channels.length, ∀ channel ∈ state.channels[index]?,
    channel.worker = worker → channel.sent.any (isStartOf runId) = true →
      state.registry.commandSender worker = some index ∧ channel.receiverOpen = true

/-- There is one `start_run` call, and `abort` visits a worker only after the broadcast
has passed it and while the channel of its START is in use. -/
def abortGuard (state : MasterState Count) (action : MasterAction Count) : Prop :=
  state.oneStart action ∧ match action with
    | .abort index =>
      ∀ call ∈ state.aborts[index]?, ∀ visit ∈ call.visiting,
        state.Passed visit.2 ∧ state.Attached visit.1 visit.2
    | _ => True

instance (state : MasterState Count) (action : MasterAction Count) :
    Decidable (state.oneStart action) := by
  unfold oneStart
  rcases action with _ | _ <;> dsimp only <;> infer_instance

instance (state : MasterState Count) (runId worker : String) :
    Decidable (state.Attached runId worker) := by
  unfold Attached
  infer_instance

instance (state : MasterState Count) (action : MasterAction Count) :
    Decidable (state.abortGuard action) := by
  unfold abortGuard
  rcases action with _ | _ <;> dsimp only <;> infer_instance

end Guards

section Invariant

omit [Counter Count]

def ChannelOf (channels : List CommandChannel) (index : Nat) (worker : String) : Prop :=
  ∃ channel, channels[index]? = some channel ∧ channel.worker = worker

/-- The START of the run is answered everywhere, except for the workers listed, which
`abort` has yet to visit; all those that are still to be sent START are among them. -/
structure Covered (state : MasterState Count) (runId : String) (pending : List String) : Prop where
  started : state.starts ≠ []
  calls :
    ∀ call ∈ state.starts,
      call.phase.unstarted = false ∧ call.config.testRunId = runId ∧
        ∀ worker ∈ call.phase.unsent, worker ∈ pending
  channels : ∀ channel ∈ state.channels, channel.worker ∈ pending ∨ channel.AbortFollows runId

structure Broadcasts (state : MasterState Count) : Prop where
  one : state.starts.length ≤ 1
  senders :
    ∀ worker index,
      state.registry.commandSender worker = some index → ChannelOf state.channels index worker
  sending :
    ∀ call ∈ state.starts, ∀ index worker pending delivered,
      call.phase = .sendingStart (some index) worker pending delivered →
        ChannelOf state.channels index worker
  silent :
    (∀ call ∈ state.starts, call.phase.unstarted = true) →
      ∀ channel ∈ state.channels, ∀ command ∈ channel.sent, command.command ≠ .start
  slot : ∀ run, state.run = some run → Covered state run.runId run.allocated
  aborting :
    ∀ call ∈ state.aborts, ∀ run pending,
      call.outstanding = some (run, pending) → Covered state run.runId pending

variable {state next : MasterState Count}

def KeepsWorkers (channels after : List CommandChannel) : Prop :=
  ∀ index worker, ChannelOf channels index worker → ChannelOf after index worker

def SendsNothing (channels after : List CommandChannel) : Prop :=
  ∀ channel ∈ after,
    channel.sent = [] ∨
      ∃ before ∈ channels, channel.worker = before.worker ∧ channel.sent = before.sent

variable {channels : List CommandChannel} {index : Nat} {channel : CommandChannel}

theorem KeepsWorkers.of_set {moved : CommandChannel}
    (found : channels[index]? = some channel) (same : moved.worker = channel.worker) :
    KeepsWorkers channels (channels.set index moved) := by
  intro position worker present
  obtain ⟨before, there, named⟩ := present
  obtain ⟨after, after_there, kept⟩ :=
    exists_set_of_some (fun before after => after.worker = before.worker)
      (fun _ => rfl) found same there
  exact ⟨after, after_there, kept.trans named⟩

theorem KeepsWorkers.of_send
    (found : channels[index]? = some channel) (command : Proto.CommandRequest) :
    KeepsWorkers channels
      (channels.set index { channel with sent := channel.sent ++ [command] }) :=
  .of_set found rfl

theorem KeepsWorkers.of_close (found : channels[index]? = some channel) :
    KeepsWorkers channels (channels.set index { channel with receiverOpen := false }) :=
  .of_set found rfl

theorem KeepsWorkers.of_concat (channels : List CommandChannel) (channel : CommandChannel) :
    KeepsWorkers channels (channels ++ [channel]) := by
  intro position worker present
  obtain ⟨before, there, named⟩ := present
  exact ⟨before, getElem?_concat_of_some channel there, named⟩

theorem SendsNothing.refl (channels : List CommandChannel) : SendsNothing channels channels :=
  fun channel member => Or.inr ⟨channel, member, rfl, rfl⟩

theorem SendsNothing.of_concat (channels : List CommandChannel) (worker : String) :
    SendsNothing channels
      (channels ++ [{ worker, sent := [], receiverOpen := true }]) := by
  rw [SendsNothing, List.forall_mem_append, List.forall_mem_singleton]
  exact ⟨SendsNothing.refl channels, Or.inl rfl⟩

theorem SendsNothing.of_close (found : channels[index]? = some channel) :
    SendsNothing channels (channels.set index { channel with receiverOpen := false }) := by
  apply forall_mem_set (SendsNothing.refl channels)
  exact Or.inr ⟨channel, List.mem_of_getElem? found, rfl, rfl⟩

structure CallAfter (call moved : StartCall Count) : Prop where
  config : moved.config = call.config
  unstarted : moved.phase.unstarted = true → call.phase.unstarted = true
  unsent : ∀ worker ∈ moved.phase.unsent, worker ∈ call.phase.unsent

structure KeepsCalls (state next : MasterState Count) : Prop where
  length : next.starts.length = state.starts.length
  after : ∀ moved ∈ next.starts, ∃ call ∈ state.starts, CallAfter call moved

theorem KeepsCalls.of_eq (same : next.starts = state.starts) : KeepsCalls state next := by
  constructor
  · rw [same]
  · rw [same]
    exact fun call member => ⟨call, member, rfl, fun early => early, fun _ listed => listed⟩

variable {call moved : StartCall Count}

theorem KeepsCalls.of_set (found : state.starts[index]? = some call)
    (changed : next.starts = state.starts.set index moved) (after : CallAfter call moved) :
    KeepsCalls state next := by
  constructor
  · rw [changed, List.length_set]
  · rw [changed]
    have same : KeepsCalls state state := .of_eq rfl
    apply forall_mem_set same.after
    exact ⟨call, List.mem_of_getElem? found, after⟩

theorem KeepsCalls.unstarted (kept : KeepsCalls state next)
    (early : ∀ call ∈ next.starts, call.phase.unstarted = true) (one : state.starts.length ≤ 1) :
    ∀ call ∈ state.starts, call.phase.unstarted = true := by
  intro call member
  have length := kept.length
  obtain ⟨moved, rest, split⟩ : ∃ moved rest, next.starts = moved :: rest := by
    apply List.exists_cons_of_length_pos
    rw [length]
    exact List.length_pos_of_mem member
  have present : moved ∈ next.starts := by
    rw [split]
    exact List.mem_cons_self
  obtain ⟨before, old, after⟩ := kept.after moved present
  obtain ⟨index, found⟩ := List.mem_iff_getElem?.mp member
  rw [(eq_singleton_of_getElem? one found).1, List.mem_singleton] at old
  rw [← old]
  exact after.unstarted (early moved present)

variable {runId : String} {pending : List String}

theorem Covered.frame
    (covered : Covered state runId pending) (kept : KeepsCalls state next)
    (channels : ∀ channel ∈ next.channels, channel.worker ∈ pending ∨ channel.AbortFollows runId) :
    Covered next runId pending where
  started := by
    have positive := List.length_pos_of_ne_nil covered.started
    rw [← kept.length] at positive
    exact List.ne_nil_of_length_pos positive
  calls := by
    intro moved member
    obtain ⟨call, old, after⟩ := kept.after moved member
    obtain ⟨late, named, listed⟩ := covered.calls call old
    refine ⟨?_, ?_, ?_⟩
    · apply Bool.eq_false_of_not_eq_true
      intro early
      rw [after.unstarted early] at late
      cases late
    · rw [after.config]
      exact named
    · exact fun worker unsent => listed worker (after.unsent worker unsent)
  channels := channels

theorem Covered.quiet (covered : Covered state runId pending) (kept : KeepsCalls state next)
    (sends : SendsNothing state.channels next.channels) :
    Covered next runId pending := by
  apply covered.frame kept
  intro channel member
  rcases sends channel member with unused | ⟨before, old, worker, sent⟩
  · right
    unfold CommandChannel.AbortFollows
    rw [unused]
    exact True.intro
  · unfold CommandChannel.AbortFollows
    rw [worker, sent]
    exact covered.channels before old

theorem Broadcasts.quiet (broadcasts : Broadcasts state) (kept : KeepsCalls state next)
    (sending :
      ∀ call ∈ next.starts, ∀ index worker pending delivered,
        call.phase = .sendingStart (some index) worker pending delivered →
          ChannelOf state.channels index worker)
    (workers : KeepsWorkers state.channels next.channels)
    (senders :
      ∀ worker index,
        next.registry.commandSender worker = some index → ChannelOf next.channels index worker)
    (sends : SendsNothing state.channels next.channels) (slot : KeepsSlot state next)
    (aborting :
      ∀ call ∈ next.aborts, ∀ run pending,
        call.outstanding = some (run, pending) → Covered state run.runId pending) :
    Broadcasts next where
  one := by
    rw [kept.length]
    exact broadcasts.one
  senders := senders
  sending := fun call member index worker pending delivered phase =>
    workers _ _ (sending call member index worker pending delivered phase)
  silent := by
    intro early channel member command listed
    rcases sends channel member with unused | ⟨before, old, _, sent⟩
    · rw [unused] at listed
      cases listed
    · rw [sent] at listed
      exact broadcasts.silent (kept.unstarted early broadcasts.one) before old command listed
  slot := by
    intro run active
    obtain ⟨before, present, same⟩ := slot run active
    have covered := (broadcasts.slot before present).quiet kept sends
    rw [same.runId, same.allocated] at covered
    exact covered
  aborting := fun call member run pending taken =>
    (aborting call member run pending taken).quiet kept sends

theorem Broadcasts.environment (broadcasts : Broadcasts state) (starts : next.starts = state.starts)
    (aborts : next.aborts = state.aborts) (workers : KeepsWorkers state.channels next.channels)
    (senders :
      ∀ worker index,
        next.registry.commandSender worker = some index → ChannelOf next.channels index worker)
    (sends : SendsNothing state.channels next.channels) (slot : KeepsSlot state next) :
    Broadcasts next := by
  apply broadcasts.quiet (.of_eq starts) _ workers senders sends slot
  · rw [aborts]
    exact broadcasts.aborting
  · rw [starts]
    exact broadcasts.sending

theorem Broadcasts.local (broadcasts : Broadcasts state) (kept : KeepsCalls state next)
    (sending :
      ∀ call ∈ next.starts, ∀ index worker pending delivered,
        call.phase = .sendingStart (some index) worker pending delivered →
          ChannelOf state.channels index worker)
    (channels : next.channels = state.channels) (registry : next.registry = state.registry)
    (slot : KeepsSlot state next)
    (aborting :
      ∀ call ∈ next.aborts, ∀ run pending,
        call.outstanding = some (run, pending) → Covered state run.runId pending) :
    Broadcasts next := by
  apply broadcasts.quiet kept sending _ _ _ slot aborting
  · rw [channels]
    exact fun index worker present => present
  · rw [channels, registry]
    exact broadcasts.senders
  · rw [channels]
    exact .refl _

theorem Broadcasts.moveCall (broadcasts : Broadcasts state)
    (found : state.starts[index]? = some call) (starts : next.starts = state.starts.set index moved)
    (after : CallAfter call moved)
    (sending :
      ∀ channel worker pending delivered,
        moved.phase = .sendingStart (some channel) worker pending delivered →
          ChannelOf state.channels channel worker)
    (channels : next.channels = state.channels) (registry : next.registry = state.registry)
    (slot : KeepsSlot state next) (aborts : next.aborts = state.aborts) :
    Broadcasts next := by
  apply broadcasts.local (.of_set found starts after) _ channels registry slot
  · rw [aborts]
    exact broadcasts.aborting
  · rw [starts]
    exact forall_mem_set broadcasts.sending sending

theorem Broadcasts.abort {moved : AbortCall} (broadcasts : Broadcasts state)
    (starts : next.starts = state.starts) (channels : next.channels = state.channels)
    (registry : next.registry = state.registry) (slot : KeepsSlot state next)
    (aborts : next.aborts = state.aborts.set index moved)
    (covered :
      ∀ run pending, moved.outstanding = some (run, pending) → Covered state run.runId pending) :
    Broadcasts next := by
  apply broadcasts.local (.of_eq starts) _ channels registry slot
  · rw [aborts]
    exact forall_mem_set broadcasts.aborting covered
  · rw [starts]
    exact broadcasts.sending

theorem Covered.sendStart {position : Nat}
    (covered : Covered state runId pending) (found : state.starts[index]? = some call)
    (starts : next.starts = state.starts.set index moved) (after : CallAfter call moved)
    (unsent : channel.worker ∈ call.phase.unsent) (sent : Proto.CommandRequest)
    (channels :
      next.channels = state.channels.set position { channel with sent := channel.sent ++ [sent] }) :
    Covered next runId pending := by
  apply covered.frame (.of_set found starts after)
  rw [channels]
  have listed := (covered.calls call (List.mem_of_getElem? found)).2.2
  exact forall_mem_set covered.channels (Or.inl (listed channel.worker unsent))

theorem Broadcasts.sendStart {sender : Option Nat} {worker : String} {delivered : Nat}
    (broadcasts : Broadcasts state) (found : state.starts[index]? = some call)
    (phase : call.phase = .sendingStart sender worker pending delivered)
    (sent : deliver state.channels sender (startCommand call.config) = some channels) :
    Broadcasts
      ({ state with channels }.setStart index
        { call with phase := .broadcasting pending (delivered + 1) }) := by
  obtain ⟨position, channel, rfl, there, rfl⟩ := exists_of_deliver sent
  have listed := List.mem_of_getElem? found
  obtain ⟨present, same, named⟩ :=
    broadcasts.sending call listed position worker pending delivered phase
  rw [there] at same
  cases same
  have unsent : channel.worker ∈ call.phase.unsent := by
    rw [named, phase]
    exact List.mem_cons_self
  have after : CallAfter call { call with phase := .broadcasting pending (delivered + 1) } := by
    refine ⟨rfl, (fun early => by cases early), ?_⟩
    intro other member
    rw [phase]
    exact List.mem_cons_of_mem worker member
  have workers := KeepsWorkers.of_send there (startCommand call.config)
  refine ⟨?_, ?_, ?_, ?_, ?_, ?_⟩
  · exact (List.length_set ..).trans_le broadcasts.one
  · exact fun other target attached => workers _ _ (broadcasts.senders other target attached)
  · intro other member target name rest count sending
    rcases List.mem_or_eq_of_mem_set member with old | new
    · exact workers _ _ (broadcasts.sending other old target name rest count sending)
    · rw [new] at sending
      cases sending
  · intro early
    have contradiction := early _ (List.mem_of_getElem? (getElem?_set_of_some _ found))
    cases contradiction
  · exact fun run active =>
      (broadcasts.slot run active).sendStart found rfl after unsent _ rfl
  · exact fun other member run rest taken =>
      (broadcasts.aborting other member run rest taken).sendStart found rfl after unsent _ rfl

/-! ## Installing the run -/

theorem AbortFollows.of_silent (silent : ∀ command ∈ channel.sent, command.command ≠ .start) :
    channel.AbortFollows runId := by
  apply Answered.of_silent
  intro command listed
  simp [isStartOf, silent command listed]

end Invariant

theorem Broadcasts.install {params : MasterParams} {state : MasterState Count} {index : Nat}
    {call : StartCall Count} (runId : String) (broadcasts : Broadcasts state)
    (found : state.starts[index]? = some call) (phase : call.phase = .installing) :
    Broadcasts (state.install params index call runId) := by
  have early : call.phase.unstarted = true := by rw [phase]; rfl
  obtain ⟨single, rfl⟩ := eq_singleton_of_getElem? broadcasts.one found
  have installed :
      (state.install params 0 call runId).starts =
        [{ call with
           config := { call.config with testRunId := runId }
           installed := some state.pipelines.length
           phase := .broadcasting call.allocated 0 }] := by
    simp only [MasterState.install, single, List.set_cons_zero]
  have silent : ∀ channel ∈ state.channels, ∀ command ∈ channel.sent, command.command ≠ .start := by
    apply broadcasts.silent
    rw [single]
    intro other member
    rw [List.mem_singleton.mp member]
    exact early
  refine ⟨?_, broadcasts.senders, ?_, ?_, ?_, ?_⟩
  · rw [installed]
    exact Nat.le_refl 1
  · rw [installed]
    intro other member target name rest count sending
    rw [List.mem_singleton.mp member] at sending
    cases sending
  · rw [installed]
    intro unstarted
    have contradiction := unstarted _ List.mem_cons_self
    cases contradiction
  · intro run active
    cases active
    refine ⟨?_, ?_, ?_⟩
    · rw [installed]
      exact List.cons_ne_nil _ _
    · rw [installed]
      intro other member
      rw [List.mem_singleton.mp member]
      exact ⟨rfl, rfl, fun worker unsent => unsent⟩
    · exact fun channel member => Or.inr (AbortFollows.of_silent (silent channel member))
  · intro other member run pending taken
    -- An outstanding abort has taken the only run there can be.
    have late :=
      ((broadcasts.aborting other member run pending taken).calls call
        (List.mem_of_getElem? found)).1
    rw [early] at late
    cases late

section SendAbort

omit [Counter Count]

variable {state next : MasterState Count} {runId worker : String} {pending : List String}

theorem Covered.drop
    (covered : Covered state runId (worker :: pending)) (passed : state.Passed worker)
    (answered : ∀ channel ∈ state.channels, channel.worker = worker → channel.AbortFollows runId) :
    Covered state runId pending where
  started := covered.started
  calls := by
    intro call member
    obtain ⟨late, named, listed⟩ := covered.calls call member
    refine ⟨late, named, ?_⟩
    intro other unsent
    rcases List.mem_cons.mp (listed other unsent) with same | rest
    · rw [same] at unsent
      exact absurd unsent (passed call member)
    · exact rest
  channels := by
    intro channel member
    rcases covered.channels channel member with unvisited | follows
    · rcases List.mem_cons.mp unvisited with same | rest
      · exact Or.inr (answered channel member same)
      · exact Or.inl rest
    · exact Or.inr follows

variable {channel : CommandChannel}

theorem AbortFollows.of_unstarted (unstarted : channel.sent.any (isStartOf runId) = false) :
    channel.AbortFollows runId := by
  apply Answered.of_silent
  intro command listed
  exact Bool.eq_false_of_not_eq_true (List.any_eq_false.mp unstarted command listed)

theorem AbortFollows.concat_abort (channel : CommandChannel) (runId : String) :
    { channel with sent := channel.sent ++ [abortCommand runId] }.AbortFollows runId :=
  Answered.concat_answer channel.sent (by simp [isAbortOf, abortCommand]) rfl

theorem AbortFollows.concat (follows : channel.AbortFollows runId) (aborted : String) :
    { channel with sent := channel.sent ++ [abortCommand aborted] }.AbortFollows runId :=
  Answered.concat_quiet follows rfl

theorem sender_of_started {position : Nat}
    (attached : state.Attached runId worker) (there : state.channels[position]? = some channel)
    (named : channel.worker = worker) (started : channel.sent.any (isStartOf runId) = true) :
    state.registry.commandSender worker = some position ∧ channel.receiverOpen = true :=
  attached position (lt_length_of_getElem?_eq_some there) channel there named started

variable {run : ActiveRun}

theorem Broadcasts.visitNone {index : Nat} (broadcasts : Broadcasts state)
    (found : state.aborts[index]? = some (.broadcasting run (worker :: pending)))
    (passed : state.Passed worker) (attached : state.Attached run.runId worker)
    (unsent :
      deliver state.channels (state.registry.commandSender worker)
        (abortCommand run.runId) = none) :
    Broadcasts (state.setAbort index (.broadcasting run pending)) := by
  have covered := broadcasts.aborting _ (List.mem_of_getElem? found) run _ rfl
  refine broadcasts.abort rfl rfl rfl (.of_eq rfl) rfl ?_
  intro taken unvisited same
  cases same
  apply covered.drop passed
  intro channel member named
  obtain ⟨position, there⟩ := List.mem_iff_getElem?.mp member
  apply AbortFollows.of_unstarted
  apply Bool.eq_false_of_not_eq_true
  intro started
  obtain ⟨sender, receiving⟩ := sender_of_started attached there named started
  rw [sender, deliver_of_open there receiving] at unsent
  cases unsent

theorem Covered.sendAbort {aborted : String} {target : Nat} (covered : Covered state runId pending)
    (there : state.channels[target]? = some channel) (starts : next.starts = state.starts)
    (channels :
      next.channels =
        state.channels.set target
          { channel with sent := channel.sent ++ [abortCommand aborted] }) :
    Covered next runId pending := by
  apply covered.frame (.of_eq starts)
  rw [channels]
  apply forall_mem_set covered.channels
  rcases covered.channels channel (List.mem_of_getElem? there) with waiting | follows
  · exact Or.inl waiting
  · exact Or.inr (AbortFollows.concat follows aborted)

theorem Covered.visit {target : Nat} (covered : Covered state run.runId (worker :: pending))
    (passed : state.Passed worker) (attached : state.Attached run.runId worker)
    (sender : state.registry.commandSender worker = some target)
    (there : state.channels[target]? = some channel) (starts : next.starts = state.starts)
    (channels :
      next.channels =
        state.channels.set target
          { channel with sent := channel.sent ++ [abortCommand run.runId] }) :
    Covered next run.runId pending := by
  apply (covered.sendAbort there starts channels).drop
  · unfold Passed
    rw [starts]
    exact passed
  · rw [channels]
    intro visited listed named
    obtain ⟨position, present⟩ := List.mem_iff_getElem?.mp listed
    by_cases same : target = position
    · subst same
      rw [getElem?_set_of_some _ there] at present
      cases present
      exact AbortFollows.concat_abort channel run.runId
    · rw [List.getElem?_set_ne same] at present
      apply AbortFollows.of_unstarted
      apply Bool.eq_false_of_not_eq_true
      intro started
      have elsewhere := (sender_of_started attached present named started).1
      rw [sender] at elsewhere
      exact same (Option.some.inj elsewhere)

theorem Broadcasts.sendAbort {index : Nat}
    {channels : List CommandChannel} (broadcasts : Broadcasts state)
    (found : state.aborts[index]? = some (.broadcasting run (worker :: pending)))
    (passed : state.Passed worker) (attached : state.Attached run.runId worker)
    (sent :
      deliver state.channels (state.registry.commandSender worker)
        (abortCommand run.runId) = some channels) :
    Broadcasts
      ({ state with channels }.setAbort index (.broadcasting run pending)) := by
  obtain ⟨target, channel, sender, there, rfl⟩ := exists_of_deliver sent
  have workers := KeepsWorkers.of_send there (abortCommand run.runId)
  refine ⟨broadcasts.one, ?_, ?_, ?_, ?_, ?_⟩
  · exact fun other position used => workers _ _ (broadcasts.senders other position used)
  · intro call member position name rest count sending
    exact workers _ _ (broadcasts.sending call member position name rest count sending)
  · intro early other member command listed
    rcases List.mem_or_eq_of_mem_set member with old | new
    · exact broadcasts.silent early other old command listed
    · rw [new] at listed
      rcases List.mem_append.mp listed with before | last
      · exact broadcasts.silent early channel (List.mem_of_getElem? there) command before
      · rw [List.mem_singleton.mp last]
        intro contradiction
        cases contradiction
  · exact fun active present => (broadcasts.slot active present).sendAbort there rfl rfl
  · intro other member taken unvisited outstanding
    rcases List.mem_or_eq_of_mem_set member with old | new
    · exact (broadcasts.aborting other old taken unvisited outstanding).sendAbort there rfl rfl
    · rw [new] at outstanding
      cases outstanding
      have covered := broadcasts.aborting _ (List.mem_of_getElem? found) run _ rfl
      exact covered.visit passed attached sender there rfl rfl

end SendAbort

section Steps

variable {params : MasterParams} {state next : MasterState Count} {index : Nat}
  {call : StartCall Count}

omit [Counter Count] in
theorem Broadcasts.goOn {moved : StartCall Count} (broadcasts : Broadcasts state)
    (found : state.starts[index]? = some call) (starts : next.starts = state.starts.set index moved)
    (config : moved.config = call.config)
    (late : moved.phase.unstarted = false) (nothing : moved.phase.unsent = [])
    (channels : next.channels = state.channels) (registry : next.registry = state.registry)
    (slot : KeepsSlot state next) (aborts : next.aborts = state.aborts) :
    Broadcasts next := by
  apply broadcasts.moveCall found starts _ _ channels registry slot aborts
  · refine ⟨config, ?_, ?_⟩
    · intro early
      rw [late] at early
      cases early
    · intro worker member
      rw [nothing] at member
      cases member
  · intro channel worker pending delivered sending
    rw [sending] at nothing
    cases nothing

theorem Broadcasts.of_start {action : StartAction}
    (broadcasts : Broadcasts state) (found : state.starts[index]? = some call)
    (move : StartMove params state index call action next) :
    Broadcasts next := by
  cases move with
  | waitOn => exact broadcasts
  | allocate now allocated phase =>
    refine broadcasts.moveCall found rfl ⟨rfl, ?_, ?_⟩ ?_ rfl rfl (.of_eq rfl) rfl
    · intro _
      rw [phase]
      rfl
    · intro worker member
      cases member
    · intro channel worker pending delivered sending
      cases sending
  | install now phase => exact broadcasts.install _ found phase
  | lookup now worker pending delivered phase =>
    refine broadcasts.moveCall found rfl ⟨rfl, ?_, ?_⟩ ?_ rfl rfl (.of_eq rfl) rfl
    · intro early
      cases early
    · intro other member
      rw [phase]
      exact member
    · intro channel name rest count sending
      injection sending with attached named
      rw [← named]
      exact broadcasts.senders worker channel attached
  | send now sender worker pending delivered channels phase sent =>
    exact broadcasts.sendStart found phase sent
  | sendNone now sender worker pending delivered phase =>
    refine broadcasts.moveCall found rfl ⟨rfl, ?_, ?_⟩ ?_ rfl rfl (.of_eq rfl) rfl
    · intro early
      cases early
    · intro other member
      rw [phase]
      exact List.mem_cons_of_mem worker member
    · intro channel name rest count sending
      cases sending
  | abandon | take => exact broadcasts.goOn found rfl rfl rfl rfl rfl rfl (.of_none rfl) rfl
  | _ => exact broadcasts.goOn found rfl rfl rfl rfl rfl rfl (.of_eq rfl) rfl

omit [Counter Count] in
theorem Broadcasts.of_abort {call : AbortCall} (broadcasts : Broadcasts state)
    (found : state.aborts[index]? = some call)
    (visits : ∀ visit ∈ call.visiting, state.Passed visit.2 ∧ state.Attached visit.1 visit.2)
    (move : AbortMove state index call next) :
    Broadcasts next := by
  have outstanding := broadcasts.aborting call (List.mem_of_getElem? found)
  cases move with
  | takeNone =>
    refine broadcasts.abort rfl rfl rfl (.of_eq rfl) rfl ?_
    intro run pending taken
    cases taken
  | take run active =>
    refine broadcasts.abort rfl rfl rfl (.of_none rfl) rfl ?_
    intro taken pending same
    cases same
    exact broadcasts.slot run active
  | shut | finish => exact broadcasts.abort rfl rfl rfl (.of_eq rfl) rfl outstanding
  | send run worker pending channels sent =>
    obtain ⟨passed, attached⟩ := visits (run.runId, worker) rfl
    exact broadcasts.sendAbort found passed attached sent
  | sendNone run worker pending unsent =>
    obtain ⟨passed, attached⟩ := visits (run.runId, worker) rfl
    exact broadcasts.visitNone found passed attached unsent

omit [Counter Count] in
theorem Broadcasts.begin (broadcasts : Broadcasts state)
    (none_before : state.starts = [])
    (unsending :
      ∀ {sender worker pending delivered},
        call.phase ≠ .sendingStart sender worker pending delivered) :
    Broadcasts { state with starts := state.starts ++ [call] } := by
  have nothing_taken : ∀ {runId pending}, ¬ Covered state runId pending :=
    fun covered => covered.started none_before
  refine ⟨?_, broadcasts.senders, ?_, ?_, ?_, ?_⟩
  · rw [none_before]
    exact Nat.le_refl 1
  · rw [none_before]
    intro other member channel worker pending delivered sending
    rw [List.mem_singleton.mp member] at sending
    exact absurd sending unsending
  · intro _
    apply broadcasts.silent
    rw [none_before]
    intro other member
    cases member
  · exact fun run active => absurd (broadcasts.slot run active) nothing_taken
  · exact fun other member run pending taken =>
      absurd (broadcasts.aborting other member run pending taken) nothing_taken

theorem Broadcasts.of_move {action : MasterAction Count} (broadcasts : Broadcasts state)
    (guarded : state.abortGuard action) (move : Move params state action next) :
    Broadcasts next := by
  have same : KeepsWorkers state.channels state.channels := fun _ _ present => present
  have quiet := SendsNothing.refl state.channels
  cases move with
  | beginStart =>
    exact broadcasts.begin (List.length_eq_zero_iff.mp guarded.1) (fun same => by cases same)
  | start index action call next found move => exact broadcasts.of_start found move
  | beginAbort =>
    refine broadcasts.local (.of_eq rfl) broadcasts.sending rfl rfl (.of_eq rfl) ?_
    intro call member run pending taken
    rcases List.mem_append.mp member with old | new
    · exact broadcasts.aborting call old run pending taken
    · rw [List.mem_singleton.mp new] at taken
      cases taken
  | abort index call next found move => exact broadcasts.of_abort found (guarded.2 call found) move
  | openStream | pipeline =>
    exact broadcasts.environment rfl rfl same broadcasts.senders quiet (.of_eq rfl)
  | stream index action stream next found move =>
    cases move with
    | mark =>
      exact
        broadcasts.environment rfl rfl same broadcasts.senders quiet
          (keepsSlot_markTelemetryDone state stream.workerId)
    | _ => exact broadcasts.environment rfl rfl same broadcasts.senders quiet (.of_eq rfl)
  | registry action registry handler kept =>
    refine broadcasts.environment rfl rfl same ?_ quiet (.of_eq rfl)
    exact fun worker index attached =>
      broadcasts.senders worker index (kept worker index attached)
  | watchCommands workerId registry attached =>
    have workers := KeepsWorkers.of_concat state.channels
      { worker := workerId, sent := [], receiverOpen := true }
    refine
      broadcasts.environment rfl rfl workers ?_ (.of_concat state.channels workerId)
        (.of_eq rfl)
    intro worker index used
    rcases Registry.commandSender_attachCommands attached used with ⟨rfl, rfl⟩ | old
    · exact ⟨_, List.getElem?_concat_length, rfl⟩
    · exact workers index worker (broadcasts.senders worker index old)
  | closeCommands index channel found =>
    have workers := KeepsWorkers.of_close found
    refine broadcasts.environment rfl rfl workers ?_ (.of_close found) (.of_eq rfl)
    exact fun worker position used =>
      workers position worker (broadcasts.senders worker position used)
  | acknowledge response =>
    exact
      broadcasts.environment rfl rfl same broadcasts.senders quiet
        (keepsSlot_recordAck state response)

omit [Counter Count] in
theorem broadcasts_new : Broadcasts (new : MasterState Count) := by
  refine ⟨Nat.zero_le 1, ?_, ?_, ?_, ?_, ?_⟩
  · intro worker index attached
    cases attached
  · intro call member
    cases member
  · intro _ channel member
    cases member
  · intro run active
    cases active
  · intro call member
    cases member

end Steps

/-- Once an `abort` that removed a run has returned, the START of the run is followed by
an ABORT of the run on every command channel. -/
def AbortAnswered (state : MasterState Count) : Prop :=
  ∀ call ∈ state.aborts, ∀ run ∈ call.removed,
    ∀ channel ∈ state.channels, channel.AbortFollows run.runId
  deriving Decidable

/-- When `abort` visits every worker after the START broadcast has passed it, and over
the channel on which START went out, no worker is left with an aborted run. -/
theorem aborted_run_is_answered (params : MasterParams) (state : MasterState Count)
    (reached : Reaches (step params) abortGuard new state) :
    AbortAnswered state := by
  have broadcasts : Broadcasts state :=
    reached.invariant Broadcasts
      (fun _ _ _ broadcasts guarded taken =>
        broadcasts.of_move guarded (move_of_step taken))
      broadcasts_new
  intro call member run removed channel listed
  have covered : Covered state run.runId [] := by
    apply broadcasts.aborting call member run []
    cases call with
    | returned =>
      cases removed
      rfl
    | _ => cases removed
  rcases covered.channels channel listed with unvisited | follows
  · cases unvisited
  · exact follows

omit [Counter Count] in
def commandsSent (state : MasterState Count) : List (List (Proto.CommandType × String)) :=
  state.channels.map (fun channel =>
    channel.sent.map (fun command => (command.command, command.testRunId)))

open MasterAction (enrol advance)

theorem aborted_run_is_answered_sample :
    ∃ state : MasterState Nat,
      Reaches (step .sample) abortGuard new state ∧
        (state.aborts.map (fun call => call.removed.map ActiveRun.runId)) = [some "run-a"] ∧
        state.commandsSent = [[(.start, "run-a"), (.abort, "run-a")]] ∧
        AbortAnswered state :=
  Reaches.exists_and₂_of_executeChecked
    (enrol "w" ++ [MasterAction.beginStart (sampleConfig "run-a") 1] ++ advance 0 5 ++
      [MasterAction.beginAbort] ++ List.replicate 4 (MasterAction.abort 0))
    (by decide +kernel) (fun state reached _ _ => aborted_run_is_answered .sample state reached)

/-- The `abort` runs from beginning to end between the installation of the run and the
START broadcast: the worker is sent ABORT first and START second. -/
theorem aborted_run_is_started_sample :
    ∃ state : MasterState Nat,
      Reaches (step .sample) oneStart new state ∧
        (state.aborts.map (fun call => call.removed.map ActiveRun.runId)) = [some "run-a"] ∧
        state.commandsSent = [[(.abort, "run-a"), (.start, "run-a")]] ∧
        ¬ AbortAnswered state :=
  Reaches.exists_of_executeChecked
    (enrol "w" ++ [MasterAction.beginStart (sampleConfig "run-a") 1] ++ advance 0 2 ++
      [MasterAction.beginAbort] ++ List.replicate 4 (MasterAction.abort 0) ++ advance 0 5)
    (by decide +kernel)

end MasterState

end Strobengine.Distributed.Master
