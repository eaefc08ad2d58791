import Strobengine.Distributed.Master.Abort

/-!
# The commands on a command stream

The master sends START and ABORT, every START with a run id. A command stream only grows.
-/

namespace Strobengine.Distributed.Master

open Rust Foundations

theorem resolveRunId_ne_empty (config : Proto.TestConfiguration) (now : Int) :
    resolveRunId config now ≠ "" := by
  unfold resolveRunId
  split
  · intro empty
    have length := congrArg String.length empty
    simp [String.length_append] at length
  · rename_i named
    intro empty
    rw [empty] at named
    exact named trim_empty

theorem inOrder_startCommand
    (earlier : List Proto.CommandRequest) {config : Proto.TestConfiguration}
    (named : config.testRunId ≠ "") :
    Proto.InOrder earlier (startCommand config) := by
  have start : (startCommand config).command = .start := rfl
  rw [Proto.InOrder, if_pos start]
  exact named

theorem inOrder_abortCommand {earlier : List Proto.CommandRequest} {aborted : String}
    (last : ∀ runId ∈ Proto.lastStarted earlier, runId = aborted) :
    Proto.InOrder earlier (abortCommand aborted) := by
  have other : (abortCommand aborted).command ≠ .start := by
    intro start
    cases start
  rw [Proto.InOrder, if_neg other]
  exact last

def StreamsGrow (channels after : List CommandChannel) : Prop :=
  ∀ (index : Nat) (channel : CommandChannel),
    channels[index]? = some channel →
      ∃ grown : CommandChannel,
        after[index]? = some grown ∧ ∃ more, grown.sent = channel.sent ++ more

namespace StreamsGrow

theorem refl (channels : List CommandChannel) : StreamsGrow channels channels :=
  fun _ channel found => ⟨channel, found, [], (List.append_nil channel.sent).symm⟩

theorem of_set {channels : List CommandChannel} {index : Nat} {channel moved : CommandChannel}
    (found : channels[index]? = some channel)
    (more : List Proto.CommandRequest) (sent : moved.sent = channel.sent ++ more) :
    StreamsGrow channels (channels.set index moved) := by
  intro position present there
  exact
    exists_set_of_some
      (fun before after : CommandChannel => ∃ more, after.sent = before.sent ++ more)
      (fun member => ⟨[], (List.append_nil member.sent).symm⟩) found ⟨more, sent⟩ there

theorem of_deliver {channels after : List CommandChannel} {sender : Option Nat}
    {command : Proto.CommandRequest} (sent : deliver channels sender command = some after) :
    StreamsGrow channels after := by
  obtain ⟨index, channel, _, found, rfl⟩ := exists_of_deliver sent
  exact of_set found [command] rfl

end StreamsGrow

namespace MasterState

variable {Count : Type} [Counter Count]

section Guards

omit [Counter Count]

/-- `abort` comes to a worker only while the last START on its command stream, if there
is one, is of the aborted run. -/
def abortsLastStarted (state : MasterState Count) : MasterAction Count → Prop
  | .abort index =>
    ∀ call ∈ state.aborts[index]?, ∀ visit ∈ call.visiting,
      ∀ target ∈ state.registry.commandSender visit.2,
        ∀ channel ∈ state.channels[target]?,
          ∀ runId ∈ Proto.lastStarted channel.sent, runId = visit.1
  | _ => True

instance (state : MasterState Count) (action : MasterAction Count) :
    Decidable (state.abortsLastStarted action) := by
  unfold abortsLastStarted
  rcases action with _ | _ <;> dsimp only <;> infer_instance

/-- The commands on every stream are in order; a call that is still to send START has a
run id. -/
structure Orderly (state : MasterState Count) : Prop where
  named : ∀ call ∈ state.starts, call.phase.unsent ≠ [] → call.config.testRunId ≠ ""
  channels : ∀ channel ∈ state.channels, Grounded Proto.InOrder channel.sent

theorem orderly_new : Orderly (new : MasterState Count) where
  named := by
    intro call member
    cases member
  channels := by
    intro channel member
    cases member

end Guards

section Steps

variable {params : MasterParams} {state next : MasterState Count}

omit [Counter Count] in
theorem Orderly.call {index : Nat} {moved : StartCall Count} (orderly : Orderly state)
    (starts : next.starts = state.starts.set index moved)
    (named : moved.phase.unsent ≠ [] → moved.config.testRunId ≠ "")
    (channels : ∀ channel ∈ next.channels, Grounded Proto.InOrder channel.sent) :
    Orderly next where
  named := by
    rw [starts]
    exact forall_mem_set orderly.named named
  channels := channels

theorem Orderly.install
    {runId : String} (orderly : Orderly state) (index : Nat) (call : StartCall Count)
    (named : runId ≠ "") :
    Orderly (state.install params index call runId) :=
  orderly.call rfl (fun _ => named) orderly.channels

theorem grounded_deliver {channels after : List CommandChannel} {sender : Option Nat}
    {command : Proto.CommandRequest}
    (grounded : ∀ channel ∈ channels, Grounded Proto.InOrder channel.sent)
    (inOrder : ∀ target ∈ sender, ∀ channel ∈ channels[target]?, Proto.InOrder channel.sent command)
    (sent : deliver channels sender command = some after) :
    ∀ channel ∈ after, Grounded Proto.InOrder channel.sent := by
  obtain ⟨target, channel, rfl, found, rfl⟩ := exists_of_deliver sent
  apply forall_mem_set grounded
  exact (grounded channel (List.mem_of_getElem? found)).concat (inOrder target rfl channel found)

theorem Orderly.of_start {index : Nat} {call : StartCall Count} {action : StartAction}
    (orderly : Orderly state) (found : state.starts[index]? = some call)
    (move : StartMove params state index call action next) :
    Orderly next := by
  have named := orderly.named call (List.mem_of_getElem? found)
  cases move with
  | waitOn => exact orderly
  | install now => exact orderly.install index call (resolveRunId_ne_empty call.config now)
  | lookup now worker pending delivered phase =>
    refine orderly.call rfl (fun _ => named ?_) orderly.channels
    rw [phase]
    exact List.cons_ne_nil worker pending
  | send now sender worker pending delivered channels phase sent =>
    have unsent : call.phase.unsent ≠ [] := by
      rw [phase]
      exact List.cons_ne_nil worker pending
    refine orderly.call rfl (fun _ => named unsent) ?_
    exact
      grounded_deliver orderly.channels
        (fun _ _ channel _ => inOrder_startCommand channel.sent (named unsent)) sent
  | sendNone now sender worker pending delivered phase =>
    refine orderly.call rfl (fun _ => named ?_) orderly.channels
    rw [phase]
    exact List.cons_ne_nil worker pending
  | _ => exact orderly.call rfl (fun unsent => absurd rfl unsent) orderly.channels

omit [Counter Count] in
theorem Orderly.of_abort {index : Nat} {call : AbortCall} (orderly : Orderly state)
    (last :
      ∀ visit ∈ call.visiting, ∀ target ∈ state.registry.commandSender visit.2,
        ∀ channel ∈ state.channels[target]?,
          ∀ runId ∈ Proto.lastStarted channel.sent, runId = visit.1)
    (move : AbortMove state index call next) :
    Orderly next := by
  cases move with
  | send run worker pending channels sent =>
    refine ⟨orderly.named, ?_⟩
    apply grounded_deliver orderly.channels _ sent
    intro target attached channel found
    exact inOrder_abortCommand (last (run.runId, worker) rfl target attached channel found)
  | _ => exact ⟨orderly.named, orderly.channels⟩

theorem Orderly.of_move {action : MasterAction Count} (orderly : Orderly state)
    (guarded : state.abortsLastStarted action) (move : Move params state action next) :
    Orderly next := by
  cases move with
  | beginStart =>
    refine ⟨?_, orderly.channels⟩
    intro call member unsent
    rcases List.mem_append.mp member with old | new
    · exact orderly.named call old unsent
    · rw [List.mem_singleton.mp new] at unsent
      exact False.elim (unsent rfl)
  | start index action call _ found move => exact orderly.of_start found move
  | abort index call _ found move => exact orderly.of_abort (guarded call found) move
  | stream index action stream _ found move =>
    cases move <;> exact ⟨orderly.named, orderly.channels⟩
  | watchCommands =>
    refine ⟨orderly.named, ?_⟩
    rw [List.forall_mem_append, List.forall_mem_singleton]
    exact ⟨orderly.channels, Grounded.nil⟩
  | closeCommands index channel found =>
    refine ⟨orderly.named, ?_⟩
    apply forall_mem_set orderly.channels
    exact orderly.channels channel (List.mem_of_getElem? found)
  | _ => exact ⟨orderly.named, orderly.channels⟩

theorem streamsGrow_of_move {action : MasterAction Count} (move : Move params state action next) :
    StreamsGrow state.channels next.channels := by
  cases move with
  | start index action call _ found move =>
    cases move with
    | send now sender worker pending delivered channels phase sent => exact .of_deliver sent
    | _ => exact .refl state.channels
  | abort index call _ found move =>
    cases move with
    | send run worker pending channels sent => exact .of_deliver sent
    | _ => exact .refl state.channels
  | stream index action stream _ found move => cases move <;> exact .refl state.channels
  | watchCommands =>
    intro index channel found
    exact ⟨channel, getElem?_concat_of_some _ found, [], (List.append_nil channel.sent).symm⟩
  | closeCommands index channel found => exact .of_set found [] (List.append_nil channel.sent).symm
  | _ => exact .refl state.channels

end Steps

end MasterState

end Strobengine.Distributed.Master
