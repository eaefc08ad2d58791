import Strobengine.Distributed.Master.Commands
import Strobengine.Distributed.Worker.Attribution

/-!
# The master and its workers

One worker session per command stream. A session takes the commands of its stream in the order in
which the master sent them; everything else is interleaved freely. A session that has lost one of
its loops, or the connection, or that is shut down, ends: it stops its run, waits for it, and then
aborts its loops.
-/

namespace Strobengine.Distributed

open Rust Foundations Distributed.Master

structure ClusterParams where
  master : MasterParams
  worker : RunParams

def ClusterParams.sample : ClusterParams :=
  { master := .sample
    worker := .sample }

inductive SessionPhase where
  | running
  | stopping (task : Option Nat)
  | closed
  deriving DecidableEq

/-- A worker session, which has taken the first `read` commands of its stream. -/
structure Session where
  params : RunParams
  worker : Worker
  read : Nat
  phase : SessionPhase

namespace Session

def connect (params : RunParams) (channel : CommandChannel) : Session :=
  { params := { params with workerId := channel.worker }
    worker := .new
    read := 0
    phase := .running }

/-- The steps of `stop_run` at the end of `session`. The loops go on until they are aborted. -/
def shut (session : Session) : Option Session :=
  match session.phase with
  | .running =>
    some
      { session with
        worker :=
          { session.worker.cancelRun with
            shared := { session.worker.shared with run := none } }
        phase := .stopping session.worker.shared.run }
  | .stopping task =>
    if task.any session.worker.active then
      none
    else
      some
        { session with
          worker :=
            { session.worker with shared := { session.worker.shared with activeVus := 0 } }
          phase := .closed }
  | .closed => none

/-- A run task outlives the session; the command loop and the heartbeat loop do not. -/
def admits (session : Session) : WorkerAction → Bool
  | .task _ _ => true
  | _ => session.phase ≠ .closed

structure Kept (session next : Session) : Prop where
  params : next.params = session.params
  read : next.read = session.read
  handled : next.worker.handled = session.worker.handled
  responses : next.worker.responses = session.worker.responses
  loop : next.worker.loop = session.worker.loop
  attributed :
    session.worker.Attributed session.params → next.worker.Attributed session.params

theorem kept_of_shut {session next : Session} (taken : session.shut = some next) :
    Kept session next := by
  unfold shut at taken
  split at taken
  · cases taken
    refine
      ⟨rfl, rfl, Worker.handled_cancelRun _, Worker.responses_cancelRun _, Worker.loop_cancelRun _,
        fun attributed => ?_⟩
    have cancelled := attributed.of_move (fun _ absurd => by cases absurd) .heartbeatAbort
    exact cancelled.with_shared (fun label absurd => by cases absurd)
  · split at taken <;> cases taken
    exact
      ⟨rfl, rfl, rfl, rfl, rfl,
        fun attributed => attributed.with_shared attributed.wellFormed.slot⟩
  · cases taken

end Session

/-- Sessions are numbered like the command streams of the master. -/
structure Cluster (Count : Type) where
  master : MasterState Count
  sessions : List Session

/-- Steps of the cluster. `receive` takes the next command from the stream of a session;
`now` is the wall clock of the worker in Unix seconds. -/
inductive ClusterAction (Count : Type) where
  | master (action : MasterAction Count)
  | receive (session : Nat) (now : Int)
  | worker (session : Nat) (action : WorkerAction)
  | shut (session : Nat)

namespace ClusterAction

variable {Count : Type}

def masterSteps (actions : List (MasterAction Count)) : List (ClusterAction Count) :=
  actions.map .master

def handle (session label stages : Nat) : List (ClusterAction Count) :=
  .receive session 0 :: List.replicate stages (.worker session (.advance label))

end ClusterAction

namespace Cluster

variable {Count : Type} [Counter Count]

def new : Cluster Count :=
  { master := .new
    sessions := [] }

section Sessions

omit [Counter Count]

def nextCommand (cluster : Cluster Count) (index : Nat) (now : Int) : Option (Session × Received) :=
  match cluster.sessions[index]?, cluster.master.channels[index]? with
  | some session, some channel =>
    if session.phase ≠ .closed ∧ channel.receiverOpen = true then
      (channel.sent[session.read]?).map (fun request =>
        (session, { label := session.read, now, request }))
    else
      none
  | _, _ => none

def stepSession (cluster : Cluster Count) (index : Nat) (session : Session) (action : WorkerAction)
    (read : Nat) : Option (Cluster Count) :=
  (session.worker.step session.params action).map (fun worker =>
    { cluster with
      sessions := cluster.sessions.set index { session with worker, read } })

end Sessions

def step (params : ClusterParams) (cluster : Cluster Count) :
    ClusterAction Count → Option (Cluster Count)
  | .master action =>
    (cluster.master.step params.master action).map (fun master =>
      { master
        sessions :=
          cluster.sessions ++
            (master.channels.drop cluster.sessions.length).map (.connect params.worker) })
  | .receive index now =>
    match cluster.nextCommand index now with
    | none => none
    | some (session, received) =>
      cluster.stepSession index session (.receive received) (session.read + 1)
  | .worker _ (.receive _) => none
  | .worker index action =>
    match cluster.sessions[index]? with
    | none => none
    | some session =>
      if session.admits action then
        cluster.stepSession index session action session.read
      else
        none
  | .shut index =>
    (cluster.sessions[index]?).bind fun session =>
      session.shut.map fun next =>
        { cluster with sessions := cluster.sessions.set index next }

section Moves

omit [Counter Count]

theorem exists_of_nextCommand
    {cluster : Cluster Count} {index : Nat} {now : Int} {session : Session} {received : Received}
    (next : cluster.nextCommand index now = some (session, received)) :
    ∃ channel request,
      cluster.sessions[index]? = some session ∧ cluster.master.channels[index]? = some channel ∧
        (session.phase ≠ .closed ∧ channel.receiverOpen = true) ∧
        channel.sent[session.read]? = some request ∧
        received = { label := session.read, now, request } := by
  unfold nextCommand at next
  split at next
  · rename_i present channel found there
    split at next
    · rename_i goesOn
      obtain ⟨request, unread, same⟩ := Option.map_eq_some_iff.mp next
      cases same
      exact ⟨channel, request, found, there, goesOn, unread, rfl⟩
    · cases next
  · cases next

theorem exists_of_stepSession {cluster next : Cluster Count} {index : Nat} {session : Session}
    {action : WorkerAction} {read : Nat}
    (taken : cluster.stepSession index session action read = some next) :
    ∃ worker,
      session.worker.Move session.params action worker ∧
        next =
          { cluster with
            sessions :=
              cluster.sessions.set index { session with worker, read } } := by
  obtain ⟨worker, stepped, same⟩ := Option.map_eq_some_iff.mp taken
  exact ⟨worker, Worker.move_of_step stepped, same.symm⟩

end Moves

inductive Move (params : ClusterParams) (cluster : Cluster Count) :
    ClusterAction Count → Cluster Count → Prop where
  | master (action : MasterAction Count) (master : MasterState Count)
      (move : cluster.master.Move params.master action master) :
      Move params cluster (.master action)
        { master
          sessions :=
            cluster.sessions ++
              (master.channels.drop cluster.sessions.length).map (.connect params.worker) }
  | receive (index : Nat) (now : Int) (session : Session) (channel : CommandChannel)
      (request : Proto.CommandRequest) (worker : Worker)
      (found : cluster.sessions[index]? = some session)
      (there : cluster.master.channels[index]? = some channel)
      (goesOn : session.phase ≠ .closed ∧ channel.receiverOpen = true)
      (unread : channel.sent[session.read]? = some request)
      (move :
        session.worker.Move session.params
          (.receive { label := session.read, now, request }) worker) :
      Move params cluster (.receive index now)
        { cluster with
          sessions :=
            cluster.sessions.set index
              { session with worker, read := session.read + 1 } }
  | worker (index : Nat) (action : WorkerAction) (session : Session) (worker : Worker)
      (other : ∀ received, action ≠ .receive received)
      (found : cluster.sessions[index]? = some session) (admitted : session.admits action = true)
      (move : session.worker.Move session.params action worker) :
      Move params cluster (.worker index action)
        { cluster with
          sessions := cluster.sessions.set index { session with worker } }
  | shut (index : Nat) (session next : Session) (found : cluster.sessions[index]? = some session)
      (taken : session.shut = some next) :
      Move params cluster (.shut index) { cluster with sessions := cluster.sessions.set index next }

section Inversion

variable {params : ClusterParams} {cluster next : Cluster Count}

private theorem move_of_worker {index : Nat} {action : WorkerAction}
    (other : ∀ received, action ≠ .receive received)
    (taken : cluster.step params (.worker index action) = some next) :
    Move params cluster (.worker index action) next := by
  obtain ⟨session, found, admitted, moved⟩ :
      ∃ session,
        cluster.sessions[index]? = some session ∧ session.admits action = true ∧
          cluster.stepSession index session action session.read = some next := by
    cases action with
    | receive received => exact False.elim (other received rfl)
    | _ =>
      simp only [step] at taken
      split at taken
      · cases taken
      · rename_i session found
        split at taken
        · rename_i admitted
          exact ⟨session, found, admitted, taken⟩
        · cases taken
  obtain ⟨worker, move, rfl⟩ := exists_of_stepSession moved
  exact .worker index action session worker other found admitted move

theorem move_of_step {action : ClusterAction Count}
    (taken : cluster.step params action = some next) :
    Move params cluster action next := by
  cases action with
  | master action =>
    obtain ⟨master, stepped, rfl⟩ := Option.map_eq_some_iff.mp taken
    exact .master action master (MasterState.move_of_step stepped)
  | receive index now =>
    simp only [step] at taken
    split at taken
    · cases taken
    · rename_i session received upcoming
      obtain ⟨channel, request, found, there, goesOn, unread, rfl⟩ := exists_of_nextCommand upcoming
      obtain ⟨worker, move, rfl⟩ := exists_of_stepSession taken
      exact .receive index now session channel request worker found there goesOn unread move
  | worker =>
    apply move_of_worker _ taken
    rintro received rfl
    cases taken
  | shut index =>
    obtain ⟨session, found, moved⟩ := Option.bind_eq_some_iff.mp taken
    obtain ⟨next, shut, rfl⟩ := Option.map_eq_some_iff.mp moved
    exact .shut index session next found shut

end Inversion

section Delivery

omit [Counter Count]

/-- The session has taken the first commands of the stream, in order and each once. -/
structure Follows (channel : CommandChannel) (session : Session) : Prop where
  commands : session.worker.commands = channel.sent.take session.read
  bound : session.read ≤ channel.sent.length
  labels : ∀ received ∈ session.worker.handled, received.label < session.read

def Connected (cluster : Cluster Count) : Prop :=
  ∀ (index : Nat) session,
    cluster.sessions[index]? = some session →
      ∃ channel, cluster.master.channels[index]? = some channel ∧ Follows channel session

theorem connected_new : Connected (new : Cluster Count) := by
  intro index session found
  simp [new] at found

theorem follows_connect (params : RunParams) (channel : CommandChannel) :
    Follows channel (.connect params channel) where
  commands := rfl
  bound := Nat.zero_le _
  labels := by
    intro received member
    cases member

variable {channel : CommandChannel} {session : Session}

theorem Follows.grow {grown : CommandChannel}
    (follows : Follows channel session) (more : List Proto.CommandRequest)
    (sent : grown.sent = channel.sent ++ more) :
    Follows grown session where
  commands := by
    rw [sent, List.take_append_of_le_length follows.bound]
    exact follows.commands
  bound := by
    rw [sent, List.length_append]
    exact follows.bound.trans (Nat.le_add_right _ _)
  labels := follows.labels

theorem Follows.receive {request : Proto.CommandRequest}
    {now : Int} {worker : Worker} (follows : Follows channel session)
    (unread : channel.sent[session.read]? = some request)
    (move :
      session.worker.Move session.params
        (.receive { label := session.read, now, request }) worker) :
    Follows channel { session with worker, read := session.read + 1 } where
  commands := by
    rw [Worker.commands_receive move, follows.commands, List.take_add_one, unread]
    rfl
  bound := lt_length_of_getElem?_eq_some unread
  labels := by
    cases move with
    | receive =>
      intro received member
      rcases List.mem_append.mp member with old | new
      · exact Nat.lt_succ_of_lt (follows.labels received old)
      · rw [List.mem_singleton.mp new]
        exact Nat.lt_succ_self session.read

theorem Follows.proceed {action : WorkerAction}
    {worker : Worker} (follows : Follows channel session)
    (other : ∀ received, action ≠ .receive received)
    (move : session.worker.Move session.params action worker) :
    Follows channel { session with worker } := by
  rcases Worker.handled_of_move move with ⟨received, taken, _⟩ | same
  · exact False.elim (other received taken)
  · refine ⟨?_, follows.bound, ?_⟩
    · rw [Worker.commands, same]
      exact follows.commands
    · rw [same]
      exact follows.labels

theorem Follows.shut {next : Session} (follows : Follows channel session)
    (kept : session.Kept next) : Follows channel next where
  commands := by
    rw [Worker.commands, kept.handled, kept.read]
    exact follows.commands
  bound := kept.read.trans_le follows.bound
  labels := by
    rw [kept.handled, kept.read]
    exact follows.labels

theorem Connected.follows {cluster : Cluster Count} {index : Nat}
    (connected : Connected cluster) (found : cluster.sessions[index]? = some session)
    (there : cluster.master.channels[index]? = some channel) :
    Follows channel session := by
  obtain ⟨same, present, follows⟩ := connected index session found
  rw [there] at present
  cases present
  exact follows

end Delivery

variable {params : ClusterParams} {cluster : Cluster Count}

theorem Connected.of_move {next : Cluster Count} {action : ClusterAction Count}
    (connected : Connected cluster) (move : Move params cluster action next) :
    Connected next := by
  cases move with
  | master action master move =>
    intro index session found
    rw [List.getElem?_append] at found
    split at found
    · obtain ⟨channel, there, follows⟩ := connected index session found
      obtain ⟨grown, grownThere, more, sent⟩ :=
        MasterState.streamsGrow_of_move move index channel there
      exact ⟨grown, grownThere, follows.grow more sent⟩
    · rename_i beyond
      rw [List.getElem?_map, List.getElem?_drop,
        Nat.add_sub_cancel' (Nat.le_of_not_lt beyond)] at found
      obtain ⟨channel, there, rfl⟩ := Option.map_eq_some_iff.mp found
      exact ⟨channel, there, follows_connect params.worker channel⟩
  | receive index now session channel request worker found there _ unread move =>
    have follows := connected.follows found there
    exact forall_set connected ⟨channel, there, follows.receive unread move⟩
  | worker index action session worker other found _ move =>
    obtain ⟨channel, there, follows⟩ := connected index session found
    exact forall_set connected ⟨channel, there, follows.proceed other move⟩
  | shut index session next found taken =>
    obtain ⟨channel, there, follows⟩ := connected index session found
    exact forall_set connected ⟨channel, there, follows.shut (Session.kept_of_shut taken)⟩

/-- In every run, each worker has handled a first part of what the master sent on its
command stream: nothing is lost, doubled or reordered. -/
theorem connected_of_reaches (reached : Reaches (step params) unguarded new cluster) :
    Connected cluster :=
  reached.invariant Connected
    (fun _ _ _ connected _ taken => connected.of_move (move_of_step taken)) connected_new

theorem receive_of_idle {index : Nat} {now : Int} {session : Session} {received : Received}
    (reached : Reaches (step params) unguarded new cluster)
    (upcoming : cluster.nextCommand index now = some (session, received))
    (idle : session.worker.loop = .idle) :
    ∃ next, cluster.step params (.receive index now) = some next := by
  obtain ⟨channel, request, found, there, _, unread, rfl⟩ := exists_of_nextCommand upcoming
  have follows := (connected_of_reaches reached).follows found there
  have fresh : session.read ∉ session.worker.handled.map Received.label := by
    intro member
    obtain ⟨earlier, handled, same⟩ := List.mem_map.mp member
    exact Nat.ne_of_lt (follows.labels earlier handled) same
  simp [step, upcoming, stepSession, Worker.step, idle, fresh]

/-! ## Which run a command cancels -/

omit [Counter Count] in
/-- `abort` comes to a worker only while the last START on its stream is of the aborted
run, and a worker takes a START only while no run with another id goes on. -/
def attributionGuard (cluster : Cluster Count) : ClusterAction Count → Prop
  | .master action => cluster.master.abortsLastStarted action
  | .receive index now =>
    ∀ next ∈ cluster.nextCommand index now, next.1.worker.exclusiveStart next.2.request
  | .worker _ _ | .shut _ => True

instance (cluster : Cluster Count) (action : ClusterAction Count) :
    Decidable (cluster.attributionGuard action) := by
  unfold attributionGuard
  rcases action with _ | _ <;> dsimp only <;> infer_instance

omit [Counter Count] in
structure Attributed (cluster : Cluster Count) : Prop where
  connected : Connected cluster
  orderly : cluster.master.Orderly
  sessions : ∀ session ∈ cluster.sessions, session.worker.Attributed session.params

omit [Counter Count] in
theorem attributed_new : Attributed (new : Cluster Count) where
  connected := connected_new
  orderly := MasterState.orderly_new
  sessions := by
    intro session member
    cases member

omit [Counter Count] in
theorem nextCommand_eq_some {index : Nat} {session : Session} {channel : CommandChannel}
    {request : Proto.CommandRequest} (now : Int) (found : cluster.sessions[index]? = some session)
    (there : cluster.master.channels[index]? = some channel)
    (goesOn : session.phase ≠ .closed ∧ channel.receiverOpen = true)
    (unread : channel.sent[session.read]? = some request) :
    cluster.nextCommand index now =
      some (session, { label := session.read, now, request }) := by
  simp [nextCommand, found, there, goesOn, unread]

theorem Attributed.of_move {next : Cluster Count} {action : ClusterAction Count}
    (attributed : Attributed cluster) (guarded : cluster.attributionGuard action)
    (move : Move params cluster action next) :
    Attributed next := by
  have connected := attributed.connected.of_move move
  cases move with
  | master action master move =>
    refine ⟨connected, attributed.orderly.of_move guarded move, ?_⟩
    intro session member
    rcases List.mem_append.mp member with old | new
    · exact attributed.sessions session old
    · obtain ⟨channel, _, rfl⟩ := List.mem_map.mp new
      exact Worker.attributed_new _
  | receive index now session channel request worker found there goesOn unread move =>
    refine ⟨connected, attributed.orderly, ?_⟩
    have follows := attributed.connected.follows found there
    have grounded := attributed.orderly.channels channel (List.mem_of_getElem? there)
    have known := attributed.sessions session (List.mem_of_getElem? found)
    apply forall_mem_set attributed.sessions
    apply known.of_move _ move
    intro received taken
    cases taken
    refine ⟨?_, guarded _ (nextCommand_eq_some now found there goesOn unread)⟩
    rw [follows.commands]
    exact grounded session.read request unread
  | worker index action session worker other found _ move =>
    refine ⟨connected, attributed.orderly, ?_⟩
    have known := attributed.sessions session (List.mem_of_getElem? found)
    apply forall_mem_set attributed.sessions
    exact known.of_move (fun received taken => False.elim (other received taken)) move
  | shut index session next found taken =>
    have known := attributed.sessions session (List.mem_of_getElem? found)
    have kept := Session.kept_of_shut taken
    refine ⟨connected, attributed.orderly, forall_mem_set attributed.sessions ?_⟩
    rw [kept.params]
    exact kept.attributed known

/-- In every run that meets the guard, a STOP or ABORT that a worker handles cancels no
run but the one for which it was issued. -/
theorem command_cancels_own_run (params : ClusterParams) (cluster : Cluster Count)
    (reached : Reaches (step params) attributionGuard new cluster) :
    ∀ session ∈ cluster.sessions, session.worker.CancelsOwnRun := by
  have attributed : Attributed cluster :=
    reached.invariant Attributed
      (fun _ _ _ attributed guarded taken => attributed.of_move guarded (move_of_step taken))
      attributed_new
  exact fun session member => (attributed.sessions session member).own

section Samples

open MasterAction (enrol advance)
open ClusterAction (masterSteps handle)

theorem command_cancels_own_run_sample :
    ∃ cluster : Cluster Nat,
      Reaches (step .sample) attributionGuard new cluster ∧
        (cluster.sessions.flatMap (fun session => session.worker.cancellations)).map
            Cancellation.testRunId = ["run-a"] ∧
        ∀ session ∈ cluster.sessions, session.worker.CancelsOwnRun :=
  Reaches.exists_and_of_executeChecked
    (masterSteps (enrol "w" ++ [MasterAction.beginStart (sampleConfig "run-a") 1] ++ advance 0 4) ++
      handle 0 0 4 ++ masterSteps [MasterAction.beginAbort, .abort 0, .abort 0, .abort 0] ++
      handle 0 1 1)
    (by decide +kernel) (fun cluster reached _ => command_cancels_own_run .sample cluster reached)

/-- `abort` has taken run-a when run-b is started on the same worker; the worker handles
the START of run-b and then the ABORT of run-a, and cancels run-b. -/
theorem abort_cancels_other_run_sample :
    ¬ ∀ cluster : Cluster Nat,
        Reaches (step .sample) unguarded new cluster →
          ∀ session ∈ cluster.sessions, session.worker.CancelsOwnRun :=
  Reaches.not_forall_of_executeChecked _
    (masterSteps
        (enrol "w" ++ [MasterAction.beginStart (sampleConfig "run-a") 1] ++ advance 0 2 ++
          [MasterAction.beginAbort, .abort 0, .abort 0] ++
          [MasterAction.beginStart (sampleConfig "run-b") 1] ++ advance 1 4 ++
          [MasterAction.abort 0]) ++
      handle 0 0 4 ++ handle 0 1 1) (by decide +kernel) (fun _ _ foreign => foreign)

end Samples

end Cluster

end Strobengine.Distributed
