import Strobengine.Distributed.Cluster

/-!
# Commands and their answers

A worker answers a command when it has handled it, and takes the next one after that.
-/

namespace Strobengine.Distributed

open Rust Foundations Distributed.Master

/-- The command in hand, which is not answered yet. -/
def CommandLoop.unanswered : CommandLoop → List Proto.CommandRequest
  | idle => []
  | handling received _ => [received.request]

namespace Worker

def answeredIds (worker : Worker) : List String :=
  worker.responses.map (fun answer => answer.2.commandId)

/-- The responses answer the commands in order, all but the one in hand. -/
def Answers (worker : Worker) : Prop :=
  worker.commands.map Proto.CommandRequest.commandId =
    worker.answeredIds ++ worker.loop.unanswered.map Proto.CommandRequest.commandId

theorem answers_new : new.Answers :=
  rfl

theorem Answers.of_move {params : RunParams} {worker next : Worker} {action : WorkerAction}
    (answers : worker.Answers) (move : Move params worker action next) : next.Answers := by
  unfold Answers commands answeredIds at *
  cases move with
  | receive received idle =>
    rw [idle] at answers
    simp [receive, CommandLoop.unanswered, answers]
  | acknowledge received status errorMessage handling =>
    rw [handling] at answers
    simp [CommandLoop.unanswered, answers, Received.response]
  | task => exact answers
  | heartbeatAbort => rwa [handled_cancelRun, responses_cancelRun, loop_cancelRun]
  | abort received handling =>
    rw [handling] at answers
    rwa [handled_cancelRun, responses_cancelRun]
  | _ received =>
    have handling : ∃ stage, worker.loop = .handling received stage := ⟨_, ‹_›⟩
    obtain ⟨stage, handling⟩ := handling
    rw [handling] at answers
    exact answers

end Worker

namespace Cluster

variable {Count : Type} [Counter Count] {params : ClusterParams} {cluster : Cluster Count}

theorem answers_of_reaches (reached : Reaches (step params) unguarded new cluster) :
    ∀ session ∈ cluster.sessions, session.worker.Answers := by
  apply reached.invariant (fun cluster => ∀ session ∈ cluster.sessions, session.worker.Answers)
  · intro cluster action next answers _ taken
    cases move_of_step taken with
    | master =>
      intro session member
      rcases List.mem_append.mp member with old | new
      · exact answers session old
      · obtain ⟨channel, _, rfl⟩ := List.mem_map.mp new
        exact Worker.answers_new
    | receive _ _ session _ _ _ found _ _ _ move | worker _ _ session _ _ found _ move =>
      exact forall_mem_set answers ((answers session (List.mem_of_getElem? found)).of_move move)
    | shut _ session _ found closing =>
      have kept := Session.kept_of_shut closing
      refine forall_mem_set answers ?_
      rw [Worker.Answers, Worker.commands, Worker.answeredIds, kept.handled, kept.responses,
        kept.loop]
      exact answers session (List.mem_of_getElem? found)
  · intro session member
    cases member

omit [Counter Count] in
/-- The session is closed, with these commands taken and answered. -/
def ClosedAs (index : Nat) (session : Session) (cluster : Cluster Count) : Prop :=
  ∃ same,
    cluster.sessions[index]? = some same ∧ same.phase = .closed ∧ same.read = session.read ∧
      same.worker.responses = session.worker.responses

theorem ClosedAs.of_move {index : Nat} {session : Session} {action : ClusterAction Count}
    {next : Cluster Count} (closed : ClosedAs index session cluster)
    (move : Move params cluster action next) : ClosedAs index session next := by
  obtain ⟨same, found, phase, read, responses⟩ := closed
  have elsewhere {other : Nat} (moved : Session) (different : other ≠ index) :
      (cluster.sessions.set other moved)[index]? = some same :=
    (List.getElem?_set_ne different).trans found
  cases move with
  | master =>
    refine ⟨same, ?_, phase, read, responses⟩
    rwa [List.getElem?_append_left (lt_length_of_getElem?_eq_some found)]
  | receive other now taker channel request worker takes there goesOn unread move =>
    by_cases here : other = index
    · subst here
      cases found.symm.trans takes
      exact absurd phase goesOn.1
    · exact ⟨same, elsewhere _ here, phase, read, responses⟩
  | worker other action taker worker commands takes admitted move =>
    by_cases here : other = index
    · subst here
      cases found.symm.trans takes
      refine ⟨_, List.getElem?_set_self (lt_length_of_getElem?_eq_some found), phase, read, ?_⟩
      -- what goes on after the loops is only the run tasks
      cases move with
      | task => exact responses
      | _ => simp [Session.admits, phase] at admitted
    · exact ⟨same, elsewhere _ here, phase, read, responses⟩
  | shut other taker moved takes closing =>
    by_cases here : other = index
    · subst here
      cases found.symm.trans takes
      simp [Session.shut, phase] at closing
    · exact ⟨same, elsewhere _ here, phase, read, responses⟩

/-- The session has answered the first commands of its stream in order. It may have one more
in hand; it can take the next one exactly if it has none in hand, is not closed and its stream was
not dropped. Closed, it answers nothing more. -/
structure Serves (params : ClusterParams) (cluster : Cluster Count) (index : Nat)
    (channel : CommandChannel) (session : Session) : Prop where
  answered : session.worker.answeredIds <+: channel.sent.map Proto.CommandRequest.commandId
  read :
    session.read = session.worker.answeredIds.length + session.worker.loop.unanswered.length
  bound : session.read ≤ channel.sent.length
  ready :
    ∀ now,
      (∃ next, cluster.step params (.receive index now) = some next) ↔
        session.worker.loop = .idle ∧ session.read < channel.sent.length ∧
          session.phase ≠ .closed ∧ channel.receiverOpen = true
  closed :
    session.phase = .closed →
      ∀ later, Reaches (step params) unguarded cluster later → ClosedAs index session later

/-- No command of the master is lost, answered twice or answered out of turn. -/
theorem commands_answered_in_order (reached : Reaches (step params) unguarded new cluster) :
    ∀ (index : Nat) session, cluster.sessions[index]? = some session →
      ∃ channel, cluster.master.channels[index]? = some channel ∧
        Serves params cluster index channel session := by
  intro index session found
  obtain ⟨channel, there, follows⟩ := connected_of_reaches reached index session found
  have answers := answers_of_reaches reached session (List.mem_of_getElem? found)
  rw [Worker.Answers, follows.commands, List.map_take] at answers
  refine ⟨channel, there, ?_, ?_, follows.bound, ?_, ?_⟩
  · exact (List.prefix_append _ _).trans (answers ▸ List.take_prefix _ _)
  · have lengths := congrArg List.length answers
    simpa [follows.bound] using lengths
  · intro now
    constructor
    · rintro ⟨next, taken⟩
      cases move_of_step taken with
      | receive _ _ taker stream request worker takes streams goesOn unread move =>
        cases found.symm.trans takes
        cases there.symm.trans streams
        cases move with
        | receive _ idle => exact ⟨idle, lt_length_of_getElem?_eq_some unread, goesOn⟩
    · rintro ⟨idle, unread, goesOn⟩
      have next := List.getElem?_eq_getElem unread
      exact receive_of_idle reached (nextCommand_eq_some now found there goesOn next) idle
  · intro phase later continued
    exact
      continued.invariant (ClosedAs index session)
        (fun _ _ _ closed _ taken => closed.of_move (move_of_step taken))
        ⟨session, found, phase, rfl, rfl⟩

open MasterAction (enrol advance)
open ClusterAction (masterSteps handle)

theorem commands_answered_in_order_sample :
    ∃ cluster : Cluster Nat, Reaches (step .sample) unguarded new cluster ∧
      cluster.sessions.map (fun session => (session.worker.answeredIds, session.phase)) =
          [(["cmd-run-a-start"], .running), ([], .closed)] ∧
        ∀ (index : Nat) session, cluster.sessions[index]? = some session →
          ∃ channel, cluster.master.channels[index]? = some channel ∧
            Serves .sample cluster index channel session :=
  Reaches.exists_and_of_executeChecked
    (masterSteps (enrol "w" ++ [MasterAction.beginStart (sampleConfig "run-a") 1] ++ advance 0 4) ++
      handle 0 0 4 ++ masterSteps (enrol "x") ++ [.shut 1, .shut 1])
    (by decide +kernel) (fun _ reached _ => commands_answered_in_order reached)

end Cluster

end Strobengine.Distributed
