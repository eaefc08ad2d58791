import Strobengine.Distributed.Master.Accounting

/-!
# One run from its START to its report

The invariant of a whole run, stage by stage of its `start_run` call, and the two results
about the report: it counts every batch of the run once, and it can be produced as soon
as the workers are done.
-/

namespace Strobengine.Distributed.Master

open Rust Foundations

variable {Count : Type} [Counter Count]

/-- What is known of the run at each stage of its call, given the workers allocated to it
and the run it has installed. -/
inductive Stage
    (run : Option ActiveRun) (pipelines : List (PipelineTask Count))
    (streams : List (TelemetryStream Count)) (allocated : List String) :
    Option RunKey → StartPhase Count → Prop where
  | waitingBarrier (free : run = none) (silent : streams = []) :
      Stage run pipelines streams allocated none .waitingBarrier
  | installing (free : run = none) (silent : streams = [])
      (allocation : Registry.Allocation allocated) :
      Stage run pipelines streams allocated none .installing
  | active (key : RunKey) (phase : StartPhase Count) (holds : phase.holding = true)
      (early : phase ≠ .taking) (active : Active run pipelines streams key) :
      Stage run pipelines streams allocated (some key) phase
  | taking (key : RunKey) (active : Active run pipelines streams key) (done : AllDone key streams) :
      Stage run pipelines streams allocated (some key) .taking
  | finalizing (taken : ActiveRun) (settled : Settled streams taken.key)
      (ledger : Ledger pipelines streams taken.key) :
      Stage run pipelines streams allocated (some taken.key) (.finalizing taken)
  | awaiting (taken : ActiveRun) (settled : Settled streams taken.key)
      (reporting : Reporting pipelines streams taken.key) :
      Stage run pipelines streams allocated (some taken.key) (.awaitingReport taken)
  | closing (key : RunKey) (taken : ActiveRun) (report : GlobalReport Count)
      (settled : Settled streams key) (counts : report.Counts (streamed streams)) :
      Stage run pipelines streams allocated (some key) (.closing taken report)
  | returned (key : RunKey) (report : GlobalReport Count) (settled : Settled streams key)
      (counts : report.Counts (streamed streams)) :
      Stage run pipelines streams allocated (some key) (.returned (.ok report))
  | failed (key? : Option RunKey) (error : MasterError) :
      Stage run pipelines streams allocated key? (.returned (.error error))

namespace Stage

variable {run : Option ActiveRun} {pipelines : List (PipelineTask Count)}
  {streams : List (TelemetryStream Count)} {allocated : List String}
  {key? : Option RunKey} {phase : StartPhase Count}

/-! ## Steps of the call -/

theorem hold (stage : Stage run pipelines streams allocated key? phase)
    (holds : phase.holding = true)
    {later : StartPhase Count} (holdsOn : later.holding = true) (early : later ≠ .taking) :
    Stage run pipelines streams allocated key? later := by
  cases stage with
  | active key _ _ _ active => exact .active key later holdsOn early active
  | taking key active => exact .active key later holdsOn early active
  | waitingBarrier | installing | finalizing | awaiting | closing | returned | failed => cases holds

theorem allocate (stage : Stage run pipelines streams allocated key? .waitingBarrier)
    {chosen : List String} (allocation : Registry.Allocation chosen) :
    key? = none ∧ Stage run pipelines streams chosen none .installing := by
  cases stage with
  | waitingBarrier free silent => exact ⟨rfl, .installing free silent allocation⟩
  | active key _ holds => cases holds

theorem run_ne_none (stage : Stage run pipelines streams allocated key? phase)
    (holds : phase.holding = true) :
    run ≠ none := by
  cases stage with
  | active key _ _ _ active | taking key active done =>
    obtain ⟨present, there, _⟩ := active.slot
    rw [there]
    exact Option.some_ne_none present
  | waitingBarrier | installing | finalizing | awaiting | closing | returned | failed => cases holds

variable {present : ActiveRun}

theorem complete
    (stage : Stage run pipelines streams allocated key? .checking) (there : run = some present)
    (enough : present.allocated.length ≤ present.telemetryDone.card) :
    Stage run pipelines streams allocated key? .taking := by
  cases stage with
  | active key _ holds early active => exact .taking key active (active.allDone there enough)

theorem enough {key : RunKey} (stage : Stage run pipelines streams allocated (some key) .checking)
    (done : AllDone key streams) (there : run = some present) :
    present.allocated.length ≤ present.telemetryDone.card := by
  cases stage with
  | active _ _ holds early active => exact active.enough there done

theorem take {after : Option ActiveRun}
    (stage : Stage run pipelines streams allocated key? .taking) (there : run = some present) :
    Stage after pipelines streams allocated key? (.finalizing present) := by
  cases stage with
  | active key _ holds early => exact absurd rfl early
  | taking key active done =>
    obtain ⟨other, found, same, _⟩ := active.slot
    rw [there] at found
    cases found
    subst same
    exact .finalizing present ⟨active.allocation, active.own, done⟩ active.ledger

variable {taken : ActiveRun}

theorem running (stage : Stage run pipelines streams allocated key? (.finalizing taken)) :
    ∃ task, pipelines[taken.pipeline]? = some task ∧ task.running = true := by
  cases stage with
  | active key _ holds => cases holds
  | finalizing _ settled ledger =>
    obtain ⟨task, queued, there, collects, _⟩ := ledger
    exact ⟨task, there, collects.running⟩

theorem finalize {state : MasterState Count}
    (stage : Stage run state.pipelines streams allocated key? (.finalizing taken)) :
    Stage run (state.sendPipeline taken.pipeline .finalize).pipelines streams allocated key?
      (.awaitingReport taken) := by
  cases stage with
  | active key _ holds => cases holds
  | finalizing _ settled ledger => exact .awaiting taken settled (settled.reporting ledger)

variable {report : GlobalReport Count}

theorem reply {task : PipelineTask Count}
    (stage : Stage run pipelines streams allocated key? (.awaitingReport taken))
    (found : pipelines[taken.pipeline]? = some task) (replied : task.reply = some report) :
    Stage run pipelines streams allocated key? (.closing taken report) := by
  cases stage with
  | active key _ holds => cases holds
  | awaiting _ settled reporting =>
    exact .closing taken.key taken report settled (reporting.counts found replied)

theorem reporting {key : RunKey}
    (stage : Stage run pipelines streams allocated (some key) (.awaitingReport taken)) :
    taken.key = key ∧
      ∃ task, pipelines[taken.pipeline]? = some task ∧ task.Reports (streamed streams) := by
  cases stage with
  | active _ _ holds => cases holds
  | awaiting _ settled reporting => exact ⟨rfl, reporting⟩

theorem close {after : List (PipelineTask Count)}
    (stage : Stage run pipelines streams allocated key? (.closing taken report)) :
    Stage run after streams allocated key? (.returned (.ok report)) := by
  cases stage with
  | active key _ holds => cases holds
  | closing key _ _ settled counts => exact .returned key report settled counts

theorem counts (stage : Stage run pipelines streams allocated key? phase)
    (reported : phase.report = some report) :
    report.Counts (streamed streams) := by
  cases stage with
  | active key _ holds =>
    rw [(StartPhase.of_holding holds).2.2] at reported
    cases reported
  | closing key taken _ settled counts =>
    cases reported
    exact counts
  | returned key _ settled counts =>
    cases reported
    exact counts
  | waitingBarrier | installing | taking | finalizing | awaiting | failed => cases reported

theorem keyed (stage : Stage run pipelines streams allocated key? phase)
    (holds : phase.holding = true) :
    ∃ key, key? = some key := by
  cases stage with
  | active key => exact ⟨key, rfl⟩
  | taking key => exact ⟨key, rfl⟩
  | waitingBarrier | installing | finalizing | awaiting | closing | returned | failed => cases holds

theorem install {params : MasterParams} {state : MasterState Count} {index : Nat}
    {call : StartCall Count} (runId : String)
    (stage : Stage state.run state.pipelines streams call.allocated key? .installing) :
    Stage (state.install params index call runId).run
      (state.install params index call runId).pipelines streams call.allocated
      (some ⟨runId, call.allocated, state.pipelines.length⟩)
      (.broadcasting call.allocated 0) := by
  cases stage with
  | active key _ holds => cases holds
  | installing free silent allocation =>
    subst silent
    refine .active _ _ rfl nofun ⟨allocation, ⟨?_, ?_⟩, ⟨_, rfl, rfl, ?_⟩, ?_⟩
    · intro position stream found
      simp at found
    · intro first second stream other found
      simp at found
    · simp [Closed]
    · exact ⟨_, [], List.getElem?_concat_length, PipelineTask.collects_spawn _ _ _, rfl⟩

/-! ## Steps of the others -/

theorem frame {after : Option ActiveRun} {pipelines' : List (PipelineTask Count)}
    (stage : Stage run pipelines streams allocated key? phase) (free : run = none → after = none)
    (active : ∀ key, Active run pipelines streams key → Active after pipelines' streams key)
    (ledger : ∀ key, Ledger pipelines streams key → Ledger pipelines' streams key)
    (reporting : ∀ key, Reporting pipelines streams key → Reporting pipelines' streams key) :
    Stage after pipelines' streams allocated key? phase := by
  cases stage with
  | waitingBarrier none silent => exact .waitingBarrier (free none) silent
  | installing none silent allocation => exact .installing (free none) silent allocation
  | active key _ holds early present => exact .active key _ holds early (active key present)
  | taking key present done => exact .taking key (active key present) done
  | finalizing taken settled known => exact .finalizing taken settled (ledger _ known)
  | awaiting taken settled known => exact .awaiting taken settled (reporting _ known)
  | closing key taken report settled counts => exact .closing key taken report settled counts
  | returned key report settled counts => exact .returned key report settled counts
  | failed key? error => exact .failed key? error

theorem slot {change : ActiveRun → ActiveRun}
    (stage : Stage run pipelines streams allocated key? phase)
    (same : ∀ present, (change present).key = present.key)
    (done : ∀ present, (change present).telemetryDone = present.telemetryDone) :
    Stage (run.map change) pipelines streams allocated key? phase := by
  refine stage.frame (fun free => by rw [free]; rfl) ?_ (fun _ => id) (fun _ => id)
  intro key active
  obtain ⟨present, there, named, closed⟩ := active.slot
  refine ⟨active.allocation, active.own, ⟨change present, ?_, ?_, ?_⟩, active.ledger⟩
  · rw [there, Option.map_some]
  · rw [same, named]
  · rw [done]
    exact closed

theorem pipeline {index : Nat} {task next : PipelineTask Count}
    (stage : Stage run pipelines streams allocated key? phase)
    (found : pipelines[index]? = some task) (move : MasterState.PipelineMove task next) :
    Stage run (pipelines.set index next) streams allocated key? phase := by
  refine stage.frame id ?_ ?_ ?_
  · exact fun key active =>
      ⟨active.allocation, active.own, active.slot, active.ledger.pipeline found move⟩
  · exact fun key ledger => ledger.pipeline found move
  · exact fun key reporting => reporting.pipeline found move

theorem openStream {opened : TelemetryStream Count}
    (stage : Stage run pipelines streams allocated key? phase) (started : key?.isSome = true)
    (fresh : opened.received = [] ∧ opened.workerId = "" ∧ opened.phase = .reading) :
    Stage run pipelines (streams ++ [opened]) allocated key? phase := by
  have hand : opened.inHand = [] := by rw [TelemetryStream.inHand, fresh.2.2]
  have unclosed : opened.isClosed = false := by rw [TelemetryStream.isClosed, fresh.2.2]
  have keeps :
      ∀ key, Active run pipelines streams key → Active run pipelines (streams ++ [opened]) key := by
    intro key active
    obtain ⟨present, there, named, done⟩ := active.slot
    refine
      ⟨active.allocation, active.own.concat active.allocation.named fresh,
        ⟨present, there, named, ?_⟩, active.ledger.openStream fresh.1 hand⟩
    intro workerId
    rw [closed_concat_iff unclosed]
    exact done workerId
  have counted : streamed (streams ++ [opened]) = streamed streams := by
    simp [streamed, fresh.1]
  cases stage with
  | waitingBarrier | installing => cases started
  | active key _ holds early active => exact .active key _ holds early (keeps key active)
  | taking key active done =>
    exact
      .taking key (keeps key active)
        (fun workerId member => (closed_concat_iff unclosed).mpr (done workerId member))
  | finalizing taken settled ledger =>
    exact .finalizing taken (settled.openStream fresh) (ledger.openStream fresh.1 hand)
  | awaiting taken settled reporting =>
    refine .awaiting taken (settled.openStream fresh) ?_
    unfold Reporting
    rw [counted]
    exact reporting
  | closing key taken report settled counts =>
    exact .closing key taken report (settled.openStream fresh) (by rw [counted]; exact counts)
  | returned key report settled counts =>
    exact .returned key report (settled.openStream fresh) (by rw [counted]; exact counts)
  | failed key? error => exact .failed key? error

end Stage

theorem Active.of_stream
    {state next : MasterState Count} {streams : List (TelemetryStream Count)} {key : RunKey}
    {index position : Nat} {stream : TelemetryStream Count} {action : StreamAction Count}
    (active : Active state.run state.pipelines streams key)
    (found : streams[position]? = some stream) (permitted : permits key streams stream action)
    (move : MasterState.StreamMove state index stream action next) :
    ∃ moved,
      next.streams = state.streams.set index moved ∧
        Active next.run next.pipelines (streams.set position moved) key := by
  cases move with
  | receive batch phase => exact ⟨_, rfl, active.receive found phase permitted⟩
  | lookup batch phase => exact ⟨_, rfl, active.lookup found phase⟩
  | discard batch phase =>
    have target := (active.own.belong position stream found).forwarding batch none phase
    cases target
  | forward batch pipeline phase => exact ⟨_, rfl, active.forward found phase⟩
  | halfClose phase => exact ⟨_, rfl, active.halfClose found phase permitted⟩
  | fail => exact False.elim permitted
  | mark phase => exact ⟨_, rfl, active.mark found phase⟩

theorem Stage.of_stream {state next : MasterState Count} {streams : List (TelemetryStream Count)}
    {allocated : List String} {key? : Option RunKey} {phase : StartPhase Count}
    {index position : Nat} {stream : TelemetryStream Count} {action : StreamAction Count}
    (stage : Stage state.run state.pipelines streams allocated key? phase)
    (found : streams[position]? = some stream)
    (permitted : ∀ key ∈ key?, permits key streams stream action)
    (move : MasterState.StreamMove state index stream action next) :
    ∃ moved,
      next.streams = state.streams.set index moved ∧
        Stage next.run next.pipelines (streams.set position moved) allocated key? phase := by
  cases stage with
  | waitingBarrier free silent | installing free silent allocation =>
    subst silent
    simp at found
  | active key _ holds early active =>
    obtain ⟨moved, changed, activeOn⟩ := active.of_stream found (permitted key rfl) move
    exact ⟨moved, changed, .active key _ holds early activeOn⟩
  | taking key active done =>
    have settled : Settled streams key := ⟨active.allocation, active.own, done⟩
    exact (settled.no_move found (permitted key rfl) move).elim
  | finalizing taken settled => exact (settled.no_move found (permitted taken.key rfl) move).elim
  | awaiting taken settled => exact (settled.no_move found (permitted taken.key rfl) move).elim
  | closing key taken report settled => exact (settled.no_move found (permitted key rfl) move).elim
  | returned key report settled => exact (settled.no_move found (permitted key rfl) move).elim
  | failed key? error =>
    cases move with
    | receive | lookup | discard | forward | halfClose | fail | mark =>
      exact ⟨_, rfl, .failed key? error⟩

namespace StartPhase

omit [Counter Count]

def due : StartPhase Count → Bool
  | .checking => true
  | .pausing => true
  | .taking => true
  | .finalizing _ => true
  | .awaitingReport _ => true
  | .closing _ _ => true
  | .returned (.ok _) => true
  | _ => false

def rank : StartPhase Count → Nat
  | .pausing => 8
  | .checking => 7
  | .taking => 6
  | .finalizing _ => 5
  | .awaitingReport _ => 3
  | .closing _ _ => 2
  | _ => 0

end StartPhase

namespace MasterState

/-! ## The whole run -/

def keyOf (state : MasterState Count) (call : Nat) : Option RunKey :=
  (state.starts[call]?).bind StartCall.key?

/-- There is one call and no `abort`, no deadline is reached, and the streams opened since
the call began, from number `first` on, are those of its run; earlier streams are
silent. -/
def soleRun (call first : Nat) (state : MasterState Count) : MasterAction Count → Prop
  | .beginStart _ _ => False
  | .beginAbort => False
  | .abort _ => False
  | .start index action => index = call ∧ action ≠ .timeout
  | .openStream => (state.keyOf call).isSome = true
  | .stream index action =>
    first ≤ index ∧
      ∀ key ∈ state.keyOf call, ∀ stream ∈ state.streams[index]?,
        permits key (state.streams.drop first) stream action
  | _ => True

instance (call first : Nat) (state : MasterState Count) (action : MasterAction Count) :
    Decidable (soleRun call first state action) := by
  unfold soleRun
  rcases action with _ | _ <;> dsimp only <;> infer_instance

structure InRun (call first : Nat) (state : MasterState Count) : Prop where
  opened : first ≤ state.streams.length
  stage :
    ∃ found : StartCall Count,
      state.starts[call]? = some found ∧
        Stage state.run state.pipelines (state.streams.drop first) found.allocated
          found.key? found.phase

section Steps

variable {params : MasterParams} {state next : MasterState Count} {call first : Nat}

theorem InRun.install {found : StartCall Count} (runId : String)
    (opened : first ≤ state.streams.length) (there : state.starts[call]? = some found)
    (phase : found.phase = .installing)
    (stage :
      Stage state.run state.pipelines (state.streams.drop first) found.allocated found.key?
        found.phase) :
    InRun call first (state.install params call found runId) := by
  rw [phase] at stage
  exact ⟨opened, _, getElem?_set_of_some _ there, stage.install runId⟩

theorem InRun.of_start {found : StartCall Count} {now : Int} (opened : first ≤ state.streams.length)
    (there : state.starts[call]? = some found)
    (stage :
      Stage state.run state.pipelines (state.streams.drop first) found.allocated found.key?
        found.phase)
    (move : StartMove params state call found (.advance now) next) :
    InRun call first next := by
  have moved := fun after : StartCall Count => getElem?_set_of_some after there
  cases move with
  | waitOn => exact ⟨opened, found, there, stage⟩
  | refuse | abandon | takeNone | stopped => exact ⟨opened, _, moved _, .failed _ _⟩
  | allocate _ allocated phase decided =>
    rw [phase] at stage
    obtain ⟨uninstalled, stageOn⟩ := stage.allocate (Registry.allocation_of_allocate decided)
    have empty : found.installed = none := StartCall.key?_eq_none_iff.mp uninstalled
    have unkeyed :
        ({ found with
            allocated
            phase := .installing } : StartCall Count).key? = none :=
      StartCall.key?_eq_none_iff.mpr empty
    exact ⟨opened, _, moved _, by rw [unkeyed]; exact stageOn⟩
  | install _ phase => exact .install _ opened there phase stage
  | vanished _ phase free =>
    rw [phase] at stage
    exact absurd free (stage.run_ne_none rfl)
  | complete _ run phase active done =>
    rw [phase] at stage
    exact ⟨opened, _, moved _, stage.complete active done⟩
  | take _ run phase active =>
    rw [phase] at stage
    exact ⟨opened, _, moved _, stage.take active⟩
  | finalize _ run task phase =>
    rw [phase] at stage
    exact ⟨opened, _, moved _, stage.finalize⟩
  | reply _ run task report phase present replied =>
    rw [phase] at stage
    exact ⟨opened, _, moved _, stage.reply present replied⟩
  | close _ run report phase =>
    rw [phase] at stage
    exact ⟨opened, _, moved _, stage.close⟩
  | _ =>
    rw [‹found.phase = _›] at stage
    exact ⟨opened, _, moved _, stage.hold rfl rfl nofun⟩

theorem InRun.of_move {action : MasterAction Count} (inRun : InRun call first state)
    (guarded : soleRun call first state action) (move : Move params state action next) :
    InRun call first next := by
  obtain ⟨opened, found, there, stage⟩ := inRun
  have key : state.keyOf call = found.key? := by rw [keyOf, there, Option.bind_some]
  cases move with
  | beginStart | beginAbort | abort => exact guarded.elim
  | start index action moving next present move =>
    obtain ⟨rfl, untimed⟩ := guarded
    rw [there] at present
    cases present
    cases action with
    | advance => exact .of_start opened there stage move
    | timeout => exact absurd rfl untimed
  | openStream =>
    refine ⟨?_, found, there, ?_⟩
    · rw [List.length_append]
      exact Nat.le_add_right_of_le opened
    · rw [List.drop_append_of_le_length opened]
      exact stage.openStream (key ▸ guarded) ⟨rfl, rfl, rfl⟩
  | stream index action stream next present move =>
    obtain ⟨own, permitted⟩ := guarded
    have position : (state.streams.drop first)[index - first]? = some stream := by
      rw [List.getElem?_drop, Nat.add_sub_cancel' own]
      exact present
    obtain ⟨moved, changed, stageOn⟩ :=
      stage.of_stream position (fun run listed => permitted run (key ▸ listed) stream present)
        move
    have starts : next.starts = state.starts := by
      cases move <;> rfl
    refine ⟨?_, found, ?_, ?_⟩
    · rw [changed, List.length_set]
      exact opened
    · rw [starts]
      exact there
    · rw [changed, List.drop_set, if_neg (Nat.not_lt.mpr own)]
      exact stageOn
  | pipeline index task moved present move =>
    exact ⟨opened, found, there, stage.pipeline present move⟩
  | registry | watchCommands | closeCommands => exact ⟨opened, found, there, stage⟩
  | acknowledge =>
    refine ⟨opened, found, there, stage.slot ?_ ?_⟩
    · intro present
      split <;> rfl
    · intro present
      split <;> rfl

def begun (state : MasterState Count) (config : Proto.TestConfiguration) (expected : Nat) :
    MasterState Count :=
  { state with
    starts :=
      state.starts ++
        [{ config
           expected
           allocated := []
           installed := none
           waitExit := none
           phase := .waitingBarrier }] }

theorem inRun_begun (before : MasterState Count) (idle : before.run = none)
    (config : Proto.TestConfiguration) (expected : Nat) :
    InRun before.starts.length before.streams.length (before.begun config expected) where
  opened := Nat.le_refl _
  stage :=
    ⟨_, List.getElem?_concat_length, .waitingBarrier idle (List.drop_length)⟩

theorem inRun_of_reaches
    {before : MasterState Count} {config : Proto.TestConfiguration} {expected : Nat}
    (idle : before.run = none)
    (reached :
      Reaches (step params) (soleRun before.starts.length before.streams.length)
        (before.begun config expected) state) :
    InRun before.starts.length before.streams.length state :=
  reached.invariant (InRun _ _)
    (fun _ _ _ inRun guarded taken => inRun.of_move guarded (move_of_step taken))
    (inRun_begun before idle config expected)

end Steps

section Progress

variable {params : MasterParams} {state next : MasterState Count} {call first : Nat}

def queued (state : MasterState Count) (index : Nat) : Nat :=
  (state.pipelines[index]?).elim 0 (fun task => task.queue.length)

def remaining (call : Nat) (state : MasterState Count) : Nat :=
  (state.starts[call]?).elim 0 (fun found =>
    found.phase.rank + found.key?.elim 0 (fun key => state.queued key.pipeline))

def Returned (call : Nat) (state : MasterState Count) : Prop :=
  ∃ found report, state.starts[call]? = some found ∧ found.phase = .returned (.ok report)

structure Due
    (call first : Nat) (state : MasterState Count) (found : StartCall Count) (key : RunKey) :
    Prop where
  there : state.starts[call]? = some found
  keyed : found.key? = some key
  stage :
    Stage state.run state.pipelines (state.streams.drop first) found.allocated (some key)
      found.phase
  done : AllDone key (state.streams.drop first)
  due : found.phase.due = true

variable {found : StartCall Count} {key : RunKey}

theorem Due.remaining_eq (due : Due call first state found key) :
    state.remaining call = found.phase.rank + state.queued key.pipeline := by
  rw [remaining, due.there, Option.elim_some, due.keyed, Option.elim_some]

def Progresses
    (params : MasterParams) (call first : Nat) (key : RunKey) (state : MasterState Count) :
    Prop :=
  ∃ action next,
    soleRun call first state action ∧ state.step params action = some next ∧
      (∃ moved, Due call first next moved key) ∧ next.remaining call < state.remaining call

theorem Due.advance (due : Due call first state found key)
    (moved : StartCall Count) (next : MasterState Count)
    (taken : state.stepStart params call found (.advance 0) = some next)
    (starts : next.starts = state.starts.set call moved) (streams : next.streams = state.streams)
    (keyed : moved.key? = some key)
    (stage :
      Stage next.run next.pipelines (state.streams.drop first) moved.allocated (some key)
        moved.phase)
    (dueOn : moved.phase.due = true)
    (closer :
      moved.phase.rank + next.queued key.pipeline < found.phase.rank + state.queued key.pipeline) :
    Progresses params call first key state := by
  have later : Due call first next moved key := by
    refine ⟨?_, keyed, ?_, ?_, dueOn⟩
    · rw [starts]
      exact getElem?_set_of_some moved due.there
    · rw [streams]
      exact stage
    · rw [streams]
      exact due.done
  refine ⟨.start call (.advance 0), next, ⟨rfl, nofun⟩, ?_, ⟨moved, later⟩, ?_⟩
  · rw [step, due.there]
    exact taken
  · rw [later.remaining_eq, due.remaining_eq]
    exact closer

omit [Counter Count] in
theorem queued_sendPipeline_le
    (state : MasterState Count) (index position : Nat) (command : PipelineCommand Count) :
    (state.sendPipeline index command).queued position ≤ state.queued position + 1 := by
  unfold queued
  rw [getElem?_sendPipeline]
  cases state.pipelines[position]? with
  | none => exact Nat.zero_le _
  | some =>
    simp only [Option.map_some, Option.elim_some]
    split
    · unfold PipelineTask.send
      split
      · simp
      · exact Nat.le_add_right _ _
    · exact Nat.le_add_right _ _

theorem Due.pipeline {taken : ActiveRun} {task : PipelineTask Count}
    {queued : List (Proto.MetricBatch Count)} (due : Due call first state found taken.key)
    (present : state.pipelines[taken.pipeline]? = some task) (running : task.running = true)
    (queue : task.queue = queued.map .batch ++ [.finalize]) :
    Progresses params call first taken.key state := by
  obtain ⟨moved, stepped, shorter⟩ :
      ∃ moved, task.step = some moved ∧ moved.queue.length < task.queue.length := by
    unfold PipelineTask.step
    rw [if_pos running, queue]
    cases queued with
    | nil | cons => exact ⟨_, rfl, Nat.lt_succ_self _⟩
  have result :
      state.step params (.pipeline taken.pipeline) =
        some { state with pipelines := state.pipelines.set taken.pipeline moved } := by
    simp only [step, present, stepped]
  have later :
      Due call first { state with pipelines := state.pipelines.set taken.pipeline moved }
        found taken.key :=
    { due with stage := due.stage.pipeline present (pipelineMove_of_step stepped) }
  refine ⟨.pipeline taken.pipeline, _, True.intro, result, ⟨found, later⟩, ?_⟩
  rw [later.remaining_eq, due.remaining_eq]
  apply Nat.add_lt_add_left
  have before : state.queued taken.pipeline = task.queue.length := by
    rw [MasterState.queued, present, Option.elim_some]
  have after :
      MasterState.queued { state with pipelines := state.pipelines.set taken.pipeline moved }
        taken.pipeline = moved.queue.length := by
    rw [MasterState.queued, getElem?_set_of_some moved present, Option.elim_some]
  exact (after.trans_lt shorter).trans_eq before.symm

theorem Due.progress (due : Due call first state found key) (unreturned : ¬ Returned call state) :
    Progresses params call first key state := by
  have stage := due.stage
  have isDue := due.due
  cases phase : found.phase with
  | pausing =>
    rw [phase] at stage
    refine
      due.advance { found with phase := .checking } (state.setStart call _) ?_ rfl rfl
        due.keyed (stage.hold rfl rfl nofun) rfl ?_
    · simp only [stepStart, phase]
    · rw [phase]
      exact Nat.add_lt_add_right (Nat.lt_succ_self 7) _
  | checking =>
    rw [phase] at stage
    obtain ⟨present, active⟩ := Option.ne_none_iff_exists'.mp (stage.run_ne_none rfl)
    have enough := stage.enough due.done active
    refine
      due.advance { found with waitExit := some .complete, phase := .taking }
        (state.setStart call _) ?_ rfl rfl due.keyed (stage.complete active enough) rfl ?_
    · simp only [stepStart, phase, active, if_pos enough]
    · rw [phase]
      exact Nat.add_lt_add_right (Nat.lt_succ_self 6) _
  | taking =>
    rw [phase] at stage
    obtain ⟨present, active⟩ := Option.ne_none_iff_exists'.mp (stage.run_ne_none rfl)
    refine
      due.advance { found with phase := .finalizing present }
        ((state.takeRun call found.waitExit).setStart call _) ?_ rfl rfl due.keyed
        (stage.take active) rfl ?_
    · simp only [stepStart, phase, active]
    · rw [phase]
      exact Nat.add_lt_add_right (Nat.lt_succ_self 5) _
  | finalizing taken =>
    rw [phase] at stage
    obtain ⟨task, present, running⟩ := stage.running
    refine
      due.advance { found with phase := .awaitingReport taken }
        ((state.sendPipeline taken.pipeline .finalize).setStart call _) ?_ rfl rfl due.keyed
        stage.finalize rfl ?_
    · simp only [stepStart, phase, present, running, if_true]
    · rw [phase]
      have longer := queued_sendPipeline_le state taken.pipeline key.pipeline .finalize
      change 3 + (state.sendPipeline taken.pipeline .finalize).queued _ < 5 + _
      omega
  | awaitingReport taken =>
    rw [phase] at stage
    obtain ⟨rfl, task, present, reports⟩ := stage.reporting
    cases reports with
    | asked waiting running unreplied counted queue => exact due.pipeline present running queue
    | replied report reply =>
      refine
        due.advance { found with phase := .closing taken report } (state.setStart call _)
          ?_ rfl rfl due.keyed (stage.reply present reply) rfl ?_
      · simp only [stepStart, phase, present, reply]
      · rw [phase]
        exact Nat.add_lt_add_right (Nat.lt_succ_self 2) _
  | closing taken report =>
    rw [phase] at stage
    refine
      due.advance { found with phase := .returned (.ok report) }
        ((state.sendPipeline taken.pipeline .shutdown).setStart call _) ?_ rfl rfl due.keyed
        stage.close rfl ?_
    · simp only [stepStart, phase]
    · rw [phase]
      have longer := queued_sendPipeline_le state taken.pipeline key.pipeline .shutdown
      change 0 + (state.sendPipeline taken.pipeline .shutdown).queued _ < 2 + _
      omega
  | returned result =>
    cases result with
    | ok report => exact absurd ⟨found, report, due.there, phase⟩ unreturned
    | error =>
      rw [phase] at isDue
      cases isDue
  | waitingBarrier | installing | broadcasting | sendingStart | abandoning =>
    rw [phase] at isDue
    cases isDue

theorem Due.returned (due : Due call first state found key) :
    ∃ target, Reaches (step params) (soleRun call first) state target ∧ Returned call target := by
  refine
    Reaches.final_of_measure (fun state => ∃ moved, Due call first state moved key)
      (Returned call) (remaining call) ?_ ⟨found, due⟩
  rintro waiting ⟨moved, stillDue⟩ unreturned
  exact stillDue.progress unreturned

end Progress

def streamedSince (before state : MasterState Count) : Multiset (Proto.MetricBatch Count) :=
  streamed (state.streams.drop before.streams.length)

/-- For one `start_run` call on a master without an active run, while each allocated worker
sends its batches for this run on one stream: the report counts every batch that arrived
exactly once, and once every allocated worker has closed its stream the call can return it.
-/
theorem report_counts_every_batch (params : MasterParams) (before state : MasterState Count)
    (config : Proto.TestConfiguration) (expected : Nat) (call : StartCall Count)
    (idle : before.run = none)
    (reached :
      Reaches (step params) (soleRun before.starts.length before.streams.length)
        (before.begun config expected) state)
    (found : state.starts[before.starts.length]? = some call) :
    (∀ report, call.phase.report = some report → report.Counts (streamedSince before state)) ∧
    (call.phase = .checking ∨ call.phase = .pausing → (∀ workerId ∈ call.allocated,
        Closed (state.streams.drop before.streams.length) workerId) →
        ∃ target,
          Reaches (step params) (soleRun before.starts.length before.streams.length) state
            target ∧ Returned before.starts.length target) := by
  obtain ⟨opened, present, there, stage⟩ := inRun_of_reaches idle reached
  rw [found] at there
  cases there
  constructor
  · exact fun report reported => stage.counts reported
  · intro waiting closed
    have inLoop : call.phase.holding = true ∧ call.phase.due = true := by
      rcases waiting with phase | phase
      · rw [phase]
        exact ⟨rfl, rfl⟩
      · rw [phase]
        exact ⟨rfl, rfl⟩
    obtain ⟨key, keyed⟩ := stage.keyed inLoop.1
    have done : AllDone key (state.streams.drop before.streams.length) := by
      unfold AllDone
      rw [StartCall.allocated_of_key? keyed]
      exact closed
    rw [keyed] at stage
    exact Due.returned ⟨found, keyed, stage, done, inLoop.2⟩

open MasterAction (enrol advance carry)

def enrolled : MasterState Nat :=
  (execute (step .sample) new (enrol "v" ++ enrol "w")).getD new

theorem report_counts_every_batch_sample :
    ∃ (state : MasterState Nat) (call : StartCall Nat) (report : GlobalReport Nat),
      enrolled.run = none ∧
        Reaches (step .sample) (soleRun 0 0) (enrolled.begun (sampleConfig "run-a") 2) state ∧
        state.starts[0]? = some call ∧ call.phase.report = some report ∧
        report.batches = 3 ∧ report.totalRequests = 6 ∧
        report.Counts (streamedSince enrolled state) := by
  have idle : enrolled.run = none := by decide +kernel
  obtain ⟨state, reached, returned⟩ :
      ∃ state : MasterState Nat,
        Reaches (step .sample) (soleRun 0 0) (enrolled.begun (sampleConfig "run-a") 2)
            state ∧
          ((state.starts[0]?).bind (fun call =>
            call.phase.report.map (fun report => (report.batches, report.totalRequests)))) =
            some (3, 6) :=
    Reaches.exists_of_executeChecked
      (advance 0 7 ++ [MasterAction.openStream, .openStream] ++ carry 0 (sampleBatch "w" "run-a") ++
        carry 1 (sampleBatch "v" "run-a") ++ [MasterAction.pipeline 0] ++
        carry 0 (sampleBatch "w" "run-a") ++
        [MasterAction.stream 0 .halfClose, .stream 1 .halfClose, .stream 1 .mark,
          .stream 0 .mark] ++
        advance 0 3 ++ [MasterAction.pipeline 0, .pipeline 0, .pipeline 0] ++ advance 0 2)
      (by decide +kernel)
  obtain ⟨call, found, reported⟩ := Option.bind_eq_some_iff.mp returned
  obtain ⟨report, given, numbers⟩ := Option.map_eq_some_iff.mp reported
  obtain ⟨batches, requests⟩ := Prod.mk.inj numbers
  have counts :=
    (report_counts_every_batch .sample enrolled state (sampleConfig "run-a") 2 call idle
      reached found).1 report given
  exact ⟨state, call, report, idle, reached, found, given, batches, requests, counts⟩

end MasterState

end Strobengine.Distributed.Master
