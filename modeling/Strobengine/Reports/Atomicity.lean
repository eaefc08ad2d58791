import Mathlib.Algebra.Ring.Nat
import Mathlib.Data.Set.Finite.List
import Strobengine.Foundations.Population
import Strobengine.Reports.Persistence

/-!
# Atomic pointers

All calls write their pointers to the same temporary file. When a call opens it while another is on
its way from opening it to renaming it, `latest.json` is empty or belongs to the other call, whose
own rename fails.
-/

namespace Strobengine.Reports

open Foundations Foundations.Directory

/-! ## Names that differ -/

theorem isDigit_digitChar (value : Nat) : (Nat.digitChar (value % 10)).isDigit = true := by
  have digits : ∀ digit < 10, (Nat.digitChar digit).isDigit = true := by decide
  exact digits (value % 10) (Nat.mod_lt _ (by decide))

theorem filename_head? (report : Report) :
    ∃ first, report.filename.toList.head? = some first ∧ first.isDigit = true := by
  refine ⟨_, ?_, isDigit_digitChar (report.timestamp.year / 10 ^ 3)⟩
  simp [Report.filename, DateTime.isoformat, padded]

theorem filename_ne_of_head? {name : String} (first : Char)
    (begins : name.toList.head? = some first) (letter : first.isDigit = false)
    (report : Report) : report.filename ≠ name := by
  rintro rfl
  obtain ⟨digit, named, isDigit⟩ := filename_head? report
  rw [named, Option.some.injEq] at begins
  rw [begins, letter] at isDigit
  cases isDigit

theorem filename_ne_latestPath (report : Report) : report.filename ≠ latestPath :=
  filename_ne_of_head? 'l' (by decide +kernel) (by decide) report

theorem filename_ne_latestTmp (report : Report) : report.filename ≠ latestTmp :=
  filename_ne_of_head? '.' (by decide +kernel) (by decide) report

theorem mkstempName_getLast? (random : String) :
    (mkstempName random).toList.getLast? = some 'p' := by
  rw [mkstempName, String.toList_append, List.getLast?_append]
  simp

theorem filename_getLast? (report : Report) : report.filename.toList.getLast? = some 'n' := by
  rw [Report.filename, String.toList_append, List.getLast?_append]
  simp

theorem filename_ne_mkstempName (report : Report) (random : String) :
    report.filename ≠ mkstempName random := by
  intro same
  have last := filename_getLast? report
  rw [same, mkstempName_getLast?] at last
  cases last

theorem mkstempName_ne_latestPath (random : String) : mkstempName random ≠ latestPath := by
  intro same
  have last := mkstempName_getLast? random
  rw [same] at last
  revert last
  decide +kernel

theorem latestPayload_ne_nil (filename : String) : latestPayload filename ≠ [] := by
  intro empty
  have ends := (List.append_eq_nil_iff.mp empty).2
  revert ends
  decide +kernel

structure Hidden (name : String) : Prop where
  report : ∀ report : Report, report.filename ≠ name
  latest : latestPath ≠ name

theorem hidden_mkstempName (random : String) : Hidden (mkstempName random) :=
  ⟨fun report => filename_ne_mkstempName report random, (mkstempName_ne_latestPath random).symm⟩

theorem hidden_latestTmp : Hidden latestTmp :=
  ⟨filename_ne_latestTmp, by decide +kernel⟩

/-! ## What a call has done -/

def Phase.owned : Phase → Option String
  | dumping random _ | dumped random | cleaning random _ | unlinking random _ =>
    some (mkstempName random)
  | pointing _ | pointed => some latestTmp
  | started | saved | returned _ | raised => none

theorem hidden_of_owned {phase : Phase} {name : String} (owned : phase.owned = some name) :
    Hidden name := by
  cases phase <;> cases owned
  all_goals first | exact hidden_mkstempName _ | exact hidden_latestTmp

/-- A file whose first part is written; the handle has the rest. -/
structure Written (directory : ReportDirectory) (name : String) (handle : Handle)
    (text : List Char) : Prop where
  entry : directory.entries name = some handle.file
  content :
    ∃ done, directory.read name = some done ∧ done.length = handle.offset ∧
      done ++ handle.remaining = text

def Saved (reports : List Report) (directory : ReportDirectory) (filename : String) : Prop :=
  ∃ report ∈ reports, report.filename = filename ∧
    directory.read filename = some report.artifact.toList

def LatestComplete (reports : List Report) (directory : ReportDirectory) : Prop :=
  directory.read latestPath = none ∨
    ∃ filename, directory.read latestPath = some (latestPayload filename) ∧
      Saved reports directory filename

def Phase.Sound (reports : List Report) (directory : ReportDirectory) (report : Report) :
    Phase → Prop
  | started => True
  | dumping random handle => Written directory (mkstempName random) handle report.artifact.toList
  | dumped random => directory.read (mkstempName random) = some report.artifact.toList
  | cleaning random failed =>
    failed = false ∧ directory.read (mkstempName random) = none ∧
      Saved reports directory report.filename
  | saved => Saved reports directory report.filename
  | pointing handle =>
    Saved reports directory report.filename ∧
      Written directory latestTmp handle (latestPayload report.filename)
  | pointed =>
    Saved reports directory report.filename ∧
      directory.read latestTmp = some (latestPayload report.filename)
  | returned filepath =>
    filepath = none ∧ report.noSave = true ∨
      filepath = some report.filename ∧ Saved reports directory report.filename
  | unlinking _ _ | raised => False

section Frames

variable {reports : List Report} {before after : ReportDirectory}

theorem Written.same {name : String} {handle : Handle} {text : List Char}
    (written : Written before name handle text) (same : Same name before after) :
    Written after name handle text :=
  ⟨same.entry.trans written.entry, same.content ▸ written.content⟩

theorem Saved.same {filename : String} (saved : Saved reports before filename)
    (same : Same filename before after) : Saved reports after filename := by
  obtain ⟨report, member, named, complete⟩ := saved
  exact ⟨report, member, named, same.content.trans complete⟩

theorem Phase.Sound.same {report : Report} {phase : Phase}
    (sound : phase.Sound reports before report)
    (owned : ∀ name, phase.owned = some name → Same name before after)
    (saved : ∀ filename, Saved reports before filename → Saved reports after filename) :
    phase.Sound reports after report := by
  cases phase with
  | started => exact True.intro
  | dumping => exact Written.same sound (owned _ rfl)
  | dumped => exact (owned _ rfl).content.trans sound
  | cleaning => exact ⟨sound.1, (owned _ rfl).content.trans sound.2.1, saved _ sound.2.2⟩
  | unlinking | raised => exact sound
  | saved => exact saved _ sound
  | pointing => exact ⟨saved _ sound.1, sound.2.same (owned _ rfl)⟩
  | pointed => exact ⟨saved _ sound.1, (owned _ rfl).content.trans sound.2⟩
  | returned => exact sound.imp_right (fun named => ⟨named.1, saved _ named.2⟩)

end Frames

section Written

variable {directory : ReportDirectory} {name : String} {handle : Handle} {text : List Char}

theorem Written.write (written : Written directory name handle text) (length : Nat) :
    Written (handle.write length directory).1 name (handle.write length directory).2 text := by
  obtain ⟨done, found, ends, whole⟩ := written.content
  refine ⟨written.entry, done ++ handle.remaining.take length, ?_, ?_, ?_⟩
  · rw [← overwrite_end ends '\x00']
    exact read_write written.entry found
  · rw [List.length_append, ends]
    rfl
  · simp only [Handle.write, List.append_assoc, List.take_append_drop]
    exact whole

theorem Written.read_of_closed (written : Written directory name handle text)
    (closed : handle.remaining = []) : directory.read name = some text := by
  obtain ⟨done, found, _, whole⟩ := written.content
  rw [closed, List.append_nil] at whole
  rw [found, whole]

theorem Written.same_other (written : Written directory name handle text) {other : String}
    (different : other ≠ name) (length : Nat) :
    Same other directory (handle.write length directory).1 :=
  same_write written.entry different _ _ _

end Written

structure Effect (reports : List Report) (report : Report)
    (before after : ReportDirectory) (phase next : Phase) : Prop where
  sound : next.Sound reports after report
  saved : ∀ filename, Saved reports before filename → Saved reports after filename
  latest : LatestComplete reports before → LatestComplete reports after
  others :
    ∀ name, Hidden name → phase.owned ≠ some name → next.owned ≠ some name → Same name before after

section Effects

variable {reports : List Report} {report : Report} {before after : ReportDirectory}
  {phase next : Phase}

theorem Effect.of_eq (sound : next.Sound reports before report) :
    Effect reports report before before phase next :=
  ⟨sound, fun _ saved => saved, fun latest => latest, fun _ _ _ _ => ⟨rfl, rfl⟩⟩

theorem saved_of_same_others {own : String} (hidden : Hidden own)
    (same : ∀ other, other ≠ own → Same other before after) {filename : String}
    (saved : Saved reports before filename) : Saved reports after filename := by
  obtain ⟨other, member, rfl, complete⟩ := saved
  exact ⟨other, member, rfl, (same _ (hidden.report other)).content.trans complete⟩

theorem LatestComplete.same (latest : LatestComplete reports before)
    (same : Same latestPath before after)
    (saved : ∀ filename, Saved reports before filename → Saved reports after filename) :
    LatestComplete reports after := by
  unfold LatestComplete
  rw [same.content]
  exact latest.imp_right (fun ⟨filename, pointer, complete⟩ =>
    ⟨filename, pointer, saved filename complete⟩)

theorem Effect.of_same_others {own : String}
    (owned : phase.owned = some own ∨ next.owned = some own)
    (same : ∀ other, other ≠ own → Same other before after)
    (sound : next.Sound reports after report) :
    Effect reports report before after phase next := by
  have hidden : Hidden own := owned.elim hidden_of_owned hidden_of_owned
  have saved : ∀ filename, Saved reports before filename → Saved reports after filename :=
    fun _ => saved_of_same_others hidden same
  refine ⟨sound, saved, fun latest => latest.same (same _ hidden.latest) saved, ?_⟩
  intro name _ notBefore notAfter
  apply same
  rintro rfl
  exact owned.elim notBefore notAfter

theorem Effect.of_rename_artifact {random : String} (member : report ∈ reports)
    (complete : before.read (mkstempName random) = some report.artifact.toList)
    (renamed : before.rename (mkstempName random) report.filename = some after) :
    Effect reports report before after (.dumped random) (.cleaning random false) := by
  have hidden := hidden_mkstempName random
  have new : Saved reports after report.filename :=
    ⟨report, member, rfl, (read_target_of_rename renamed).trans complete⟩
  have saved : ∀ filename, Saved reports before filename → Saved reports after filename := by
    intro filename old
    by_cases same : filename = report.filename
    · rw [same]
      exact new
    · obtain ⟨other, present, rfl, found⟩ := old
      have untouched := same_rename renamed (hidden.report other) same
      exact ⟨other, present, rfl, untouched.content.trans found⟩
  refine ⟨⟨rfl, ?_, new⟩, saved, fun latest => latest.same ?_ saved, ?_⟩
  · exact read_source_of_rename renamed (hidden.report report).symm
  · exact same_rename renamed hidden.latest (filename_ne_latestPath report).symm
  · intro name nameHidden notOwned _
    apply same_rename renamed ?_ (nameHidden.report report).symm
    rintro rfl
    exact notOwned rfl

theorem Effect.of_rename_pointer (sound : Phase.pointed.Sound reports before report)
    (renamed : before.rename latestTmp latestPath = some after) :
    Effect reports report before after .pointed (.returned (some report.filename)) := by
  have hidden := hidden_latestTmp
  obtain ⟨complete, pointer⟩ := sound
  have saved : ∀ filename, Saved reports before filename → Saved reports after filename := by
    rintro _ ⟨other, present, rfl, found⟩
    have untouched := same_rename renamed (hidden.report other) (filename_ne_latestPath other)
    exact ⟨other, present, rfl, untouched.content.trans found⟩
  refine ⟨Or.inr ⟨rfl, saved _ complete⟩, saved, fun _ => Or.inr ?_, ?_⟩
  · exact ⟨report.filename, (read_target_of_rename renamed).trans pointer, saved _ complete⟩
  · intro name nameHidden notOwned _
    apply same_rename renamed ?_ nameHidden.latest.symm
    rintro rfl
    exact notOwned rfl

theorem effect_of_advance {event : FileEvent} (member : report ∈ reports)
    (sound : phase.Sound reports before report)
    (taken : Call.advance report before phase event = some (after, next)) :
    Effect reports report before after phase next := by
  unfold Call.advance at taken
  split at taken
  · -- `mkstemp`
    rename_i random
    split at taken <;> cases taken
    refine .of_same_others (Or.inr rfl) (fun other different => same_add different) ?_
    exact ⟨by simp [Directory.add], [], read_add, rfl, rfl⟩
  · -- the artifact is written
    split at taken <;> cases taken
    have written : Written _ _ _ _ := sound
    exact .of_same_others (Or.inl rfl) (fun other different => written.same_other different _)
      (written.write _)
  · -- and complete
    rename_i random handle
    split at taken <;> cases taken
    rename_i closed
    exact .of_eq (Written.read_of_closed sound closed)
  · -- its file is renamed
    rename_i random
    split at taken <;> cases taken
    · rename_i renamed
      exact .of_rename_artifact member sound renamed
    · rename_i failed
      exact absurd failed (rename_ne_none sound report.filename)
  · -- nothing is left to clean up
    rename_i random failed
    obtain ⟨rfl, missing, saved⟩ := sound
    rw [entries_of_read_eq_none missing] at taken
    cases taken
    exact .of_eq saved
  · -- `unlink`
    exact sound.elim
  · -- the temporary pointer is opened
    cases taken
    refine .of_same_others (Or.inr rfl) (fun other different => same_openTruncated different) ?_
    have saved : Saved reports before report.filename := sound
    refine ⟨?_, openTruncated_entry, [], read_openTruncated, rfl, rfl⟩
    exact saved.same (same_openTruncated (filename_ne_latestTmp report))
  · -- and written
    split at taken <;> cases taken
    obtain ⟨saved, written⟩ := sound
    refine .of_same_others (Or.inl rfl) (fun other different => written.same_other different _)
      ⟨?_, written.write _⟩
    exact saved.same (written.same_other (filename_ne_latestTmp report) _)
  · -- and complete
    split at taken <;> cases taken
    rename_i closed
    exact .of_eq ⟨sound.1, sound.2.read_of_closed closed⟩
  · -- it is renamed
    split at taken <;> cases taken
    · rename_i renamed
      exact .of_rename_pointer sound renamed
    · rename_i failed
      exact absurd failed (rename_ne_none sound.2 latestPath)
  · cases taken

end Effects

def FileEvent.opened : FileEvent → Option String
  | mkstemp random => some (mkstempName random)
  | .open => some latestTmp
  | _ => none

theorem owned_of_advance {report : Report} {before after : ReportDirectory}
    {phase next : Phase} {event : FileEvent}
    (taken : Call.advance report before phase event = some (after, next)) :
    next.owned = none ∨ next.owned = phase.owned ∨ next.owned = event.opened := by
  unfold Call.advance at taken
  split at taken
  · split at taken <;> cases taken
    exact Or.inr (Or.inr rfl)
  · split at taken <;> cases taken
    exact Or.inr (Or.inl rfl)
  · split at taken <;> cases taken
    exact Or.inr (Or.inl rfl)
  · split at taken <;> cases taken <;> exact Or.inr (Or.inl rfl)
  · rename_i random failed
    split at taken <;> cases taken
    · exact Or.inr (Or.inl rfl)
    · cases failed <;> exact Or.inl rfl
  · rename_i random failed
    cases taken
    cases failed <;> exact Or.inl rfl
  · cases taken
    exact Or.inr (Or.inr rfl)
  · split at taken <;> cases taken
    exact Or.inr (Or.inl rfl)
  · split at taken <;> cases taken
    exact Or.inr (Or.inl rfl)
  · split at taken <;> cases taken <;> exact Or.inl rfl
  · cases taken

namespace Store

/-- A temporary file that is opened is not in use by any call. -/
def exclusive (store : Store) (action : Nat × FileEvent) : Prop :=
  ∀ call ∈ store.calls, ∀ name ∈ action.2.opened, call.phase.owned ≠ some name
  deriving Decidable

/-- All calls are where the directory says, and no two use the same temporary file. -/
structure Sound (reports : List Report) (store : Store) : Prop where
  given : store.calls.map Call.report = reports
  each :
    ∀ (position : Nat) (call : Call), store.calls[position]? = some call →
      call.phase.Sound reports store.directory call.report
  alone :
    ∀ (position : Nat) (call : Call), store.calls[position]? = some call →
      ∀ (place : Nat) (other : Call), store.calls[place]? = some other →
        ∀ name, call.phase.owned = some name → other.phase.owned = some name → position = place
  latest : LatestComplete reports store.directory

theorem exists_of_step {store next : Store} {action : Nat × FileEvent}
    (taken : store.step action = some next) :
    ∃ call directory phase,
      store.calls[action.1]? = some call ∧
        Call.advance call.report store.directory call.phase action.2 = some (directory, phase) ∧
          next = ⟨directory, store.calls.set action.1 { call with phase }⟩ := by
  obtain ⟨index, event⟩ := action
  unfold step at taken
  cases found : store.calls[index]? with
  | none => simp [found] at taken
  | some call =>
    cases advanced : Call.advance call.report store.directory call.phase event with
    | none => simp [found, advanced] at taken
    | some result =>
      simp only [found, advanced, Option.some.injEq] at taken
      exact ⟨call, result.1, result.2, rfl, advanced, taken.symm⟩

theorem sound_start (reports : List Report) : (start reports).Sound reports := by
  have fresh :
      ∀ (position : Nat) (call : Call), (start reports).calls[position]? = some call →
        ∃ report, call = Call.start report := by
    intro position call found
    obtain ⟨report, _, rfl⟩ := List.mem_map.mp (List.mem_of_getElem? found)
    exact ⟨report, rfl⟩
  refine ⟨?_, ?_, ?_, Or.inl rfl⟩
  · simp [start, Call.start, Function.comp_def]
  · intro position call found
    obtain ⟨report, rfl⟩ := fresh position call found
    unfold Call.start
    split
    · rename_i noSave
      exact Or.inl ⟨rfl, noSave⟩
    · exact True.intro
  · intro position call found place other _ name owned
    obtain ⟨report, rfl⟩ := fresh position call found
    unfold Call.start at owned
    split at owned <;> cases owned

theorem Sound.of_step {reports : List Report} {store next : Store} {action : Nat × FileEvent}
    (sound : store.Sound reports) (allowed : store.exclusive action)
    (taken : store.step action = some next) : next.Sound reports := by
  obtain ⟨call, directory, phase, found, advanced, rfl⟩ := exists_of_step taken
  have member : call.report ∈ reports := by
    rw [← sound.given]
    exact List.mem_map_of_mem (List.mem_of_getElem? found)
  have effect := effect_of_advance member (sound.each _ call found) advanced
  -- what another call uses is not what this call uses, before or after its step
  have apart :
      ∀ position other, position ≠ action.1 → store.calls[position]? = some other →
        ∀ name, other.phase.owned = some name →
          call.phase.owned ≠ some name ∧ phase.owned ≠ some name := by
    intro position other different there name owned
    have before : call.phase.owned ≠ some name := fun same =>
      different (sound.alone _ other there _ call found name owned same)
    refine ⟨before, ?_⟩
    rcases owned_of_advance advanced with none | same | new
    · simp [none]
    · rw [same]
      exact before
    · rw [new]
      intro opened
      exact allowed other (List.mem_of_getElem? there) name opened owned
  refine ⟨?_, ?_, ?_, effect.latest sound.latest⟩
  · rw [← sound.given]
    exact map_set_of_eq found rfl
  · refine forall_set_of_ne (fun position other different there => ?_) effect.sound
    apply (sound.each position other there).same ?_ effect.saved
    intro name owned
    obtain ⟨before, after⟩ := apart position other different there name owned
    exact effect.others name (hidden_of_owned owned) before after
  · refine
      forall_set_of_ne (fun position other different there => forall_set_of_ne ?_ ?_)
        (forall_set_of_ne ?_ ?_)
    · intro place third _ here
      exact sound.alone position other there place third here
    · intro name owned same
      exact absurd same (apart position other different there name owned).2
    · intro place other different there name same owned
      exact absurd same (apart place other different there name owned).2
    · intro _ _ _
      rfl

end Store

/-! ## Every call returns -/

def Phase.pending (report : Report) : Phase → Nat
  | started => report.artifact.toList.length + (latestPayload report.filename).length + 8
  | dumping _ handle => handle.remaining.length + (latestPayload report.filename).length + 7
  | dumped _ => (latestPayload report.filename).length + 6
  | cleaning _ _ => (latestPayload report.filename).length + 5
  | unlinking _ _ => (latestPayload report.filename).length + 4
  | saved => (latestPayload report.filename).length + 3
  | pointing handle => handle.remaining.length + 2
  | pointed => 1
  | returned _ | raised => 0

theorem Handle.remaining_lt_of_write {handle : Handle} {length : Nat}
    (writes : ¬ (handle.remaining = [] ∨ length = 0)) :
    (handle.remaining.drop length).length < handle.remaining.length := by
  rw [not_or, ← ne_eq, ← List.length_pos_iff] at writes
  rw [List.length_drop]
  omega

theorem pending_lt_of_advance {report : Report} {before after : ReportDirectory}
    {phase next : Phase} {event : FileEvent}
    (taken : Call.advance report before phase event = some (after, next)) :
    next.pending report < phase.pending report := by
  unfold Call.advance at taken
  split at taken
  · split at taken <;> cases taken
    exact Nat.lt_succ_self _
  · split at taken <;> cases taken
    rename_i writes
    have less := Handle.remaining_lt_of_write writes
    simp only [Phase.pending]
    omega
  · split at taken <;> cases taken
    simp only [Phase.pending]
    omega
  · split at taken <;> cases taken <;> exact Nat.lt_succ_self _
  · rename_i random failed
    split at taken <;> cases taken
    · exact Nat.lt_succ_self _
    · cases failed <;> simp [Phase.pending, Phase.afterCleanup]
  · rename_i random failed
    cases taken
    cases failed <;> simp [Phase.pending, Phase.afterCleanup]
  · cases taken
    exact Nat.lt_succ_self _
  · split at taken <;> cases taken
    rename_i writes
    have less := Handle.remaining_lt_of_write writes
    simp only [Phase.pending]
    omega
  · split at taken <;> cases taken
    simp only [Phase.pending]
    omega
  · split at taken <;> cases taken <;> exact Nat.lt_succ_self _
  · cases taken

theorem exists_advance {reports : List Report} {report : Report} {directory : ReportDirectory}
    {phase : Phase} (sound : phase.Sound reports directory report)
    (busy : ∀ filepath, phase ≠ .returned filepath) :
    phase = .started ∨ phase = .saved ∨
      ∃ event result, event.opened = none ∧
        Call.advance report directory phase event = some result := by
  cases phase with
  | started => exact Or.inl rfl
  | saved => exact Or.inr (Or.inl rfl)
  | dumping random handle =>
    refine Or.inr (Or.inr ?_)
    by_cases closed : handle.remaining = []
    · exact ⟨.close, _, rfl, if_pos closed⟩
    · exact ⟨.write 1, _, rfl, if_neg (by simp [closed])⟩
  | dumped random =>
    refine Or.inr (Or.inr ⟨.rename, ?_⟩)
    cases renamed : directory.rename (mkstempName random) report.filename with
    | none => exact ⟨(directory, .cleaning random true), rfl, by simp [Call.advance, renamed]⟩
    | some next => exact ⟨(next, .cleaning random false), rfl, by simp [Call.advance, renamed]⟩
  | cleaning random =>
    refine Or.inr (Or.inr ⟨.exists, ?_⟩)
    by_cases there : (directory.entries (mkstempName random)).isSome
    · exact ⟨_, rfl, if_pos there⟩
    · exact ⟨_, rfl, if_neg there⟩
  | unlinking => exact Or.inr (Or.inr ⟨.unlink, _, rfl, rfl⟩)
  | pointing handle =>
    refine Or.inr (Or.inr ?_)
    by_cases closed : handle.remaining = []
    · exact ⟨.close, _, rfl, if_pos closed⟩
    · exact ⟨.write 1, _, rfl, if_neg (by simp [closed])⟩
  | pointed =>
    refine Or.inr (Or.inr ⟨.rename, ?_⟩)
    cases renamed : directory.rename latestTmp latestPath with
    | none => exact ⟨(directory, .raised), rfl, by simp [Call.advance, renamed]⟩
    | some next =>
      exact ⟨(next, .returned (some report.filename)), rfl, by simp [Call.advance, renamed]⟩
  | returned filepath => exact absurd rfl (busy filepath)
  | raised => exact sound.elim

theorem exists_mkstempName (directory : ReportDirectory) (used : List String) :
    ∃ random, directory.entries (mkstempName random) = none ∧ mkstempName random ∉ used := by
  let name (length : Nat) : String := mkstempName (String.ofList (List.replicate length 'a'))
  have injective : Function.Injective name := by
    intro first second same
    have lengths := congrArg (fun text => text.toList.length) same
    simpa [name, mkstempName] using lengths
  have finite := directory.finite_names.union (List.finite_toSet used)
  obtain ⟨_, ⟨length, rfl⟩, free⟩ :=
    (Set.infinite_range_of_injective injective).exists_notMem_finite finite
  refine ⟨String.ofList (List.replicate length 'a'), ?_, fun member => free (Or.inr member)⟩
  by_contra taken
  exact free (Or.inl (Option.isSome_iff_ne_none.mpr taken))

namespace Store

def pending (store : Store) : Nat :=
  (store.calls.map (fun call => call.phase.pending call.report)).sum

theorem pending_lt_of_step {store next : Store} {action : Nat × FileEvent}
    (taken : store.step action = some next) : next.pending < store.pending := by
  obtain ⟨call, directory, phase, found, advanced, rfl⟩ := exists_of_step taken
  have less := pending_lt_of_advance advanced
  have changed :=
    sum_map_set (fun call : Call => call.phase.pending call.report)
      { call with phase } found
  simp only [pending] at *
  omega

theorem step_of_advance {store : Store} {index : Nat} {call : Call} {event : FileEvent}
    {result : ReportDirectory × Phase} (found : store.calls[index]? = some call)
    (advanced : Call.advance call.report store.directory call.phase event = some result) :
    ∃ next, store.step (index, event) = some next := by
  simp [step, found, advanced]

theorem exists_step {reports : List Report} {store : Store} (sound : store.Sound reports)
    (busy : ¬ ∀ call ∈ store.calls, ∃ filepath, call.phase = .returned filepath) :
    ∃ action next, store.exclusive action ∧ store.step action = some next := by
  have unopened {index : Nat} {event : FileEvent} (none : event.opened = none) :
      store.exclusive (index, event) := by
    intro call _ name opened
    rw [none] at opened
    cases opened
  by_cases pointed : ∃ call ∈ store.calls, call.phase.owned = some latestTmp
  · -- the call that has the pointer goes on first
    obtain ⟨call, member, owned⟩ := pointed
    obtain ⟨index, found⟩ := List.getElem?_of_mem member
    have working : ∀ filepath, call.phase ≠ .returned filepath := by
      intro filepath returned
      rw [returned] at owned
      cases owned
    rcases exists_advance (sound.each index call found) working with
      started | saved | ⟨event, result, none, advanced⟩
    · rw [started] at owned
      cases owned
    · rw [saved] at owned
      cases owned
    · obtain ⟨next, taken⟩ := step_of_advance found advanced
      exact ⟨_, next, unopened none, taken⟩
  · push Not at busy pointed
    obtain ⟨call, member, working⟩ := busy
    obtain ⟨index, found⟩ := List.getElem?_of_mem member
    rcases exists_advance (sound.each index call found) working with
      started | saved | ⟨event, result, none, advanced⟩
    · obtain ⟨random, free, unused⟩ :=
        exists_mkstempName store.directory
          (store.calls.filterMap (fun call => call.phase.owned))
      have advanced :
          ∃ result, Call.advance call.report store.directory call.phase (.mkstemp random) =
            some result := by
        rw [started]
        exact ⟨_, if_pos free⟩
      obtain ⟨result, advanced⟩ := advanced
      obtain ⟨next, taken⟩ := step_of_advance found advanced
      refine ⟨_, next, ?_, taken⟩
      intro other present name opened owned
      cases opened
      exact unused (List.mem_filterMap.mpr ⟨other, present, owned⟩)
    · have advanced :
          ∃ result, Call.advance call.report store.directory call.phase .open = some result := by
        rw [saved]
        exact ⟨_, rfl⟩
      obtain ⟨result, advanced⟩ := advanced
      obtain ⟨next, taken⟩ := step_of_advance found advanced
      refine ⟨_, next, ?_, taken⟩
      intro other present name opened
      cases opened
      exact pointed other present
    · obtain ⟨next, taken⟩ := step_of_advance found advanced
      exact ⟨_, next, unopened none, taken⟩

/-- Calls that do not open a temporary file in use by another do not fail, the pointer is
always complete, and all of them can be brought to their end. -/
theorem saves_return {reports : List Report} {store : Store}
    (run : Reaches step exclusive (start reports) store) :
    (∀ call ∈ store.calls, call.phase ≠ .raised) ∧ LatestComplete reports store.directory ∧
      ∃ final, Reaches step exclusive store final ∧
        ∀ call ∈ final.calls, ∃ filepath, call.phase = .returned filepath ∧
          (filepath = none ∧ call.report.noSave = true ∨
            filepath = some call.report.filename ∧
              Saved reports final.directory call.report.filename) := by
  have kept : ∀ store action next, Sound reports store → store.exclusive action →
      store.step action = some next → Sound reports next :=
    fun _ _ _ holds allowed taken => holds.of_step allowed taken
  have sound : store.Sound reports :=
    Reaches.invariant (Sound reports) kept (sound_start reports) run
  refine ⟨?_, sound.latest, ?_⟩
  · intro call member raised
    obtain ⟨index, found⟩ := List.getElem?_of_mem member
    have impossible := sound.each index call found
    rw [raised] at impossible
    exact impossible
  · obtain ⟨final, finished, returned⟩ :
        ∃ final, Reaches step exclusive store final ∧
          ∀ call ∈ final.calls, ∃ filepath, call.phase = .returned filepath := by
      apply Reaches.final_of_measure (Sound reports) _ pending ?_ sound
      intro store holds busy
      obtain ⟨action, next, allowed, taken⟩ := exists_step holds busy
      exact
        ⟨action, next, allowed, taken, kept store action next holds allowed taken,
          pending_lt_of_step taken⟩
    have finalSound := Reaches.invariant (Sound reports) kept sound finished
    refine ⟨final, finished, fun call member => ?_⟩
    obtain ⟨filepath, ended⟩ := returned call member
    obtain ⟨index, found⟩ := List.getElem?_of_mem member
    have result := finalSound.each index call found
    rw [ended] at result
    exact ⟨filepath, ended, result⟩

def twoReports : List Report :=
  [{ timestamp := ⟨2026, 1, 2, 3, 4, 5, 6⟩, url := "http://a/", artifact := "[1]" },
    { timestamp := ⟨2026, 1, 2, 3, 4, 5, 7⟩, url := "http://b/", artifact := "[2]" }]

def saving (index : Nat) (random : String) : List (Nat × FileEvent) :=
  [(index, .mkstemp random), (index, .write 2), (index, .write 1), (index, .close),
    (index, .rename), (index, .exists)]

theorem saves_return_sample :
    ∃ store, Reaches step exclusive (start twoReports) store ∧
      (store.directory.read latestPath).isSome = true ∧ LatestComplete twoReports store.directory :=
  Reaches.exists_and_of_executeChecked
    (saving 0 "x" ++ saving 1 "y" ++
      [(0, FileEvent.open), (0, .write 80), (0, .close), (0, .rename), (1, .open), (1, .write 10)])
    (by decide +kernel) (fun _ run _ => (saves_return run).2.1)

/-- The second call opens the pointer between the two last operations of the first. -/
def sharing : List (Nat × FileEvent) :=
  saving 0 "x" ++ saving 1 "y" ++
    [(0, FileEvent.open), (0, .write 80), (0, .close), (1, .open), (0, .rename)]

/-- The second call opens the pointer that the first has written: `latest.json` is empty when
the first has returned, and the rename of the second fails. -/
theorem pointer_shared :
    (∃ store, Reaches step unguarded (start twoReports) store ∧
        ¬ LatestComplete twoReports store.directory) ∧
      ∃ store, Reaches step unguarded (start twoReports) store ∧
        ∃ call ∈ store.calls, call.phase = .raised := by
  constructor
  · refine
      Reaches.exists_imp_of_executeChecked (fun store => store.directory.read latestPath = some [])
        sharing (by decide +kernel) (fun store _ empty => ?_)
    unfold LatestComplete
    rw [empty]
    rintro (missing | ⟨filename, pointer, _⟩)
    · cases missing
    · exact latestPayload_ne_nil filename (Option.some.inj pointer).symm
  · exact
      Reaches.exists_of_executeChecked
        (sharing ++ [(1, FileEvent.write 80), (1, .close), (1, .rename)]) (by decide +kernel)

end Store

end Strobengine.Reports
