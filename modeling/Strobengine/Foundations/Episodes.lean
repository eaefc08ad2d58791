import Strobengine.Foundations.Emission
import Strobengine.Foundations.Sequence

/-!
# Episodes

A log is a sequence of episodes: some outputs open something, and a closing output ends the episode
with a mark.
-/

namespace Strobengine.Foundations

universe u v w

/-- Outputs that open something, and the marks of those that end an episode. -/
structure Episodes (Output : Type w) where
  opens : Output → Bool
  mark : Output → Option Bool
  apart : ∀ output, opens output = true → mark output = none

namespace Episodes

variable {State : Type u} {Action : Type v} {Output : Type w} (episodes : Episodes Output)

/-- Read one output; an episode opens at most once, and its mark has to be right. -/
def check (opened : Bool) (output : Output) : Option Bool :=
  if episodes.opens output then
    if opened then none else some true
  else
    match episodes.mark output with
    | none => some opened
    | some mark => if mark = opened then some false else none

/-- The checker accepts the log and is left with what the last episode has opened. -/
def Accepts (log : List Output) (opened : Bool) : Prop :=
  log.foldlM episodes.check false = some opened

variable {episodes}

theorem accepts_nil : episodes.Accepts [] false :=
  rfl

variable {log : List Output} {opened : Bool}

theorem accepts_append_iff {emitted : List Output} :
    episodes.Accepts (log ++ emitted) opened ↔
      ∃ middle, episodes.Accepts log middle ∧
        emitted.foldlM episodes.check middle = some opened := by
  unfold Accepts
  rw [List.foldlM_append]
  exact Option.bind_eq_some_iff

theorem exists_of_accepts_concat {last : Output}
    (accepted : episodes.Accepts (log ++ [last]) opened) :
    ∃ middle, episodes.Accepts log middle ∧ episodes.check middle last = some opened := by
  obtain ⟨middle, earlier, checked⟩ := accepts_append_iff.mp accepted
  refine ⟨middle, earlier, ?_⟩
  simpa using checked

theorem check_eq_some {before after : Bool} {output : Output}
    (checked : episodes.check before output = some after) :
    episodes.opens output = true ∧ before = false ∧ after = true ∨
      episodes.opens output = false ∧ episodes.mark output = none ∧ after = before ∨
        episodes.opens output = false ∧ episodes.mark output = some before ∧ after = false := by
  unfold check at checked
  cases opens : episodes.opens output with
  | true =>
    rw [opens] at checked
    cases before with
    | true => cases checked
    | false =>
      cases checked
      exact Or.inl ⟨rfl, rfl, rfl⟩
  | false =>
    rw [opens] at checked
    cases marked : episodes.mark output with
    | none =>
      rw [marked] at checked
      cases checked
      exact Or.inr (Or.inl ⟨rfl, rfl, rfl⟩)
    | some mark =>
      rw [marked] at checked
      by_cases right : mark = before
      · simp only [Bool.false_eq_true, if_false, if_pos right] at checked
        cases checked
        exact Or.inr (Or.inr ⟨rfl, by rw [right], rfl⟩)
      · simp [right] at checked

theorem Accepts.count (accepted : episodes.Accepts log opened) :
    log.countP (fun output => episodes.mark output == some true) + opened.toNat =
      log.countP episodes.opens := by
  induction log using List.reverseRecOn generalizing opened with
  | nil =>
    cases accepted
    rfl
  | append_singleton log last ih =>
    obtain ⟨middle, earlier, checked⟩ := exists_of_accepts_concat accepted
    have before := ih earlier
    rw [List.countP_append, List.countP_append, ← before]
    rcases check_eq_some checked with
      ⟨opens, rfl, rfl⟩ | ⟨closed, unmarked, rfl⟩ | ⟨closed, marked, rfl⟩
    · simp [opens, episodes.apart last opens]
    · simp [closed, unmarked]
    · cases middle <;> simp [closed, marked]

theorem Accepts.opened_iff (accepted : episodes.Accepts log opened) :
    opened = true ↔
      ∃ output ∈ since (fun output => (episodes.mark output).isSome) log,
        episodes.opens output = true := by
  induction log using List.reverseRecOn generalizing opened with
  | nil =>
    cases accepted
    simp [since]
  | append_singleton log last ih =>
    obtain ⟨middle, earlier, checked⟩ := exists_of_accepts_concat accepted
    have before := ih earlier
    rcases check_eq_some checked with
      ⟨opens, rfl, rfl⟩ | ⟨closed, unmarked, rfl⟩ | ⟨closed, marked, rfl⟩
    · rw [since_append log (by simp [episodes.apart last opens])]
      simp [opens]
    · rw [since_append log (by simp [unmarked]), before]
      simp [closed]
    · rw [since_concat_of_marked log (by simp [marked])]
      simp

theorem Accepts.mark_iff {before after : List Output} {output : Output}
    {mark : Bool} (accepted : episodes.Accepts log opened)
    (split : log = before ++ output :: after) (marked : episodes.mark output = some mark) :
    mark = true ↔
      ∃ earlier ∈ since (fun output => (episodes.mark output).isSome) before,
        episodes.opens earlier = true := by
  rw [split] at accepted
  obtain ⟨middle, earlier, checked⟩ := accepts_append_iff.mp accepted
  rw [← earlier.opened_iff]
  rw [List.foldlM_cons] at checked
  obtain ⟨next, first, _⟩ := Option.bind_eq_some_iff.mp checked
  rcases check_eq_some first with
    ⟨opens, _, _⟩ | ⟨_, unmarked, _⟩ | ⟨_, same, _⟩
  · rw [episodes.apart output opens] at marked
    cases marked
  · rw [unmarked] at marked
    cases marked
  · rw [marked, Option.some.injEq] at same
    rw [same]

/-- A log is accepted when every step emits what the checker accepts, from what the state
says of the current episode. -/
theorem accepts_of_reaches {emitting : Emitting State Action Output} {guard : State → Action → Prop}
    (Sound : State → Prop) (opened : State → Bool)
    (kept :
      ∀ state action next emitted,
        Sound state → guard state action → emitting state action = some (next, emitted) →
          Sound next ∧ emitted.foldlM episodes.check (opened state) = some (opened next))
    {source : State} {target : Tracked State Output}
    (initially : Sound source) (fresh : opened source = false)
    (reached : Reaches (Tracked.step emitting) (Tracked.guardOn guard) (.start source) target) :
    episodes.Accepts target.log (opened target.state) := by
  have holds : Sound target.state ∧ episodes.Accepts target.log (opened target.state) := by
    apply Tracked.invariant
      (fun state log => Sound state ∧ episodes.Accepts log (opened state)) ?_ ?_ reached
    · rintro state log action next emitted ⟨sound, accepted⟩ allowed taken
      obtain ⟨soundNext, checked⟩ := kept state action next emitted sound allowed taken
      exact ⟨soundNext, accepts_append_iff.mpr ⟨opened state, accepted, checked⟩⟩
    · exact ⟨initially, by rw [Tracked.start, fresh]; exact accepts_nil⟩
  exact holds.2

end Episodes

end Strobengine.Foundations
