import Strobengine.Foundations.Population
import Mathlib.Data.List.Destutter
import Mathlib.Data.List.DropRight
import Mathlib.Order.Lattice

/-!
# Growing sequences

A sequence is answered when every item that asks is followed by an item that answers.
-/

namespace Strobengine.Foundations

universe u

variable {Item : Type u}

/-- Every item that asks is followed by one that answers. -/
def Answered (asks answers : Item → Bool) : List Item → Prop
  | [] => True
  | item :: rest => (asks item = true → rest.any answers = true) ∧ Answered asks answers rest

instance decidableAnswered (asks answers : Item → Bool) :
    (items : List Item) → Decidable (Answered asks answers items)
  | [] => isTrue True.intro
  | item :: rest =>
    have := decidableAnswered asks answers rest
    inferInstanceAs
      (Decidable
        ((asks item = true → rest.any answers = true) ∧ Answered asks answers rest))

namespace Answered

variable {asks answers : Item → Bool}

theorem of_silent {items : List Item} (silent : ∀ item ∈ items, asks item = false) :
    Answered asks answers items := by
  induction items with
  | nil => exact True.intro
  | cons item rest ih =>
    constructor
    · intro asking
      rw [silent item List.mem_cons_self] at asking
      cases asking
    · exact ih (fun other member =>
        silent other (List.mem_cons_of_mem item member))

theorem concat_answer (items : List Item) {last : Item}
    (answer : answers last = true) (quiet : asks last = false) :
    Answered asks answers (items ++ [last]) := by
  induction items with
  | nil =>
    refine ⟨?_, True.intro⟩
    intro asking
    rw [quiet] at asking
    cases asking
  | cons item rest ih =>
    rw [List.cons_append]
    refine ⟨fun _ => ?_, ih⟩
    rw [List.any_append, List.any_cons, answer]
    simp

theorem concat_quiet {items : List Item} {last : Item}
    (answered : Answered asks answers items) (quiet : asks last = false) :
    Answered asks answers (items ++ [last]) := by
  induction items with
  | nil =>
    refine ⟨?_, True.intro⟩
    intro asking
    rw [quiet] at asking
    cases asking
  | cons item rest ih =>
    rw [List.cons_append]
    refine ⟨?_, ih answered.2⟩
    intro asking
    rw [List.any_append, answered.1 asking, Bool.true_or]

end Answered

def Grounded (Follows : List Item → Item → Prop) (items : List Item) : Prop :=
  ∀ position item, items[position]? = some item → Follows (items.take position) item

namespace Grounded

variable {Follows : List Item → Item → Prop}

theorem nil : Grounded Follows [] := by
  intro position item found
  simp at found

theorem concat {items : List Item} {last : Item}
    (grounded : Grounded Follows items) (follows : Follows items last) :
    Grounded Follows (items ++ [last]) := by
  apply forall_concat
  · intro position item found
    have bound := lt_length_of_getElem?_eq_some found
    rw [List.take_append_of_le_length (Nat.le_of_lt bound)]
    exact grounded position item found
  · rw [List.take_left]
    exact follows

theorem append {items rest : List Item} (grounded : Grounded Follows items)
    (follow :
      ∀ before item after, rest = before ++ item :: after → Follows (items ++ before) item) :
    Grounded Follows (items ++ rest) := by
  induction rest using List.reverseRecOn with
  | nil =>
    rw [List.append_nil]
    exact grounded
  | append_singleton rest last ih =>
    rw [← List.append_assoc]
    apply Grounded.concat
    · apply ih
      intro before item after split
      exact follow before item (after ++ [last]) (by rw [split]; simp)
    · exact follow rest last [] rfl

theorem split {items before after : List Item} {item : Item}
    (grounded : Grounded Follows items) (cut : items = before ++ item :: after) :
    Follows before item := by
  have here := grounded before.length item (by rw [cut]; simp)
  rw [cut, List.take_left] at here
  exact here

end Grounded

/-! ## The items behind a mark -/

def since (marked : Item → Bool) (items : List Item) : List Item :=
  items.rtakeWhile (fun item => !marked item)

section Since

variable {marked : Item → Bool}

theorem since_concat_of_marked (items : List Item) {mark : Item}
    (isMark : marked mark = true) : since marked (items ++ [mark]) = [] :=
  List.rtakeWhile_concat_neg _ _ _ (by simp [isMark])

theorem since_append (items : List Item) {rest : List Item}
    (unmarked : ∀ item ∈ rest, marked item = false) :
    since marked (items ++ rest) = since marked items ++ rest := by
  induction rest using List.reverseRecOn with
  | nil => rw [List.append_nil, List.append_nil]
  | append_singleton rest last ih =>
    have final : marked last = false := unmarked last (by simp)
    have earlier : since marked (items ++ rest) = since marked items ++ rest :=
      ih (fun item member => unmarked item (List.mem_append_left _ member))
    rw [← List.append_assoc, ← List.append_assoc, ← earlier]
    exact List.rtakeWhile_concat_pos _ _ _ (by simp [final])

theorem since_append_cons (items : List Item) {mark : Item} {rest : List Item}
    (isMark : marked mark = true) (unmarked : ∀ item ∈ rest, marked item = false) :
    since marked (items ++ mark :: rest) = rest := by
  rw [List.append_cons, since_append _ unmarked, since_concat_of_marked items isMark,
    List.nil_append]

end Since

theorem destutter'_eq_cons [DecidableEq Item] (first : Item) (rest : List Item) :
    ∃ tail, rest.destutter' (· ≠ ·) first = first :: tail := by
  induction rest with
  | nil => exact ⟨[], rfl⟩
  | cons second rest ih =>
    by_cases same : first = second
    · rw [List.destutter'_cons_neg _ (not_not_intro same)]
      exact ih
    · exact ⟨_, List.destutter'_cons_pos _ same⟩

theorem isChain_lt_destutter'_iff [LinearOrder Item] (first : Item) (rest : List Item) :
    (rest.destutter' (· ≠ ·) first).IsChain (· < ·) ↔ (first :: rest).IsChain (· ≤ ·) := by
  induction rest generalizing first with
  | nil => simp
  | cons second rest ih =>
    rw [List.isChain_cons_cons, ← ih second]
    by_cases same : first = second
    · subst same
      rw [List.destutter'_cons_neg _ (not_not_intro rfl)]
      simp
    · obtain ⟨tail, begins⟩ := destutter'_eq_cons second rest
      rw [List.destutter'_cons_pos _ same, begins, List.isChain_cons_cons, lt_iff_le_and_ne]
      simp [same]

end Strobengine.Foundations
