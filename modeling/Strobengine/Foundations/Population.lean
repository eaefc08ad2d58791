import Mathlib.Algebra.BigOperators.Group.List.Basic

/-!
# Populations of concurrent members

A family of concurrently running members of one kind is a list of their local states.
-/

namespace Strobengine.Foundations

universe u v

variable {Member : Type u} {members : List Member} {index : Nat} {member : Member}

theorem lt_length_of_getElem?_eq_some (found : members[index]? = some member) :
    index < members.length := by
  obtain ⟨bound, _⟩ := List.getElem?_eq_some_iff.mp found
  exact bound

variable {moved : Member}

theorem map_set_of_eq {Part : Type v} {part : Member → Part}
    (found : members[index]? = some member) (same : part moved = part member) :
    (members.set index moved).map part = members.map part := by
  obtain ⟨bound, rfl⟩ := List.getElem?_eq_some_iff.mp found
  have within : index < (members.map part).length := by
    rw [List.length_map]
    exact bound
  have self := List.set_getElem_self within
  rw [List.getElem_map] at self
  rw [List.map_set, same]
  exact self

theorem sum_map_set {Weight : Type v} [AddCommMonoid Weight] (weight : Member → Weight)
    (moved : Member) (found : members[index]? = some member) :
    ((members.set index moved).map weight).sum + weight member =
      (members.map weight).sum + weight moved := by
  induction members generalizing index with
  | nil => simp at found
  | cons head tail ih =>
    cases index with
    | zero =>
      simp only [List.getElem?_cons_zero, Option.some.injEq] at found
      subst found
      simp only [List.set_cons_zero, List.map_cons, List.sum_cons]
      rw [add_right_comm, add_comm (weight moved), add_right_comm]
    | succ =>
      simp only [List.getElem?_cons_succ] at found
      have tailStep := ih found
      simp only [List.set_cons_succ, List.map_cons, List.sum_cons]
      rw [add_assoc, tailStep, add_assoc]

theorem sum_map_set_of_eq {Weight : Type v} [AddCancelCommMonoid Weight] {weight : Member → Weight}
    (found : members[index]? = some member) (same : weight moved = weight member) :
    ((members.set index moved).map weight).sum = (members.map weight).sum := by
  have changed := sum_map_set weight moved found
  rw [same] at changed
  exact add_right_cancel changed

theorem countP_set (selected : Member → Bool)
    (moved : Member) (found : members[index]? = some member) :
    (members.set index moved).countP selected + (selected member).toNat =
      members.countP selected + (selected moved).toNat := by
  have counted (members : List Member) :
      members.countP selected = (members.map (fun member => (selected member).toNat)).sum := by
    induction members with
    | nil => rfl
    | cons head tail ih =>
      rw [List.countP_cons, ih, List.map_cons, List.sum_cons, Nat.add_comm]
      cases selected head <;> rfl
  rw [counted, counted]
  exact sum_map_set (fun member => (selected member).toNat) moved found

theorem countP_pos_of_getElem? {selected : Member → Bool}
    (found : members[index]? = some member) (holds : selected member = true) :
    0 < members.countP selected :=
  List.countP_pos_iff.mpr ⟨member, List.mem_of_getElem? found, holds⟩

/-! ## Properties of every member -/

variable {Holds : Nat → Member → Prop}

/-- What holds of every other member and of the mover after its move holds of all. -/
theorem forall_set_of_ne
    (before :
      ∀ position member,
        position ≠ index → members[position]? = some member → Holds position member)
    (kept : Holds index moved) :
    ∀ position member,
      (members.set index moved)[position]? = some member → Holds position member := by
  intro position member found
  rw [List.getElem?_set] at found
  split at found
  · rename_i same
    subst same
    split at found
    · cases found
      exact kept
    · cases found
  · rename_i different
    exact before position member (Ne.symm different) found

/-- What holds of every member survives a move after which it holds of the mover. -/
theorem forall_set
    (before : ∀ position member, members[position]? = some member → Holds position member)
    (kept : Holds index moved) :
    ∀ position member, (members.set index moved)[position]? = some member → Holds position member :=
  forall_set_of_ne (fun position member _ found => before position member found) kept

theorem forall_mem_set {Holds : Member → Prop}
    (before : ∀ member ∈ members, Holds member) (kept : Holds moved) :
    ∀ member ∈ members.set index moved, Holds member := by
  intro member present
  rcases List.mem_or_eq_of_mem_set present with old | new
  · exact before member old
  · rw [new]
    exact kept

/-- A member found after an arrival was there before, or is the one that arrived. -/
theorem getElem?_concat_cases {arrived : Member} {position : Nat}
    (found : (members ++ [arrived])[position]? = some member) :
    members[position]? = some member ∨ position = members.length ∧ member = arrived := by
  rw [List.getElem?_append] at found
  split at found
  · exact Or.inl found
  · rename_i beyond
    have bound := lt_length_of_getElem?_eq_some found
    rw [List.length_singleton] at bound
    have last : position - members.length = 0 := by omega
    rw [last] at found
    cases found
    exact Or.inr ⟨by omega, rfl⟩

theorem forall_concat {arrived : Member}
    (before : ∀ position member, members[position]? = some member → Holds position member)
    (kept : Holds members.length arrived) :
    ∀ position member, (members ++ [arrived])[position]? = some member → Holds position member := by
  intro position member found
  rcases getElem?_concat_cases found with old | ⟨last, same⟩
  · exact before position member old
  · rw [last, same]
    exact kept

theorem getElem?_concat_of_some (arrived : Member) (found : members[index]? = some member) :
    (members ++ [arrived])[index]? = some member := by
  rw [List.getElem?_append_left (lt_length_of_getElem?_eq_some found)]
  exact found

theorem getElem?_set_of_some (moved : Member) (found : members[index]? = some member) :
    (members.set index moved)[index]? = some moved :=
  List.getElem?_set_self (lt_length_of_getElem?_eq_some found)

/-- A selected member is still there after the move of one that is not selected. -/
theorem mem_set_of_selected {selected : Member → Bool} {mover : Member}
    (found : members[index]? = some mover) (unselected : selected mover = false)
    (present : member ∈ members) (chosen : selected member = true) :
    member ∈ members.set index moved := by
  obtain ⟨position, there⟩ := List.mem_iff_getElem?.mp present
  have other : index ≠ position := by
    intro same
    rw [same, there] at found
    cases found
    rw [chosen] at unselected
    cases unselected
  apply List.mem_of_getElem? (i := position)
  rw [List.getElem?_set_ne other]
  exact there

theorem eq_singleton_of_getElem?
    (one : members.length ≤ 1) (found : members[index]? = some member) :
    members = [member] ∧ index = 0 := by
  have bound := lt_length_of_getElem?_eq_some found
  have first : index = 0 := by omega
  obtain ⟨only, single⟩ := List.length_eq_one_iff.mp (show members.length = 1 by omega)
  rw [first, single] at found
  cases found
  exact ⟨single, first⟩

theorem exists_set_of_some
    (Kept : Member → Member → Prop) (unchanged : ∀ member, Kept member member)
    (found : members[index]? = some member) (kept : Kept member moved)
    {position : Nat} {present : Member} (there : members[position]? = some present) :
    ∃ after, (members.set index moved)[position]? = some after ∧ Kept present after := by
  by_cases same : index = position
  · subst same
    rw [found] at there
    cases there
    exact ⟨moved, getElem?_set_of_some moved found, kept⟩
  · rw [List.getElem?_set_ne same]
    exact ⟨present, there, unchanged present⟩

end Strobengine.Foundations
