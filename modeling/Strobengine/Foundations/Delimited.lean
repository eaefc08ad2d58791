import Strobengine.Foundations.Incremental
import Mathlib.Data.List.Find
import Mathlib.Data.List.Infix

/-!
# Pieces that end with a delimiter

A text is cut at the first place where one of several delimiters stands. If no delimiter occurs
inside another one, the first cut of a text does not change when the text grows.
-/

namespace Strobengine.Foundations

universe u

variable {Symbol : Type u}

structure Delimiters (Symbol : Type u) where
  all : List (List Symbol)
  nonempty : ∀ delimiter ∈ all, delimiter ≠ []
  unnested : ∀ inner ∈ all, ∀ outer ∈ all, inner <:+: outer → inner = outer

structure Cut (Symbol : Type u) where
  before : List Symbol
  delimiter : List Symbol
  rest : List Symbol

namespace Delimiters

variable [DecidableEq Symbol] (delimiters : Delimiters Symbol)

/-- The first of the delimiters that stands at the front of a text. -/
def front (text : List Symbol) : Option (List Symbol) :=
  delimiters.all.find? (fun delimiter => delimiter.isPrefixOf text)

def cut : List Symbol → Option (Cut Symbol)
  | [] => none
  | symbol :: symbols =>
    match delimiters.front (symbol :: symbols) with
    | some delimiter =>
      some
        { before := []
          delimiter
          rest := (symbol :: symbols).drop delimiter.length }
    | none => (cut symbols).map (fun later => { later with before := symbol :: later.before })

section Front

variable {delimiters} {text : List Symbol} {delimiter : List Symbol}

theorem mem_of_front (found : delimiters.front text = some delimiter) :
    delimiter ∈ delimiters.all :=
  List.mem_of_find?_eq_some found

theorem prefix_of_front (found : delimiters.front text = some delimiter) : delimiter <+: text := by
  unfold front at found
  have stands := List.find?_some found
  exact List.isPrefixOf_iff_prefix.mp stands

theorem front_append (member : delimiter ∈ delimiters.all) (complete : delimiter <:+: text)
    (more : List Symbol) :
    delimiters.front (text ++ more) = delimiters.front text := by
  have same :
      ∀ other ∈ delimiters.all, other.isPrefixOf (text ++ more) = other.isPrefixOf text := by
    intro other otherMember
    rw [Bool.eq_iff_iff, List.isPrefixOf_iff_prefix, List.isPrefixOf_iff_prefix]
    constructor
    · intro grown
      by_cases fits : other.length ≤ text.length
      · exact List.prefix_of_prefix_length_le grown (List.prefix_append text more) fits
      · -- the text is the beginning of the other delimiter, which then contains this one
        have outer : text <+: other :=
          List.prefix_of_prefix_length_le (List.prefix_append text more) grown (by omega)
        have equal :=
          delimiters.unnested delimiter member other otherMember
            (complete.trans outer.isInfix)
        have short := complete.length_le
        rw [equal] at short
        exact absurd short fits
    · intro whole
      exact whole.trans (List.prefix_append text more)
  unfold front
  exact List.find?_congr same

end Front

section CutLemmas

variable {delimiters} {text : List Symbol} {piece : Cut Symbol}

theorem cut_of_front {symbol : Symbol} {symbols delimiter : List Symbol}
    (found : delimiters.front (symbol :: symbols) = some delimiter) :
    delimiters.cut (symbol :: symbols) =
      some
        { before := []
          delimiter
          rest := (symbol :: symbols).drop delimiter.length } := by
  rw [cut, found]

theorem cut_of_no_front {symbol : Symbol} {symbols : List Symbol}
    (missing : delimiters.front (symbol :: symbols) = none) :
    delimiters.cut (symbol :: symbols) =
      (delimiters.cut symbols).map
        (fun later => { later with before := symbol :: later.before }) := by
  rw [cut, missing]

/-- A cut leaves the text as it is: the delimiter found is the one that stands there. -/
theorem cut_spec (found : delimiters.cut text = some piece) :
    text = piece.before ++ (piece.delimiter ++ piece.rest) ∧
      delimiters.front (text.drop piece.before.length) = some piece.delimiter := by
  induction text generalizing piece with
  | nil => cases found
  | cons symbol symbols ih =>
    cases here : delimiters.front (symbol :: symbols) with
    | some =>
      rw [cut_of_front here] at found
      cases found
      have whole := List.prefix_iff_eq_append.mp (prefix_of_front here)
      exact ⟨whole.symm, here⟩
    | none =>
      rw [cut_of_no_front here] at found
      obtain ⟨later, cutLater, rfl⟩ := Option.map_eq_some_iff.mp found
      obtain ⟨whole, stands⟩ := ih cutLater
      refine ⟨?_, stands⟩
      rw [List.cons_append, ← whole]

theorem mem_of_cut (found : delimiters.cut text = some piece) : piece.delimiter ∈ delimiters.all :=
  mem_of_front (cut_spec found).2

theorem infix_of_cut (found : delimiters.cut text = some piece) : piece.delimiter <:+: text :=
  ⟨piece.before, piece.rest, by rw [List.append_assoc]; exact (cut_spec found).1.symm⟩

theorem length_lt_of_cut (found : delimiters.cut text = some piece) :
    piece.rest.length < text.length := by
  have whole := congrArg List.length (cut_spec found).1
  have some := List.length_pos_iff.mpr (delimiters.nonempty _ (mem_of_cut found))
  rw [List.length_append, List.length_append] at whole
  omega

theorem cut_append (found : delimiters.cut text = some piece) (more : List Symbol) :
    delimiters.cut (text ++ more) = some { piece with rest := piece.rest ++ more } := by
  induction text generalizing piece with
  | nil => cases found
  | cons symbol symbols ih =>
    have stable := front_append (mem_of_cut found) (infix_of_cut found) more
    cases here : delimiters.front (symbol :: symbols) with
    | some =>
      rw [here, List.cons_append] at stable
      rw [cut_of_front here] at found
      cases found
      rw [List.cons_append, cut_of_front stable, ← List.cons_append,
        List.drop_append_of_le_length (prefix_of_front here).length_le]
    | none =>
      rw [here, List.cons_append] at stable
      rw [cut_of_no_front here] at found
      obtain ⟨later, cutLater, rfl⟩ := Option.map_eq_some_iff.mp found
      rw [List.cons_append, cut_of_no_front stable, ih cutLater]
      rfl

theorem cut_past {passed : List Symbol}
    (clear :
      ∀ before symbol after, passed = before ++ symbol :: after →
        delimiters.front (symbol :: (after ++ text)) = none) :
    delimiters.cut (passed ++ text) =
      (delimiters.cut text).map
        (fun later => { later with before := passed ++ later.before }) := by
  induction passed with
  | nil => simp
  | cons symbol symbols ih =>
    have here := clear [] symbol symbols rfl
    have later :=
      ih (fun before other after split =>
        clear (symbol :: before) other after (by rw [split]; rfl))
    rw [List.cons_append, cut_of_no_front here, later, Option.map_map]
    rfl

end CutLemmas

/-- The decoder that cuts off the pieces; it never fails. -/
def puller : Puller Symbol (List Symbol) Empty where
  pull := fun buffer =>
    match delimiters.cut buffer with
    | none => .more buffer
    | some piece => .item piece.before piece.rest
  shrinks := by
    intro buffer rest item pulled
    split at pulled
    · cases pulled
    · rename_i piece found
      cases pulled
      exact length_lt_of_cut found

variable {delimiters} {buffer : List Symbol}

theorem pull_of_cut {piece : Cut Symbol} (found : delimiters.cut buffer = some piece) :
    delimiters.puller.pull buffer = .item piece.before piece.rest := by
  change (match delimiters.cut buffer with
    | none => Pull.more buffer
    | some piece => Pull.item piece.before piece.rest) = _
  rw [found]

theorem pull_of_no_cut (missing : delimiters.cut buffer = none) :
    delimiters.puller.pull buffer = .more buffer := by
  change (match delimiters.cut buffer with
    | none => Pull.more buffer
    | some piece => Pull.item piece.before piece.rest) = _
  rw [missing]

theorem steady_puller : delimiters.puller.Steady where
  more := by
    intro buffer rest pulled arrived
    cases found : delimiters.cut buffer with
    | none =>
      rw [pull_of_no_cut found] at pulled
      cases pulled
      rfl
    | some =>
      rw [pull_of_cut found] at pulled
      cases pulled
  item := by
    intro buffer rest item pulled arrived
    cases found : delimiters.cut buffer with
    | none =>
      rw [pull_of_no_cut found] at pulled
      cases pulled
    | some =>
      rw [pull_of_cut found] at pulled
      cases pulled
      exact pull_of_cut (cut_append found arrived)
  fail := by
    intro buffer rest error
    cases error

end Delimiters

end Strobengine.Foundations
