import Mathlib.Algebra.Group.Nat.Defs
import Mathlib.Data.List.Basic

/-!
# Text operations of the Rust standard library

The Unicode `White_Space` property is listed in full, since Lean's own `Char.isWhitespace` only
knows the ASCII part of it. A place that the source gives as a byte index is given as the number of
characters before it.
-/

namespace Strobengine.Rust

def isWhitespace (character : Char) : Bool :=
  let code := character.toNat
  (9 ≤ code && code ≤ 13) || code == 32 || code == 133 || code == 160 ||
    code == 5760 || (8192 ≤ code && code ≤ 8202) || code == 8232 ||
    code == 8233 || code == 8239 || code == 8287 || code == 12288

def trim (text : String) : String :=
  String.ofList
    ((text.toList.dropWhile isWhitespace).reverse.dropWhile isWhitespace).reverse

@[simp]
theorem trim_empty : trim "" = "" :=
  rfl

variable {text : String}

theorem trim_eq_self (visible : ∀ character ∈ text.toList, isWhitespace character = false) :
    trim text = text := by
  have kept (characters : List Char)
      (all : ∀ character ∈ characters, isWhitespace character = false) :
      characters.dropWhile isWhitespace = characters := by
    cases characters with
    | nil => rfl
    | cons character =>
      rw [List.dropWhile_cons, all character List.mem_cons_self]
      rfl
  rw [trim, kept text.toList visible, kept text.toList.reverse (by simpa using visible),
    List.reverse_reverse, String.ofList_toList]

variable {character : Char}

theorem isWhitespace_of_getLast (trimmed : trim text = text)
    (ends : text.toList.getLast? = some character) : isWhitespace character = false := by
  have whole := congrArg String.toList trimmed
  rw [trim, String.toList_ofList] at whole
  rw [← whole, List.getLast?_reverse] at ends
  have kept := List.head?_dropWhile_not isWhitespace (text.toList.dropWhile isWhitespace).reverse
  rw [ends] at kept
  simpa using kept

theorem isWhitespace_of_head (trimmed : trim text = text)
    (begins : text.toList.head? = some character) : isWhitespace character = false := by
  have whole := congrArg String.toList trimmed
  rw [trim, String.toList_ofList] at whole
  -- nothing was dropped in front, for the whole text is left
  have suffix := List.dropWhile_suffix isWhitespace (l := text.toList)
  have shorter : text.toList.length ≤ (text.toList.dropWhile isWhitespace).length := by
    calc
      text.toList.length =
          ((text.toList.dropWhile isWhitespace).reverse.dropWhile isWhitespace).length :=
        (congrArg List.length whole).symm.trans List.length_reverse
      _ ≤ (text.toList.dropWhile isWhitespace).reverse.length :=
        (List.dropWhile_sublist isWhitespace).length_le
      _ = (text.toList.dropWhile isWhitespace).length := List.length_reverse
  have kept := List.head?_dropWhile_not isWhitespace text.toList
  rw [suffix.eq_of_length_le shorter, begins] at kept
  simpa using kept

def eqIgnoreAsciiCase (first second : String) : Bool :=
  first.toList.map Char.toLower == second.toList.map Char.toLower

theorem eqIgnoreAsciiCase_iff (first second : String) :
    eqIgnoreAsciiCase first second = true ↔
      first.toList.map Char.toLower = second.toList.map Char.toLower := by
  rw [eqIgnoreAsciiCase, beq_iff_eq]

/-! ## Searching and splitting -/

/-- `str::find`, with the position counted in characters. -/
def find (pattern : List Char) : List Char → Option Nat
  | [] => if pattern.isEmpty then some 0 else none
  | character :: rest =>
    if pattern.isPrefixOf (character :: rest) then
      some 0
    else
      (find pattern rest).map (fun position => position + 1)

/-- A line without the carriage return in front of its line feed. -/
def stripCarriageReturn (line : List Char) : List Char :=
  if line.getLast? = some '\r' then line.dropLast else line

/-- `str::lines`: lines end with a line feed, which the last one may lack. -/
def lines (text : List Char) : List (List Char) :=
  let pieces := text.splitOn '\n'
  let ended := pieces.dropLast.map stripCarriageReturn
  match pieces.getLast? with
  | none => ended
  | some last => if last.isEmpty then ended else ended ++ [last]

theorem lines_append_newline {line : List Char} (unbroken : '\n' ∉ line) (rest : List Char) :
    lines (line ++ '\n' :: rest) = stripCarriageReturn line :: lines rest := by
  obtain ⟨piece, pieces, split⟩ := List.exists_cons_of_ne_nil (List.splitOn_ne_nil '\n' rest)
  unfold lines
  rw [List.splitOn_append_cons_self, List.splitOn_eq_singleton unbroken, split]
  simp only [List.singleton_append, List.dropLast_cons_cons, List.map_cons, List.getLast?_cons_cons]
  cases (piece :: pieces).getLast? with
  | none => rfl
  | some last =>
    dsimp only
    by_cases empty : last.isEmpty = true
    · rw [if_pos empty, if_pos empty]
    · rw [if_neg empty, if_neg empty, List.cons_append]

theorem lines_of_unbroken {line : List Char} (unbroken : '\n' ∉ line) (nonempty : line ≠ []) :
    lines line = [line] := by
  unfold lines
  rw [List.splitOn_eq_singleton unbroken]
  simp [nonempty]

/-- `str::parse::<usize>` on a 64-bit target: an optional plus sign, and at least one
digit. -/
def parseUsize (text : String) : Option Nat :=
  let digits :=
    match text.toList with
    | '+' :: rest => rest
    | all => all
  if digits ≠ [] ∧ digits.all Char.isDigit then
    let value := Nat.ofDigitChars 10 digits 0
    if value < 2 ^ 64 then some value else none
  else
    none

variable {value : Nat}

theorem isDigit_of_mem_toString
    (member : character ∈ (toString value).toList) : character.isDigit = true := by
  rw [Nat.toString_eq_repr, Nat.toList_repr] at member
  exact Nat.isDigit_of_mem_toDigits (by decide) (by decide) member

theorem isWhitespace_of_isDigit (digit : character.isDigit = true) :
    isWhitespace character = false := by
  simp only [Char.isDigit, Bool.and_eq_true, decide_eq_true_eq] at digit
  have low : 48 ≤ character.toNat := digit.1
  have high : character.toNat ≤ 57 := digit.2
  simp only [isWhitespace, Bool.or_eq_false_iff, Bool.and_eq_false_iff, decide_eq_false_iff_not,
    beq_eq_false_iff_ne]
  omega

theorem parseUsize_lt (parsed : parseUsize text = some value) : value < 2 ^ 64 := by
  unfold parseUsize at parsed
  extract_lets digits at parsed
  split at parsed
  · split at parsed
    · rename_i small
      rwa [← Option.some.inj parsed]
    · cases parsed
  · cases parsed

theorem parseUsize_trim_toString (bound : value < 2 ^ 64) :
    parseUsize (trim (toString value)) = some value := by
  have digits : ∀ character ∈ (toString value).toList, character.isDigit = true :=
    fun _ member => isDigit_of_mem_toString member
  rw [trim_eq_self (fun character member => isWhitespace_of_isDigit (digits character member))]
  have unsigned :
      (match (toString value).toList with
        | '+' :: rest => rest
        | all => all) = (toString value).toList := by
    split
    · rename_i rest plus
      have digit := digits '+' (by rw [plus]; exact List.mem_cons_self)
      exact absurd digit (by decide)
    · rfl
  have nonempty : (toString value).toList ≠ [] := by
    rw [Nat.toString_eq_repr, Nat.toList_repr]
    exact Nat.toDigits_ne_nil
  have all : (toString value).toList.all Char.isDigit = true := List.all_eq_true.mpr digits
  rw [parseUsize, unsigned]
  simp only
  rw [if_pos ⟨nonempty, all⟩, Nat.toString_eq_repr, Nat.toList_repr,
    Nat.ofDigitChars_ten_toDigits, if_pos bound]

theorem toString_nat_injective : Function.Injective (fun value : Nat => toString value) := by
  intro first second same
  have digits := congrArg String.toList same
  simp only [Nat.toString_eq_repr, Nat.toList_repr] at digits
  rw [← Nat.ofDigitChars_ten_toDigits (n := first), digits, Nat.ofDigitChars_ten_toDigits]

theorem minus_append_ne_repr (first second : Nat) : "-" ++ first.repr ≠ second.repr := by
  intro same
  have texts := congrArg String.toList same
  rw [String.toList_append, Nat.toList_repr, Nat.toList_repr] at texts
  have member : '-' ∈ Nat.toDigits 10 second := by
    rw [← texts]
    exact List.mem_cons_self
  have digit := Nat.isDigit_of_mem_toDigits (by decide) (by decide) member
  exact absurd digit (by decide)

theorem toString_int_injective : Function.Injective (fun value : Int => toString value) := by
  intro first second same
  cases first with
  | ofNat first =>
    cases second with
    | ofNat => exact congrArg Int.ofNat (toString_nat_injective same)
    | negSucc second => exact absurd same.symm (minus_append_ne_repr (second + 1) first)
  | negSucc first =>
    cases second with
    | ofNat second => exact absurd same (minus_append_ne_repr (first + 1) second)
    | negSucc second =>
      have texts := congrArg String.toList same
      have digits : first.succ.repr = second.succ.repr := by
        apply String.toList_injective
        simpa [toString, Int.repr] using texts
      have successors : first.succ = second.succ := toString_nat_injective digits
      exact congrArg Int.negSucc (Nat.succ.inj successors)

end Strobengine.Rust
